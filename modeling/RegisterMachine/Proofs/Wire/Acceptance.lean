import RegisterMachine.Proofs.Wire.Lengths

/-!
# Proofs — Wire — What decoders accept

A decoder accepts exactly what encoding writes, in front of any rest, as long as no length is over
the limit (`Shape.decode_eq_ok_iff`).  Read from right to left this is the round trip: what is
written is read back.  Read from left to right it says that a value has one written form: bytes that
are accepted are the bytes that encoding would have written.

The proof is one induction on the shape.  Each part of a decoder has an equivalence of the same form
(`number_eq_ok_iff`, `length_eq_ok_iff`, `text_eq_ok_iff`, `list_eq_ok_iff`), and sequencing two
decoders splits the bytes between them (`andThen_eq_ok_iff`).
-/

namespace RegisterMachine.Wire

/-- Bytes are the UTF-8 form of a text if and only if they are the bytes of that text. -/
theorem fromUTF8?_eq_some_iff {bs : List UInt8} {x : String} :
    String.fromUTF8? bs.toByteArray = some x ↔ bs = x.toByteArray.data.toList := by
  unfold String.fromUTF8?
  constructor
  · intro h
    split at h
    · obtain rfl := Option.some.inj h
      exact List.toList_data_toByteArray.symm
    · cases h
  · rintro rfl
    have hback : x.toByteArray.data.toList.toByteArray = x.toByteArray :=
      ByteArray.ext (by rw [List.data_toByteArray])
    rw [hback, dif_pos x.isValidUTF8]
    rfl

namespace Decoder

variable {α β : Type} {d : Decoder α} {bs rest : List UInt8}

theorem map_eq_ok_iff {f : α → β} {b : β} :
    d.map f bs = (.ok b, rest) ↔ ∃ a, d bs = (.ok a, rest) ∧ f a = b := by
  rw [map]
  split
  · next a mid hd =>
      rw [hd]
      constructor
      · intro h
        cases h
        exact ⟨a, rfl, rfl⟩
      · rintro ⟨a', h, rfl⟩
        cases h
        rfl
  · next e mid hd =>
      rw [hd]
      constructor
      · intro h
        cases h
      · rintro ⟨a, h, -⟩
        cases h

theorem andThen_eq_ok_iff {next : α → Decoder β} {b : β} :
    d.andThen next bs = (.ok b, rest) ↔
      ∃ a mid, d bs = (.ok a, mid) ∧ next a mid = (.ok b, rest) := by
  rw [andThen]
  split
  · next a mid hd =>
      rw [hd]
      constructor
      · intro h
        exact ⟨a, mid, rfl, h⟩
      · rintro ⟨a', mid', h, hn⟩
        cases h
        exact hn
  · next e mid hd =>
      rw [hd]
      constructor
      · intro h
        cases h
      · rintro ⟨a, mid', h, -⟩
        cases h

theorem bytes_eq_ok_iff {n : Nat} {front : List UInt8} :
    bytes n bs = (.ok front, rest) ↔ front.length = n ∧ bs = front ++ rest := by
  rw [bytes, and_comm, ← cut?_eq_some_iff]
  split
  · next front' rest' hcut =>
      rw [hcut, Prod.mk.injEq, Except.ok.injEq, Option.some.injEq, Prod.mk.injEq]
  · next hcut =>
      rw [hcut]
      constructor <;> intro h <;> cases h

theorem number_eq_ok_iff {k n : Nat} :
    number k bs = (.ok n, rest) ↔ n < byteLimit k ∧ bs = littleEndian k n ++ rest := by
  rw [number, map_eq_ok_iff]
  constructor
  · rintro ⟨front, h, rfl⟩
    obtain ⟨rfl, rfl⟩ := bytes_eq_ok_iff.mp h
    exact ⟨ofLittleEndian_lt front, by rw [littleEndian_ofLittleEndian]⟩
  · rintro ⟨hn, rfl⟩
    exact ⟨littleEndian k n, bytes_eq_ok_iff.mpr ⟨length_littleEndian k n, rfl⟩,
      ofLittleEndian_littleEndian hn⟩

theorem length_eq_ok_iff {n : Nat} :
    length bs = (.ok n, rest) ↔ n ≤ maxLength ∧ bs = littleEndian 8 n ++ rest := by
  rw [length, andThen_eq_ok_iff]
  constructor
  · rintro ⟨n', mid, hnum, h⟩
    split at h
    · next hle =>
        cases h
        exact ⟨hle, (number_eq_ok_iff.mp hnum).2⟩
    · cases h
  · rintro ⟨hle, rfl⟩
    have hn : n < byteLimit 8 := Nat.lt_of_le_of_lt hle (by decide)
    exact ⟨n, rest, number_eq_ok_iff.mpr ⟨hn, rfl⟩, by rw [if_pos hle]⟩

theorem text_eq_ok_iff {n : Nat} {x : String} :
    text n bs = (.ok x, rest) ↔
      x.utf8ByteSize = n ∧ bs = x.toByteArray.data.toList ++ rest := by
  rw [text, andThen_eq_ok_iff]
  constructor
  · rintro ⟨front, mid, hb, h⟩
    obtain ⟨rfl, rfl⟩ := bytes_eq_ok_iff.mp hb
    cases hx : String.fromUTF8? front.toByteArray with
    | some y =>
        rw [hx] at h
        cases h
        obtain rfl := fromUTF8?_eq_some_iff.mp hx
        exact ⟨rfl, rfl⟩
    | none =>
        rw [hx] at h
        cases h
  · rintro ⟨rfl, rfl⟩
    refine ⟨x.toByteArray.data.toList, rest, bytes_eq_ok_iff.mpr ⟨rfl, rfl⟩, ?_⟩
    rw [fromUTF8?_eq_some_iff.mpr rfl]

/-- A row of values is accepted where each value is, one after the other.  `P` is the condition
under which a single value is accepted. -/
theorem listOnto_eq_ok_iff {enc : α → List UInt8} {P : α → Prop}
    (hd : ∀ {bs a rest}, d bs = (.ok a, rest) ↔ P a ∧ bs = enc a ++ rest) {read xs : List α}
    {n : Nat} :
    listOnto d read n bs = (.ok xs, rest) ↔
      ∃ new, xs = read.reverse ++ new ∧ new.length = n ∧ (∀ x ∈ new, P x) ∧
        bs = new.flatMap enc ++ rest := by
  induction n generalizing bs read with
  | zero =>
      rw [listOnto, Prod.mk.injEq, Except.ok.injEq]
      constructor
      · rintro ⟨rfl, rfl⟩
        exact ⟨[], (List.append_nil _).symm, rfl, fun _ h => absurd h List.not_mem_nil, rfl⟩
      · rintro ⟨new, rfl, hlen, -, rfl⟩
        obtain rfl := List.length_eq_zero_iff.mp hlen
        exact ⟨(List.append_nil _).symm, rfl⟩
  | succ n ih =>
      rw [listOnto]
      split
      · next a mid ha =>
          obtain ⟨hP, rfl⟩ := hd.mp ha
          rw [ih]
          constructor
          · rintro ⟨new, rfl, rfl, hnew, rfl⟩
            refine ⟨a :: new, ?_, rfl, List.forall_mem_cons.mpr ⟨hP, hnew⟩, ?_⟩
            · rw [List.reverse_cons, List.append_assoc, List.singleton_append]
            · rw [List.flatMap_cons, List.append_assoc]
          · rintro ⟨new, rfl, hlen, hnew, hbs⟩
            obtain ⟨x, new, rfl⟩ := List.exists_cons_of_length_eq_add_one hlen
            obtain ⟨hx, hrest⟩ := List.forall_mem_cons.mp hnew
            rw [List.flatMap_cons, List.append_assoc] at hbs
            -- the first value is the one that was read: decoding is a function
            obtain ⟨hax, hmid⟩ := Prod.mk.inj (ha.symm.trans (hd.mpr ⟨hx, hbs⟩))
            obtain rfl := Except.ok.inj hax
            refine ⟨new, ?_, Nat.succ.inj hlen, hrest, hmid⟩
            rw [List.reverse_cons, List.append_assoc, List.singleton_append]
      · next e mid he =>
          constructor
          · intro h
            cases h
          · rintro ⟨new, -, hlen, hnew, rfl⟩
            obtain ⟨x, new, rfl⟩ := List.exists_cons_of_length_eq_add_one hlen
            obtain ⟨hx, -⟩ := List.forall_mem_cons.mp hnew
            rw [List.flatMap_cons, List.append_assoc, hd.mpr ⟨hx, rfl⟩] at he
            cases he

theorem list_eq_ok_iff {enc : α → List UInt8} {P : α → Prop}
    (hd : ∀ {bs a rest}, d bs = (.ok a, rest) ↔ P a ∧ bs = enc a ++ rest) {xs : List α}
    {n : Nat} :
    list d n bs = (.ok xs, rest) ↔
      xs.length = n ∧ (∀ x ∈ xs, P x) ∧ bs = xs.flatMap enc ++ rest := by
  rw [list, listOnto_eq_ok_iff hd]
  constructor
  · rintro ⟨new, rfl, h⟩
    exact h
  · intro h
    exact ⟨xs, rfl, h⟩

theorem whole_eq_ok_iff {a : α} : d.whole bs = .ok a ↔ d bs = (.ok a, []) := by
  rw [whole]
  split
  · next e rest hd =>
      rw [hd]
      constructor <;> intro h <;> cases h
  · next a' hd =>
      rw [hd, Prod.mk.injEq, and_iff_left rfl]
  · next a' rest hne hd =>
      rw [hd]
      constructor
      · intro h
        cases h
      · intro h
        exact absurd (Prod.mk.inj h).2 hne

end Decoder

namespace Shape

/-- A number of `k` bytes is accepted where its bytes stand.  `ofNat` and `toNat` say how the
values of a shape are numbers. -/
theorem number_map_eq_ok_iff {α : Type} (k : Nat) (ofNat : Nat → α) (toNat : α → Nat)
    (hlt : ∀ a, toNat a < byteLimit k) (hof : ∀ a, ofNat (toNat a) = a)
    (hto : ∀ n < byteLimit k, toNat (ofNat n) = n) {bs rest : List UInt8} {a : α} :
    (Decoder.number k).map ofNat bs = (.ok a, rest) ↔ bs = littleEndian k (toNat a) ++ rest := by
  rw [Decoder.map_eq_ok_iff]
  constructor
  · rintro ⟨n, hn, rfl⟩
    obtain ⟨hlt, rfl⟩ := Decoder.number_eq_ok_iff.mp hn
    rw [hto n hlt]
  · rintro rfl
    exact ⟨toNat a, Decoder.number_eq_ok_iff.mpr ⟨hlt a, rfl⟩, hof a⟩

theorem littleEndian_one (b : UInt8) : littleEndian 1 b.toNat = [b] := by
  rw [littleEndian, UInt8.ofNat_toNat, littleEndian]

/-- **What a decoder accepts.**  Reading gives `v` and leaves `rest` if and only if no length of
`v` is over the limit and the bytes are those of `v` in front of `rest`. -/
theorem decode_eq_ok_iff (s : Shape) {v : s.Value} {bs rest : List UInt8} :
    s.decode bs = (.ok v, rest) ↔ s.InLimit v ∧ bs = s.encode v ++ rest := by
  induction s generalizing bs rest with
  | byte =>
      rw [and_iff_right (inLimit_of_lengths_eq_nil rfl), encode, ← littleEndian_one]
      exact number_map_eq_ok_iff 1 UInt8.ofNat UInt8.toNat UInt8.toNat_lt
        (fun _ => UInt8.ofNat_toNat) (fun n hn => UInt8.toNat_ofNat_of_lt hn)
  | word =>
      rw [and_iff_right (inLimit_of_lengths_eq_nil rfl)]
      exact number_map_eq_ok_iff 4 UInt32.ofNat UInt32.toNat UInt32.toNat_lt
        (fun _ => UInt32.ofNat_toNat) (fun n hn => UInt32.toNat_ofNat_of_lt hn)
  | long | size =>
      rw [and_iff_right (inLimit_of_lengths_eq_nil rfl)]
      exact number_map_eq_ok_iff 8 UInt64.ofNat UInt64.toNat UInt64.toNat_lt
        (fun _ => UInt64.ofNat_toNat) (fun n hn => UInt64.toNat_ofNat_of_lt hn)
  | signed =>
      rw [and_iff_right (inLimit_of_lengths_eq_nil rfl)]
      exact number_map_eq_ok_iff 8 (fun n => (UInt64.ofNat n).toInt64)
        (fun a => a.toUInt64.toNat) (fun a => a.toUInt64.toNat_lt)
        (fun a => by rw [UInt64.ofNat_toNat, Int64.toInt64_toUInt64])
        (fun n hn => UInt64.toNat_ofNat_of_lt hn)
  | text =>
      rw [decode, Decoder.andThen_eq_ok_iff, inLimit_text, encode, List.append_assoc]
      constructor
      · rintro ⟨n, mid, hlen, htext⟩
        obtain ⟨rfl, rfl⟩ := Decoder.text_eq_ok_iff.mp htext
        exact Decoder.length_eq_ok_iff.mp hlen
      · intro h
        exact ⟨_, _, Decoder.length_eq_ok_iff.mpr h, Decoder.text_eq_ok_iff.mpr ⟨rfl, rfl⟩⟩
  | unit =>
      rw [decode, encode, List.nil_append, Prod.mk.injEq, and_iff_right rfl]
      exact (and_iff_right fun n hn => absurd hn List.not_mem_nil).symm
  | list s ih =>
      rw [decode, Decoder.andThen_eq_ok_iff, inLimit_list, encode, List.append_assoc]
      constructor
      · rintro ⟨n, mid, hlen, hlist⟩
        obtain ⟨rfl, hall, rfl⟩ := (Decoder.list_eq_ok_iff ih).mp hlist
        obtain ⟨hn, rfl⟩ := Decoder.length_eq_ok_iff.mp hlen
        exact ⟨⟨hn, hall⟩, rfl⟩
      · rintro ⟨⟨hn, hall⟩, rfl⟩
        exact ⟨_, _, Decoder.length_eq_ok_iff.mpr ⟨hn, rfl⟩,
          (Decoder.list_eq_ok_iff ih).mpr ⟨rfl, hall, rfl⟩⟩
  | pair s t ihs iht =>
      obtain ⟨x, y⟩ := v
      rw [decode, Decoder.andThen_eq_ok_iff, inLimit_pair, encode, List.append_assoc]
      constructor
      · rintro ⟨x', mid, hx, hy⟩
        obtain ⟨y', hy, h⟩ := Decoder.map_eq_ok_iff.mp hy
        cases h
        obtain ⟨hxl, rfl⟩ := ihs.mp hx
        obtain ⟨hyl, rfl⟩ := iht.mp hy
        exact ⟨⟨hxl, hyl⟩, rfl⟩
      · rintro ⟨⟨hxl, hyl⟩, rfl⟩
        exact ⟨x, _, ihs.mpr ⟨hxl, rfl⟩, Decoder.map_eq_ok_iff.mpr ⟨y, iht.mpr ⟨hyl, rfl⟩, rfl⟩⟩
  | choice s t ihs iht =>
      rw [decode, Decoder.andThen_eq_ok_iff]
      constructor
      · rintro ⟨tag, mid, htag, h⟩
        obtain ⟨-, rfl⟩ := Decoder.number_eq_ok_iff.mp htag
        split at h
        · next h0 =>
            obtain ⟨x, hx, rfl⟩ := Decoder.map_eq_ok_iff.mp h
            obtain ⟨hxl, rfl⟩ := ihs.mp hx
            exact ⟨hxl, by rw [h0]; rfl⟩
        · split at h
          · next h1 =>
              obtain ⟨y, hy, rfl⟩ := Decoder.map_eq_ok_iff.mp h
              obtain ⟨hyl, rfl⟩ := iht.mp hy
              exact ⟨hyl, by rw [h1]; rfl⟩
          · cases h
      · rintro ⟨hv, rfl⟩
        cases v with
        | inl x =>
            refine ⟨0, s.encode x ++ rest, Decoder.number_eq_ok_iff.mpr ⟨by decide, rfl⟩, ?_⟩
            exact Decoder.map_eq_ok_iff.mpr ⟨x, ihs.mpr ⟨hv, rfl⟩, rfl⟩
        | inr y =>
            refine ⟨1, t.encode y ++ rest, Decoder.number_eq_ok_iff.mpr ⟨by decide, rfl⟩, ?_⟩
            exact Decoder.map_eq_ok_iff.mpr ⟨y, iht.mpr ⟨hv, rfl⟩, rfl⟩

end Shape

namespace Format

variable {α : Type} (f : Format α)

theorem decode_eq_ok_iff {a : α} {bs rest : List UInt8} :
    f.decode bs = (.ok a, rest) ↔ f.InLimit a ∧ bs = f.encode a ++ rest := by
  rw [decode, Decoder.map_eq_ok_iff]
  constructor
  · rintro ⟨v, hv, rfl⟩
    rw [InLimit, encode, f.toValue_ofValue]
    exact f.shape.decode_eq_ok_iff.mp hv
  · intro h
    exact ⟨f.toValue a, f.shape.decode_eq_ok_iff.mpr h, f.ofValue_toValue a⟩

/-- Bytes are those of a value, and of no other, if no length of it is over the limit. -/
theorem ofBytes_eq_ok_iff {a : α} {bs : List UInt8} :
    f.ofBytes bs = .ok a ↔ f.InLimit a ∧ bs = f.encode a := by
  rw [ofBytes, Decoder.whole_eq_ok_iff, f.decode_eq_ok_iff, List.append_nil]

end Format

end RegisterMachine.Wire
