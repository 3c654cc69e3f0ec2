import RegisterMachine.Proofs.Wire.Acceptance
import RegisterMachine.Wire.Message

/-!
# Proofs — Wire — Round trip

A value that is written and read again, in front of any other bytes, comes back with those bytes
left over, as long as none of its lengths is over the limit.  Otherwise reading fails, and the error
names the first length over the limit, in the order in which the lengths are written
(`decode_encode_or_overflow`).

The first half is `decode_eq_ok_iff`.  The second goes by induction on the shape
(`decode_encode_of_overlong`): what stands in front of the first length over the limit is in limit
itself, so it is read back, and reading gets as far as that length.  Eight bytes hold a length below
`byteLimit 8`; a greater one could not be written.
-/

namespace RegisterMachine.Wire

namespace Decoder

variable {α β : Type} {d : Decoder α} {bs : List UInt8} {e : DecodeError}

theorem map_of_error (f : α → β) (h : (d bs).1 = .error e) : (d.map f bs).1 = .error e := by
  rw [map]
  split
  · next a rest hd =>
      rw [hd] at h
      cases h
  · next e' rest hd =>
      rw [hd] at h
      cases h
      rfl

theorem andThen_of_error (next : α → Decoder β) (h : (d bs).1 = .error e) :
    (d.andThen next bs).1 = .error e := by
  rw [andThen]
  split
  · next a rest hd =>
      rw [hd] at h
      cases h
  · next e' rest hd =>
      rw [hd] at h
      cases h
      rfl

theorem andThen_of_ok {a : α} {rest : List UInt8} (next : α → Decoder β)
    (h : d bs = (.ok a, rest)) : d.andThen next bs = next a rest := by
  rw [andThen, h]

/-- A length that eight bytes can hold is refused if it is over the limit. -/
theorem length_of_lt {n : Nat} (hw : n < byteLimit 8) (h : maxLength < n) (rest : List UInt8) :
    (length (littleEndian 8 n ++ rest)).1 = .error (.lengthOverflow n) := by
  rw [length, andThen_of_ok _ (number_eq_ok_iff.mpr ⟨hw, rfl⟩), if_neg (Nat.not_le.mpr h)]
  rfl

/-- Values one after the other fail like the first of them that fails.  `refused` is the length that
is refused in a value, if one is. -/
theorem listOnto_of_findSome? {enc : α → List UInt8} (refused : α → Option Nat) {xs : List α}
    (hok : ∀ x ∈ xs, refused x = none → ∀ rest, d (enc x ++ rest) = (.ok x, rest))
    (herr : ∀ x ∈ xs, ∀ n, refused x = some n →
      ∀ rest, (d (enc x ++ rest)).1 = .error (.lengthOverflow n))
    {n : Nat} (h : xs.findSome? refused = some n) (read : List α) (rest : List UInt8) :
    (listOnto d read xs.length (xs.flatMap enc ++ rest)).1 = .error (.lengthOverflow n) := by
  induction xs generalizing read with
  | nil => cases h
  | cons x xs ih =>
      rw [List.flatMap_cons, List.append_assoc, List.length_cons, listOnto]
      rw [List.findSome?_cons] at h
      cases hx : refused x with
      | none =>
          rw [hx] at h
          rw [hok x List.mem_cons_self hx]
          exact ih (fun y hy => hok y (List.mem_cons_of_mem x hy))
            (fun y hy => herr y (List.mem_cons_of_mem x hy)) h _
      | some m =>
          rw [hx] at h
          cases h
          have hd := herr x List.mem_cons_self n hx (xs.flatMap enc ++ rest)
          split
          · next a mid ha =>
              rw [ha] at hd
              cases hd
          · next e mid he =>
              rw [he] at hd
              cases hd
              rfl

end Decoder

namespace Shape

/-- A value of which no length is over the limit is read back. -/
theorem decode_encode (s : Shape) {v : s.Value} (h : s.InLimit v) (rest : List UInt8) :
    s.decode (s.encode v ++ rest) = (.ok v, rest) :=
  s.decode_eq_ok_iff.mpr ⟨h, rfl⟩

/-- **Reading stops at the first length that is over the limit.** -/
theorem decode_encode_of_overlong (s : Shape) {v : s.Value} {n : Nat}
    (hw : ∀ m ∈ s.lengths v, m < byteLimit 8) (h : s.overlong? v = some n) (rest : List UInt8) :
    (s.decode (s.encode v ++ rest)).1 = .error (.lengthOverflow n) := by
  induction s generalizing n rest with
  | byte | word | long | signed | size | unit => cases h
  | text =>
      obtain ⟨hmem, hn⟩ := overlong?_eq_some h
      obtain rfl := List.mem_singleton.mp hmem
      rw [decode, encode, List.append_assoc]
      exact Decoder.andThen_of_error _
        (Decoder.length_of_lt (hw _ List.mem_cons_self) hn _)
  | list s ih =>
      obtain ⟨hlen, hall⟩ := List.forall_mem_cons.mp hw
      rw [overlong?_list] at h
      rw [decode, encode, List.append_assoc]
      split at h
      · next hlt =>
          cases h
          exact Decoder.andThen_of_error _ (Decoder.length_of_lt hlen hlt _)
      · next hle =>
          rw [Decoder.andThen_of_ok _ (Decoder.length_eq_ok_iff.mpr ⟨Nat.not_lt.mp hle, rfl⟩)]
          refine Decoder.listOnto_of_findSome? s.overlong?
            (fun x _ hx rest => ?_) (fun x hx m hm rest => ?_) h [] rest
          · exact s.decode_encode (overlong?_eq_none_iff.mp hx) rest
          · exact ih (fun k hk => hall k (List.mem_flatMap.mpr ⟨x, hx, hk⟩)) hm rest
  | pair s t ihs iht =>
      obtain ⟨x, y⟩ := v
      obtain ⟨hx, hy⟩ := List.forall_mem_append.mp hw
      rw [overlong?_pair] at h
      rw [decode, encode, List.append_assoc]
      cases hs : s.overlong? x with
      | some m =>
          rw [hs] at h
          cases h
          exact Decoder.andThen_of_error _ (ihs hx hs _)
      | none =>
          rw [hs, Option.none_or] at h
          rw [Decoder.andThen_of_ok _ (s.decode_encode (overlong?_eq_none_iff.mp hs) _)]
          exact Decoder.map_of_error _ (iht hy h rest)
  | choice s t ihs iht =>
      cases v with
      | inl x =>
          have htag : Decoder.number 1 (0 :: s.encode x ++ rest) = (.ok 0, s.encode x ++ rest) :=
            Decoder.number_eq_ok_iff.mpr ⟨by decide, rfl⟩
          rw [decode, encode, Decoder.andThen_of_ok _ htag]
          exact Decoder.map_of_error _ (ihs hw h rest)
      | inr y =>
          have htag : Decoder.number 1 (1 :: t.encode y ++ rest) = (.ok 1, t.encode y ++ rest) :=
            Decoder.number_eq_ok_iff.mpr ⟨by decide, rfl⟩
          rw [decode, encode, Decoder.andThen_of_ok _ htag]
          exact Decoder.map_of_error _ (iht hw h rest)

end Shape

namespace Format

variable {α : Type} (f : Format α) {a : α}

theorem decode_encode (h : f.InLimit a) (rest : List UInt8) :
    f.decode (f.encode a ++ rest) = (.ok a, rest) :=
  f.decode_eq_ok_iff.mpr ⟨h, rfl⟩

theorem decode_encode_of_overlong {n : Nat} (hw : ∀ m ∈ f.lengths a, m < byteLimit 8)
    (h : f.overlong? a = some n) (rest : List UInt8) :
    (f.decode (f.encode a ++ rest)).1 = .error (.lengthOverflow n) :=
  Decoder.map_of_error _ (f.shape.decode_encode_of_overlong hw h rest)

end Format

/-- **Round trip, with its exact domain.**  Let all lengths of a value fit in the eight bytes that
hold a length.  If none is over the limit, then the value is read back from its bytes, and what
follows them is left.  Otherwise reading fails and names the first length over the limit.  This
holds for the values of every shape, and for whatever is written in a shape: reports, requests and
responses (`Report.format`, `Request.format`, `Response.format`). -/
theorem decode_encode_or_overflow :
    (∀ (s : Shape) (v : s.Value) (rest : List UInt8), (∀ n ∈ s.lengths v, n < byteLimit 8) →
      (s.InLimit v → s.decode (s.encode v ++ rest) = (.ok v, rest)) ∧
      (¬ s.InLimit v → ∃ n, s.overlong? v = some n ∧
        (s.decode (s.encode v ++ rest)).1 = .error (.lengthOverflow n))) ∧
    (∀ (α : Type) (f : Format α) (a : α) (rest : List UInt8),
      (∀ n ∈ f.lengths a, n < byteLimit 8) →
      (f.InLimit a → f.decode (f.encode a ++ rest) = (.ok a, rest)) ∧
      (¬ f.InLimit a → ∃ n, f.overlong? a = some n ∧
        (f.decode (f.encode a ++ rest)).1 = .error (.lengthOverflow n))) := by
  refine ⟨?_, ?_⟩
  · intro s v rest hw
    refine ⟨fun h => s.decode_encode h rest, ?_⟩
    intro h
    obtain ⟨n, hn⟩ := Shape.exists_overlong? h
    exact ⟨n, hn, s.decode_encode_of_overlong hw hn rest⟩
  · intro α f a rest hw
    refine ⟨fun h => f.decode_encode h rest, ?_⟩
    intro h
    obtain ⟨n, hn⟩ := Shape.exists_overlong? h
    exact ⟨n, hn, f.decode_encode_of_overlong hw hn rest⟩

/-- One byte more than the limit is one too many; a list of pairs in limit comes back; and so does
a response, in front of another. -/
theorem decode_encode_or_overflow_at_limit :
    ((Shape.list .byte).decode
      ((Shape.list .byte).encode (List.replicate (maxLength + 1) 0) ++ [7])).1
        = .error (.lengthOverflow (maxLength + 1)) ∧
    (Shape.list (.pair .text .signed)).decode
      ((Shape.list (.pair .text .signed)).encode [("eax", 42), ("esp", -4)] ++ [7])
        = (.ok [("eax", 42), ("esp", -4)], [7]) ∧
    Response.format.decode (Response.format.encode (.rejected "é") ++ [1])
      = (.ok (.rejected "é"), [1]) := by
  refine ⟨?_, ?_, ?_⟩
  · have hone : (Shape.list .byte).lengths (List.replicate (maxLength + 1) 0)
        = [maxLength + 1] := by
      simp [Shape.lengths]
    have hw : ∀ n ∈ (Shape.list .byte).lengths (List.replicate (maxLength + 1) 0),
        n < byteLimit 8 := by
      rw [hone]
      decide
    have hover : (Shape.list .byte).overlong? (List.replicate (maxLength + 1) 0)
        = some (maxLength + 1) := by
      rw [Shape.overlong?, hone]
      decide
    have hnot : ¬ (Shape.list .byte).InLimit (List.replicate (maxLength + 1) 0) := by
      rw [Shape.InLimit, hone]
      decide
    obtain ⟨n, hn, h⟩ := (decode_encode_or_overflow.1 _ _ [7] hw).2 hnot
    obtain rfl := Option.some.inj (hover.symm.trans hn)
    exact h
  · exact (decode_encode_or_overflow.1 (.list (.pair .text .signed)) [("eax", 42), ("esp", -4)] [7]
      (by decide)).1 (by decide)
  · exact (decode_encode_or_overflow.2 Response Response.format (.rejected "é") [1]
      (by decide)).1 (by decide)

end RegisterMachine.Wire
