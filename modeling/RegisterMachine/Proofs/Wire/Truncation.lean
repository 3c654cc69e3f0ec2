import RegisterMachine.Proofs.Wire.RoundTrip

/-!
# Proofs — Wire — Truncation

A reader that wants one value, and all bytes to belong to it, takes neither fewer bytes than were
written nor more (`cut_and_padding_detected`).  If bytes are missing at the end, it always says that
the input has ended, wherever the cut is: within a number, a length or a character of a text, behind
a tag, or between two values of a list.  If there are bytes to spare, it says how many.

Of the two, the cut is the one with an argument.  The bytes of a value are needed to the last of
them (`Decoder.Needs`).  When decoders follow one another, a cut is either in what the first of them
reads, and then it fails as it would by itself, or behind, and then the first has read its value and
the cut is in what the next one reads (`Decoder.Needs.andThen`).  So every length and every tag that
a reader gets to judge is a whole one.
-/

namespace RegisterMachine.Wire

namespace Decoder

variable {α β : Type} {d : Decoder α}

/-- The decoder needs all of these bytes: if some are missing at the end, then it comes to the end
of its input. -/
def Needs (d : Decoder α) (bs : List UInt8) : Prop :=
  ∀ front back, back ≠ [] → front ++ back = bs → (d front).1 = .error .unexpectedEnd

theorem needs_nil (d : Decoder α) : d.Needs [] := by
  intro front back hback h
  exact absurd (List.append_eq_nil_iff.mp h).2 hback

theorem needs_bytes {bs : List UInt8} {n : Nat} (hn : bs.length = n) : (bytes n).Needs bs := by
  rintro front back hback rfl
  have hpos := List.length_pos_iff.mpr hback
  rw [List.length_append] at hn
  have hcut : cut? n front = none := cut?_eq_none_iff.mpr (by omega)
  rw [bytes, hcut]

namespace Needs

theorem of_isPrefix {bs front : List UInt8} (hd : d.Needs bs) (h : front <+: bs)
    (hne : front ≠ bs) : (d front).1 = .error .unexpectedEnd := by
  obtain ⟨back, rfl⟩ := h
  refine hd front back ?_ rfl
  rintro rfl
  exact hne (List.append_nil front).symm

theorem map {bs : List UInt8} (hd : d.Needs bs) (f : α → β) : (d.map f).Needs bs := by
  intro front back hback h
  exact map_of_error f (hd front back hback h)

/-- What follows is not reached. -/
theorem first {bs : List UInt8} (hd : d.Needs bs) (next : α → Decoder β) :
    (d.andThen next).Needs bs := by
  intro front back hback h
  exact andThen_of_error next (hd front back hback h)

/-- **One after the other.**  A cut is in what the first decoder reads, or in what the next one
reads. -/
theorem andThen {as bs : List UInt8} {a : α} {next : α → Decoder β} (hd : d.Needs as)
    (hread : ∀ rest, d (as ++ rest) = (.ok a, rest)) (hnext : (next a).Needs bs) :
    (d.andThen next).Needs (as ++ bs) := by
  -- a cut behind the first value, which is read
  have hbehind : ∀ mid back, back ≠ [] → mid ++ back = bs →
      (d.andThen next (as ++ mid)).1 = .error .unexpectedEnd := by
    intro mid back hback h
    rw [andThen_of_ok next (hread mid)]
    exact hnext mid back hback h
  intro front back hback h
  rcases List.append_eq_append_iff.mp h with ⟨mid, rfl, rfl⟩ | ⟨mid, rfl, rfl⟩
  · by_cases hmid : mid = []
    · subst hmid
      rw [List.append_nil] at hbehind
      have hcut := hbehind [] bs hback rfl
      rwa [List.append_nil] at hcut
    · exact hd.first next front mid hmid rfl
  · exact hbehind mid back hback rfl

end Needs

theorem needs_number {bs : List UInt8} {k : Nat} (hk : bs.length = k) : (number k).Needs bs :=
  (needs_bytes hk).map ofLittleEndian

theorem needs_length (n : Nat) : length.Needs (littleEndian 8 n) :=
  (needs_number (length_littleEndian 8 n)).first _

/-- The bytes are counted before they are looked at, so that a cut within a character does not make
the text invalid. -/
theorem needs_text (x : String) : (text x.utf8ByteSize).Needs x.toByteArray.data.toList :=
  (needs_bytes rfl).first _

theorem listOnto_succ (d : Decoder α) (read : List α) (n : Nat) :
    listOnto d read (n + 1) = d.andThen fun a => listOnto d (a :: read) n :=
  rfl

/-- A row of values that are each read back, and each needed to the last byte. -/
theorem needs_listOnto {enc : α → List UInt8} {xs : List α}
    (hread : ∀ x ∈ xs, ∀ rest, d (enc x ++ rest) = (.ok x, rest))
    (hneeds : ∀ x ∈ xs, d.Needs (enc x)) (read : List α) :
    (listOnto d read xs.length).Needs (xs.flatMap enc) := by
  induction xs generalizing read with
  | nil => exact needs_nil _
  | cons x xs ih =>
      obtain ⟨hx, hxs⟩ := List.forall_mem_cons.mp hread
      obtain ⟨hneedsx, hneedsxs⟩ := List.forall_mem_cons.mp hneeds
      rw [List.length_cons, listOnto_succ, List.flatMap_cons]
      exact hneedsx.andThen hx (ih hxs hneedsxs (x :: read))

variable {bs rest : List UInt8}

theorem whole_of_error {e : DecodeError} (h : (d bs).1 = .error e) : d.whole bs = .error e := by
  rw [whole]
  split
  · next e' rest he =>
      rw [he] at h
      exact h
  · next a ha =>
      rw [ha] at h
      cases h
  · next a rest _ ha =>
      rw [ha] at h
      cases h

theorem whole_of_rest {a : α} (h : d bs = (.ok a, rest)) (hrest : rest ≠ []) :
    d.whole bs = .error (.trailingBytes rest.length) := by
  obtain ⟨b, rest, rfl⟩ := List.exists_cons_of_ne_nil hrest
  rw [whole, h]

/-- **What is read, and needed to the last byte,** is taken as it is: cut off, it is too short, and
with bytes behind it, too long. -/
theorem Needs.detected {a : α} (hneeds : d.Needs bs)
    (hread : ∀ rest, d (bs ++ rest) = (.ok a, rest)) :
    (∀ front, front <+: bs → front ≠ bs →
      (d front).1 = .error .unexpectedEnd ∧ d.whole front = .error .unexpectedEnd) ∧
    ∀ padding, padding ≠ [] →
      d.whole (bs ++ padding) = .error (.trailingBytes padding.length) := by
  refine ⟨fun front hfront hne => ?_, fun padding hpadding => ?_⟩
  · have hcut := hneeds.of_isPrefix hfront hne
    exact ⟨hcut, whole_of_error hcut⟩
  · exact whole_of_rest (hread padding) hpadding

end Decoder

namespace Shape

/-- **Every byte of a value is needed.** -/
theorem needs_decode (s : Shape) {v : s.Value} (h : s.InLimit v) :
    s.decode.Needs (s.encode v) := by
  induction s with
  | byte | word | long | signed | size =>
      exact (Decoder.needs_number (by simp [encode])).map _
  | text =>
      have hread : ∀ rest, Decoder.length (littleEndian 8 v.utf8ByteSize ++ rest) =
          (.ok v.utf8ByteSize, rest) :=
        fun _ => Decoder.length_eq_ok_iff.mpr ⟨inLimit_text.mp h, rfl⟩
      exact (Decoder.needs_length _).andThen hread (Decoder.needs_text v)
  | unit => exact Decoder.needs_nil _
  | list s ih =>
      obtain ⟨hlength, hvalues⟩ := inLimit_list.mp h
      have hread : ∀ rest, Decoder.length (littleEndian 8 v.length ++ rest) =
          (.ok v.length, rest) :=
        fun _ => Decoder.length_eq_ok_iff.mpr ⟨hlength, rfl⟩
      refine (Decoder.needs_length _).andThen hread ?_
      exact Decoder.needs_listOnto (fun x hx => s.decode_encode (hvalues x hx))
        (fun x hx => ih (hvalues x hx)) []
  | pair s t ihs iht =>
      obtain ⟨x, y⟩ := v
      obtain ⟨hx, hy⟩ := inLimit_pair.mp h
      exact (ihs hx).andThen (s.decode_encode hx) ((iht hy).map _)
  | choice s t ihs iht =>
      have hneeds : ∀ tag : UInt8, (Decoder.number 1).Needs [tag] :=
        fun _ => Decoder.needs_number rfl
      have hread : ∀ (tag : UInt8) rest, Decoder.number 1 ([tag] ++ rest) = (.ok tag.toNat, rest) :=
        fun tag _ => Decoder.number_eq_ok_iff.mpr ⟨tag.toNat_lt, by rw [littleEndian_one]⟩
      cases v with
      | inl x => exact (hneeds 0).andThen (hread 0) ((ihs h).map _)
      | inr y => exact (hneeds 1).andThen (hread 1) ((iht h).map _)

end Shape

namespace Format

variable {α : Type} (f : Format α)

theorem needs_decode {a : α} (h : f.InLimit a) : f.decode.Needs (f.encode a) :=
  (f.shape.needs_decode h).map f.ofValue

end Format

/-- **Cuts and padding are detected.**  Let no length of a value be over the limit.  If bytes are
missing at the end of its written form, any number of them, then reading fails because the input
ends, and for no other reason; and if there are bytes behind it, then reading it as a whole fails
and tells how many.  This holds for the values of every shape, and for whatever is written in a
shape: reports, requests and responses (`Report.format`, `Request.format`, `Response.format`). -/
theorem cut_and_padding_detected :
    (∀ (s : Shape) (v : s.Value), s.InLimit v →
      (∀ front, front <+: s.encode v → front ≠ s.encode v →
        (s.decode front).1 = .error .unexpectedEnd ∧
          s.ofBytes front = .error .unexpectedEnd) ∧
      ∀ padding, padding ≠ [] →
        s.ofBytes (s.encode v ++ padding) = .error (.trailingBytes padding.length)) ∧
    (∀ (α : Type) (f : Format α) (a : α), f.InLimit a →
      (∀ front, front <+: f.encode a → front ≠ f.encode a →
        (f.decode front).1 = .error .unexpectedEnd ∧
          f.ofBytes front = .error .unexpectedEnd) ∧
      ∀ padding, padding ≠ [] →
        f.ofBytes (f.encode a ++ padding) = .error (.trailingBytes padding.length)) := by
  refine ⟨fun s v h => ?_, fun α f a h => ?_⟩
  · exact (s.needs_decode h).detected (s.decode_encode h)
  · exact (f.needs_decode h).detected (f.decode_encode h)

/-- A list of two texts that is cut between them; a response that is cut within its one character;
and a request with two bytes behind it. -/
theorem cut_and_padding_detected_response :
    ((Shape.list .text).decode ((Shape.list .text).encode ["ab", "c"] |>.take 18)).1
      = .error .unexpectedEnd ∧
    Response.format.ofBytes [1, 2, 0, 0, 0, 0, 0, 0, 0, 0xc3] = .error .unexpectedEnd ∧
    Request.format.ofBytes (Request.format.encode .reset ++ [0, 1]) = .error (.trailingBytes 2) := by
  refine ⟨?_, ?_, ?_⟩
  · exact ((cut_and_padding_detected.1 (.list .text) ["ab", "c"] (by decide)).1 _
      (List.take_prefix 18 _) (by decide)).1
  · have hwritten : Response.format.encode (.rejected "é")
        = [1, 2, 0, 0, 0, 0, 0, 0, 0, 0xc3, 0xa9] := by
      decide +kernel
    exact ((cut_and_padding_detected.2 Response Response.format (.rejected "é") (by decide)).1 _
      (by rw [hwritten]; decide) (by rw [hwritten]; decide)).2
  · exact (cut_and_padding_detected.2 Request Request.format .reset (by decide)).2 [0, 1]
      (by decide)

end RegisterMachine.Wire
