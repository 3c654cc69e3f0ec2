import RegisterMachine.Proofs.Wire.Acceptance

/-!
# Proofs — Wire — Refusals

An error of a decoder may name a number: a tag, a length, or how many bytes were left over.  A tag
is one byte and a length eight, whatever the bytes are (`Shape.modest_decode`), and no more bytes
can be left over than there were (`Format.number_lt_of_ofBytes`).  So an error is short in words,
and a server can say it to a client.
-/

namespace RegisterMachine.Wire

/-- The number that an error names. -/
def DecodeError.number : DecodeError → Nat
  | unknownTag tag        => tag.toNat
  | lengthOverflow length => length
  | trailingBytes count   => count
  | _                     => 0

namespace Decoder

variable {α β : Type} {d : Decoder α}

/-- The number that an error of the decoder names fits in eight bytes. -/
def Modest (d : Decoder α) : Prop :=
  ∀ bs e, (d bs).1 = .error e → e.number < byteLimit 8

theorem modest_map (f : α → β) (hd : d.Modest) : (d.map f).Modest := by
  intro bs e h
  rw [map] at h
  split at h
  · cases h
  · next e' rest he =>
      cases h
      exact hd bs e (congrArg Prod.fst he)

theorem modest_andThen {next : α → Decoder β} (hd : d.Modest) (hnext : ∀ a, (next a).Modest) :
    (d.andThen next).Modest := by
  intro bs e h
  rw [andThen] at h
  split at h
  · next a rest ha => exact hnext a rest e h
  · next e' rest he =>
      cases h
      exact hd bs e (congrArg Prod.fst he)

theorem modest_fail {e : DecodeError} (h : e.number < byteLimit 8) :
    (fail e : Decoder α).Modest := by
  intro bs e' he
  cases he
  exact h

theorem modest_ok (a : α) : Modest fun bs => (.ok a, bs) := by
  intro bs e h
  cases h

theorem modest_bytes (n : Nat) : (bytes n).Modest := by
  intro bs e h
  rw [bytes] at h
  split at h
  · cases h
  · cases h
    decide

theorem modest_number (n : Nat) : (number n).Modest :=
  modest_map ofLittleEndian (modest_bytes n)

/-- A length that is refused was read from eight bytes. -/
theorem modest_length : length.Modest := by
  intro bs e h
  rw [length, andThen] at h
  split at h
  · -- the number was read before it was refused
    next n rest hn =>
      obtain ⟨hlt, -⟩ := number_eq_ok_iff.mp hn
      split at h
      · cases h
      · cases h
        exact hlt
  · next e' rest he =>
      cases h
      exact modest_number 8 bs e (congrArg Prod.fst he)

theorem modest_text (n : Nat) : (text n).Modest := by
  refine modest_andThen (modest_bytes n) fun front => ?_
  cases String.fromUTF8? front.toByteArray with
  | some x => exact modest_ok x
  | none => exact modest_fail (by decide)

theorem modest_listOnto (hd : d.Modest) (read : List α) (n : Nat) :
    (listOnto d read n).Modest := by
  induction n generalizing read with
  | zero => exact modest_ok _
  | succ n ih =>
      intro bs e h
      rw [listOnto] at h
      split at h
      · next a rest _ => exact ih (a :: read) rest e h
      · next e' rest he =>
          cases h
          exact hd bs e (congrArg Prod.fst he)

end Decoder

/-- **The errors of every shape are modest.** -/
theorem Shape.modest_decode (s : Shape) : s.decode.Modest := by
  induction s with
  | byte | word | long | signed | size => exact Decoder.modest_map _ (Decoder.modest_number _)
  | text => exact Decoder.modest_andThen Decoder.modest_length Decoder.modest_text
  | unit => exact Decoder.modest_ok ()
  | list s ih =>
      exact Decoder.modest_andThen Decoder.modest_length fun n => Decoder.modest_listOnto ih [] n
  | pair s t ihs iht => exact Decoder.modest_andThen ihs fun _ => Decoder.modest_map _ iht
  | choice s t ihs iht =>
      refine Decoder.modest_andThen (Decoder.modest_number 1) fun tag => ?_
      split
      · exact Decoder.modest_map _ ihs
      · split
        · exact Decoder.modest_map _ iht
        · exact Decoder.modest_fail (Nat.lt_trans (UInt8.toNat_lt _) (by decide))

namespace Format

variable {α : Type} (f : Format α)

/-- An error over whole bytes names a number of eight bytes, or counts some of the bytes. -/
theorem number_lt_of_ofBytes {bs : List UInt8} {e : DecodeError} (h : f.ofBytes bs = .error e)
    (hbs : bs.length < byteLimit 8) : e.number < byteLimit 8 := by
  rw [ofBytes, Decoder.whole] at h
  split at h
  · next e' rest he =>
      cases h
      exact Decoder.modest_map _ f.shape.modest_decode bs e (congrArg Prod.fst he)
  · cases h
  · next a rest _ ha =>
      cases h
      -- what is left over is a part of what there was
      obtain ⟨-, rfl⟩ := f.decode_eq_ok_iff.mp ha
      rw [List.length_append] at hbs
      exact Nat.lt_of_le_of_lt (Nat.le_add_left _ _) hbs

end Format

end RegisterMachine.Wire
