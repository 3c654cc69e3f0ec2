import RegisterMachine.Proofs.Wire.Acceptance
import RegisterMachine.Wire.Message

/-!
# Proofs — Wire — Canonical form

A value has one written form, and a decoder accepts no other (`one_written_form`): whatever bytes it
is given, those that it reads are the ones that encoding would have written, and when all bytes have
to be read, two different strings are never the same value.

A decoder that fails has read some bytes too.  What it leaves is still the end of what it was given
(`Decoder.Onward`): no decoder goes back, and none makes up bytes.  Each way of putting decoders
together keeps this, so it holds of every shape (`Shape.onward_decode`).
-/

namespace RegisterMachine.Wire

namespace Decoder

variable {α β : Type} {d : Decoder α}

/-- What the decoder leaves, also when it fails, is the end of what it was given. -/
def Onward (d : Decoder α) : Prop :=
  ∀ bs, (d bs).2 <:+ bs

theorem onward_ok (a : α) : Onward fun bs => (.ok a, bs) :=
  fun bs => List.suffix_refl bs

theorem onward_fail (e : DecodeError) : (fail e : Decoder α).Onward :=
  fun bs => List.suffix_refl bs

/-- Too few bytes are left as they are, and otherwise what follows them is left. -/
theorem onward_bytes (n : Nat) : (bytes n).Onward := by
  intro bs
  rw [bytes]
  split
  · next front rest hcut =>
      obtain ⟨rfl, -⟩ := cut?_eq_some_iff.mp hcut
      exact List.suffix_append front rest
  · exact List.suffix_refl bs

theorem onward_map (f : α → β) (hd : d.Onward) : (d.map f).Onward := by
  intro bs
  have h := hd bs
  rw [map]
  split
  · next a rest heq => rwa [heq] at h
  · next e rest heq => rwa [heq] at h

theorem onward_andThen {next : α → Decoder β} (hd : d.Onward) (hnext : ∀ a, (next a).Onward) :
    (d.andThen next).Onward := by
  intro bs
  have h := hd bs
  rw [andThen]
  split
  · next a rest heq =>
      rw [heq] at h
      exact (hnext a rest).trans h
  · next e rest heq => rwa [heq] at h

theorem onward_number (n : Nat) : (number n).Onward :=
  onward_map ofLittleEndian (onward_bytes n)

theorem onward_length : length.Onward := by
  refine onward_andThen (onward_number 8) fun n => ?_
  split
  · exact onward_ok n
  · exact onward_fail _

theorem onward_text (n : Nat) : (text n).Onward := by
  refine onward_andThen (onward_bytes n) fun front => ?_
  split
  · exact onward_ok _
  · exact onward_fail _

/-- A row of values that breaks off leaves what the value that failed has left. -/
theorem onward_listOnto (hd : d.Onward) (read : List α) (n : Nat) :
    (listOnto d read n).Onward := by
  induction n generalizing read with
  | zero => exact onward_ok read.reverse
  | succ n ih =>
      intro bs
      have h := hd bs
      rw [listOnto]
      split
      · next a rest heq =>
          rw [heq] at h
          exact (ih (a :: read) rest).trans h
      · next e rest heq => rwa [heq] at h

end Decoder

/-- **No decoder goes back.** -/
theorem Shape.onward_decode (s : Shape) : s.decode.Onward := by
  induction s with
  | byte | word | long | signed | size => exact Decoder.onward_map _ (Decoder.onward_number _)
  | text => exact Decoder.onward_andThen Decoder.onward_length Decoder.onward_text
  | unit => exact Decoder.onward_ok ()
  | list s ih =>
      exact Decoder.onward_andThen Decoder.onward_length fun n => Decoder.onward_listOnto ih [] n
  | pair s t ihs iht => exact Decoder.onward_andThen ihs fun _ => Decoder.onward_map _ iht
  | choice s t ihs iht =>
      refine Decoder.onward_andThen (Decoder.onward_number 1) fun tag => ?_
      split
      · exact Decoder.onward_map _ ihs
      · split
        · exact Decoder.onward_map _ iht
        · exact Decoder.onward_fail _

theorem Shape.ofBytes_eq_ok_iff (s : Shape) {v : s.Value} {bs : List UInt8} :
    s.ofBytes bs = .ok v ↔ s.InLimit v ∧ bs = s.encode v := by
  rw [ofBytes, Decoder.whole_eq_ok_iff, s.decode_eq_ok_iff, List.append_nil]

/-- **One written form.**  A decoder that accepts has read the bytes that encoding writes, and it
accepts them in front of anything; a decoder that fails leaves an end of its input; and different
strings are never wholly read as the same value.  This holds for the values of every shape, and for
whatever is written in a shape: reports, requests and responses (`Report.format`, `Request.format`,
`Response.format`). -/
theorem one_written_form :
    (∀ (s : Shape) (bs : List UInt8),
      (∀ v rest, s.decode bs = (.ok v, rest) ↔ s.InLimit v ∧ bs = s.encode v ++ rest) ∧
      (∀ e rest, s.decode bs = (.error e, rest) → rest <:+ bs) ∧
      (∀ bs' v, s.ofBytes bs = .ok v → s.ofBytes bs' = .ok v → bs = bs')) ∧
    (∀ (α : Type) (f : Format α) (bs : List UInt8),
      (∀ a rest, f.decode bs = (.ok a, rest) ↔ f.InLimit a ∧ bs = f.encode a ++ rest) ∧
      (∀ e rest, f.decode bs = (.error e, rest) → rest <:+ bs) ∧
      (∀ bs' a, f.ofBytes bs = .ok a → f.ofBytes bs' = .ok a → bs = bs')) := by
  refine ⟨?_, ?_⟩
  · intro s bs
    refine ⟨fun v rest => s.decode_eq_ok_iff, ?_, ?_⟩
    · intro e rest h
      have hrest := s.onward_decode bs
      rwa [h] at hrest
    · intro bs' v h h'
      obtain ⟨-, hbs⟩ := s.ofBytes_eq_ok_iff.mp h
      obtain ⟨-, hbs'⟩ := s.ofBytes_eq_ok_iff.mp h'
      exact hbs.trans hbs'.symm
  · intro α f bs
    refine ⟨fun a rest => f.decode_eq_ok_iff, ?_, ?_⟩
    · intro e rest h
      have hrest := Decoder.onward_map f.ofValue f.shape.onward_decode bs
      rwa [← Format.decode, h] at hrest
    · intro bs' a h h'
      obtain ⟨-, hbs⟩ := f.ofBytes_eq_ok_iff.mp h
      obtain ⟨-, hbs'⟩ := f.ofBytes_eq_ok_iff.mp h'
      exact hbs.trans hbs'.symm

/-- The second pair of a list is cut off within its number, so its byte is read and three of four
bytes are left; and a request is accepted from one string only. -/
theorem one_written_form_cut_off :
    (Shape.list (.pair .byte .word)).decode [2, 0, 0, 0, 0, 0, 0, 0, 7, 1, 2, 3, 4, 8, 5, 6, 7]
      = (.error .unexpectedEnd, [5, 6, 7]) ∧
    [5, 6, 7] <:+ ([2, 0, 0, 0, 0, 0, 0, 0, 7, 1, 2, 3, 4, 8, 5, 6, 7] : List UInt8) ∧
    ∀ bs, Request.format.ofBytes bs = .ok .reset → bs = [1] := by
  have hcut : (Shape.list (.pair .byte .word)).decode
      [2, 0, 0, 0, 0, 0, 0, 0, 7, 1, 2, 3, 4, 8, 5, 6, 7]
        = (.error .unexpectedEnd, [5, 6, 7]) :=
    rfl
  refine ⟨hcut, (one_written_form.1 _ _).2.1 _ _ hcut, fun bs h => ?_⟩
  exact (one_written_form.2 Request Request.format bs).2.2 [1] .reset h rfl

end RegisterMachine.Wire
