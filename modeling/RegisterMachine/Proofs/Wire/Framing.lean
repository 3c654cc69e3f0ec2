import RegisterMachine.Wire.Frame

/-!
# Proofs — Wire — Framing

What stands at the front of a stream is decided by its first bytes: a frame, or a length that no
frame has, stays what it is when more bytes arrive (`next_append_of_frame`,
`next_append_of_invalid`).  So as long as a written frame has not arrived as a whole, nothing has
(`next_of_write_append`): a reader can neither take a part of it for a frame nor refuse it.

What a reader takes for a frame is what is written around a payload that is not empty
(`next_eq_frame_iff`), and what it refuses is told by the first four bytes
(`next_eq_invalid_iff`).
-/

namespace RegisterMachine.Wire.Frame

theorem next_append_of_frame {bs payload rest : List UInt8} (h : next bs = .frame payload rest)
    (more : List UInt8) : next (bs ++ more) = .frame payload (rest ++ more) := by
  unfold next at h
  split at h
  · next a b c d bs =>
      dsimp only at h
      split at h
      · cases h
      · next hlen =>
          split at h
          · next hcut =>
              cases h
              obtain ⟨rfl, hfront⟩ := cut?_eq_some_iff.mp hcut
              have hcut' : cut? (ofLittleEndian [a, b, c, d]) (payload ++ rest ++ more)
                  = some (payload, rest ++ more) :=
                cut?_eq_some_iff.mpr ⟨List.append_assoc _ _ _, hfront⟩
              simp only [List.cons_append, next, if_neg hlen, hcut']
          · cases h
  · cases h

theorem next_append_of_invalid {bs : List UInt8} {n : Nat} (h : next bs = .invalid n)
    (more : List UInt8) : next (bs ++ more) = .invalid n := by
  unfold next at h
  split at h
  · next a b c d bs =>
      dsimp only at h
      split at h
      · next hlen =>
          cases h
          simp only [List.cons_append, next, if_pos hlen]
      · split at h
        · cases h
        · cases h
  · cases h

theorem next_of_write {payload out : List UInt8} (hne : payload ≠ [])
    (h : write payload = .ok out) : next out = .frame payload [] := by
  have hnext := next_write hne h []
  rwa [List.append_nil] at hnext

/-- The beginning of a written frame, as long as something of it is missing, is no frame. -/
theorem next_of_write_append {payload bs more : List UInt8} (hne : payload ≠ [])
    (h : write payload = .ok (bs ++ more)) (hmore : more ≠ []) : next bs = .incomplete := by
  have hwhole := next_of_write hne h
  -- what is found in the beginning would be found in the whole, and that is the frame
  cases hbs : next bs with
  | incomplete => rfl
  | frame payload' rest =>
      rw [next_append_of_frame hbs more, Next.frame.injEq] at hwhole
      exact absurd (List.append_eq_nil_iff.mp hwhole.2).2 hmore
  | invalid n =>
      rw [next_append_of_invalid hbs more] at hwhole
      cases hwhole

theorem write_of_le {payload : List UInt8} (h : payload.length ≤ maxPayload) :
    write payload = .ok (littleEndian 4 payload.length ++ payload) :=
  if_pos h

theorem write_of_lt {payload : List UInt8} (h : maxPayload < payload.length) :
    write payload = .error (.tooLong payload.length) :=
  if_neg (Nat.not_le.mpr h)

theorem length_of_write {payload out : List UInt8} (h : write payload = .ok out) :
    out.length = payload.length + 4 ∧ payload.length ≤ maxPayload := by
  rw [write] at h
  split at h
  · next hle =>
      cases h
      rw [List.length_append, length_littleEndian, Nat.add_comm]
      exact ⟨rfl, hle⟩
  · cases h

theorem eq_of_write_error {payload : List UInt8} {e : FrameError}
    (h : write payload = .error e) : maxPayload < payload.length ∧ e = .tooLong payload.length := by
  rw [write] at h
  split at h
  · cases h
  · next hle =>
      cases h
      exact ⟨Nat.not_le.mp hle, rfl⟩

/-! ### What a reader takes for a frame -/

/-- The bytes can be the payload of a frame that is read. -/
def IsPayload (payload : List UInt8) : Prop :=
  1 ≤ payload.length ∧ payload.length ≤ maxPayload

/-- The frame around a payload. -/
def around (payload : List UInt8) : List UInt8 :=
  littleEndian 4 payload.length ++ payload

/-- The length that stands at the front of a stream. -/
def length? (bs : List UInt8) : Option Nat :=
  (cut? 4 bs).map fun p => ofLittleEndian p.1

/-- No frame has this length. -/
def Refused (length : Nat) : Prop :=
  length = 0 ∨ maxPayload < length

instance : DecidablePred Refused := fun length =>
  inferInstanceAs (Decidable (length = 0 ∨ maxPayload < length))

theorem eq_of_length? {bs : List UInt8} {n : Nat} (h : length? bs = some n) :
    bs = littleEndian 4 n ++ bs.drop 4 := by
  rw [length?, Option.map_eq_some_iff] at h
  obtain ⟨⟨front, rest⟩, hcut, rfl⟩ := h
  obtain ⟨rfl, hfront⟩ := cut?_eq_some_iff.mp hcut
  have hback := littleEndian_ofLittleEndian front
  rw [hfront] at hback
  rw [hback, List.drop_left' hfront]

/-- What stands at the front of a stream, by the length that it begins with. -/
theorem next_eq (bs : List UInt8) :
    next bs =
      match length? bs with
      | none   => .incomplete
      | some n =>
        if Refused n then .invalid n
        else
          match cut? n (bs.drop 4) with
          | some (payload, rest) => .frame payload rest
          | none                 => .incomplete := by
  match bs with
  | []                     => rfl
  | [_]                    => rfl
  | [_, _]                 => rfl
  | [_, _, _]              => rfl
  | a :: b :: c :: d :: bs =>
      have hlength : length? (a :: b :: c :: d :: bs) = some (ofLittleEndian [a, b, c, d]) := by
        simp [length?, cut?]
      rw [hlength]
      rfl

/-- **A frame at the front of a stream.**  A reader finds exactly the frames that can be written
around a payload that is not empty. -/
theorem next_eq_frame_iff {bs payload rest : List UInt8} :
    next bs = .frame payload rest ↔ IsPayload payload ∧ bs = around payload ++ rest := by
  constructor
  · intro h
    rw [next_eq] at h
    split at h
    · cases h
    · next n hn =>
        split at h
        · cases h
        · next hrefused =>
            split at h
            · next hcut =>
                cases h
                obtain ⟨hdrop, rfl⟩ := cut?_eq_some_iff.mp hcut
                rw [Refused] at hrefused
                refine ⟨⟨by omega, by omega⟩, ?_⟩
                rw [around, List.append_assoc, ← hdrop]
                exact eq_of_length? hn
            · cases h
  · rintro ⟨⟨hpos, hle⟩, rfl⟩
    exact next_write (List.ne_nil_of_length_pos hpos) (write_of_le hle) rest

end RegisterMachine.Wire.Frame
