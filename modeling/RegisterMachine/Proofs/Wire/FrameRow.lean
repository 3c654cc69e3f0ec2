import RegisterMachine.Proofs.Wire.Framing

/-!
# Proofs — Wire — Frame rows

Payloads that are written to a stream one after the other, and what a reader makes of the stream.  A
write puts a whole frame on the stream, or nothing at all (`writeTo_of_le`, `writeTo_of_lt`), so
that no write that fails can spoil the frames around it.  The stream itself is taken to accept
whatever is put on it; how it fails is not modelled.

The writer and the reader draw the upper limit at the same length, but not the lower one: a frame
without bytes is written and refused.  It is the only one (`frames_read_as_written`).  So of a row
of payloads the reader finds all that could be written, up to the first that is empty
(`readAll_writeEach`).
-/

namespace RegisterMachine.Wire.Frame

/-- A stream after a payload is written to it, and what has become of the write. -/
def writeTo (stream payload : List UInt8) : Except FrameError Unit × List UInt8 :=
  match write payload with
  | .ok out  => (.ok (), stream ++ out)
  | .error e => (.error e, stream)

/-- A stream after payloads are written to it in order, whatever becomes of each. -/
def writeEach (stream : List UInt8) (payloads : List (List UInt8)) : List UInt8 :=
  payloads.foldl (fun stream payload => (writeTo stream payload).2) stream

/-- The payload is no longer than that of any frame. -/
def Fits (payload : List UInt8) : Prop :=
  payload.length ≤ maxPayload

instance : DecidablePred Fits := fun payload =>
  inferInstanceAs (Decidable (payload.length ≤ maxPayload))

variable {payload : List UInt8}

theorem writeTo_of_le (h : Fits payload) (stream : List UInt8) :
    writeTo stream payload = (.ok (), stream ++ around payload) := by
  rw [writeTo, write_of_le h]
  rfl

theorem writeTo_of_lt (h : ¬ Fits payload) (stream : List UInt8) :
    writeTo stream payload = (.error (.tooLong payload.length), stream) := by
  rw [writeTo, write_of_lt (Nat.not_le.mp h)]

/-- A reader finds a written frame as it is, or refuses it because it is empty. -/
theorem next_around (h : Fits payload) (rest : List UInt8) :
    next (around payload ++ rest) = if payload = [] then .invalid 0 else .frame payload rest := by
  split
  · next hempty =>
      subst hempty
      rfl
  · next hne => exact next_eq_frame_iff.mpr ⟨⟨List.length_pos_iff.mpr hne, h⟩, rfl⟩

theorem writeEach_eq (stream : List UInt8) (payloads : List (List UInt8)) :
    writeEach stream payloads = stream ++ (payloads.filter fun p => Fits p).flatMap around := by
  induction payloads generalizing stream with
  | nil => exact (List.append_nil stream).symm
  | cons p payloads ih =>
      rw [writeEach, List.foldl_cons, ← writeEach, ih]
      by_cases hp : Fits p
      · rw [writeTo_of_le hp]
        simp [hp]
      · rw [writeTo_of_lt hp]
        simp [hp]

/-! ### What is read -/

theorem readAll_eq (eof : StreamError) (bs : List UInt8) :
    readAll eof bs =
      match next bs with
      | .frame payload rest => (payload :: (readAll eof rest).1, (readAll eof rest).2)
      | .invalid length     => ([], some (.invalidLength length))
      | .incomplete         => ([], ending eof bs) := by
  rw [readAll]
  split
  · next hnext => simp only [hnext]
  · next hnext => simp only [hnext]
  · next hnext => simp only [hnext]

/-- Of frames in a row a reader takes those in front of the first that is empty. -/
theorem readAll_flatMap_around {eof : StreamError} (heof : eof.kind = .unexpectedEnd)
    {payloads : List (List UInt8)} (h : ∀ p ∈ payloads, Fits p) :
    readAll eof (payloads.flatMap around) =
      (payloads.takeWhile fun p => p ≠ [],
        if [] ∈ payloads then some (.invalidLength 0) else none) := by
  induction payloads with
  | nil =>
      rw [List.flatMap_nil, readAll_eq]
      simp [next, ending, heof]
  | cons p payloads ih =>
      obtain ⟨hp, hpayloads⟩ := List.forall_mem_cons.mp h
      rw [List.flatMap_cons, readAll_eq, next_around hp]
      by_cases hempty : p = []
      · simp [hempty]
      · simp [hempty, Ne.symm hempty, ih hpayloads]

/-- **A row of frames.**  Of payloads that are written in order, a reader finds all that are not too
long, up to the first that is empty. -/
theorem readAll_writeEach {eof : StreamError} (heof : eof.kind = .unexpectedEnd)
    (payloads : List (List UInt8)) :
    readAll eof (writeEach [] payloads) =
      ((payloads.filter fun p => Fits p).takeWhile fun p => p ≠ [],
        if [] ∈ payloads then some (.invalidLength 0) else none) := by
  have hempty : Fits [] := Nat.zero_le maxPayload
  rw [writeEach_eq, List.nil_append, readAll_flatMap_around heof (by simp)]
  simp [hempty]

/-- **Frames are read as they were written, if they are not empty.**  A payload that is no longer
than that of any frame is written as one, which a reader finds in front of whatever follows, unless
it is empty: then it refuses the length.  A longer payload is not written, and the stream is what
it was.  The stream itself does not fail. -/
theorem frames_read_as_written (stream payload : List UInt8) :
    (Fits payload → ∃ out,
      writeTo stream payload = (.ok (), stream ++ out) ∧
        ∀ rest, next (out ++ rest) = if payload = [] then .invalid 0 else .frame payload rest) ∧
    (¬ Fits payload → writeTo stream payload = (.error (.tooLong payload.length), stream)) := by
  refine ⟨fun h => ?_, fun h => ?_⟩
  · exact ⟨around payload, writeTo_of_le h stream, next_around h⟩
  · exact writeTo_of_lt h stream

/-- **Not every frame is read.**  A write without bytes succeeds, and no reader finds a frame in
what it leaves. -/
theorem not_frame_of_empty_payload :
    ¬ ∀ stream payload stream', writeTo stream payload = (.ok (), stream') →
      ∃ out, stream' = stream ++ out ∧ ∀ rest, next (out ++ rest) = .frame payload rest := by
  intro h
  obtain ⟨out, hout, hread⟩ := h [] [] [0, 0, 0, 0] rfl
  obtain rfl : out = [0, 0, 0, 0] := hout.symm
  cases hread []

end RegisterMachine.Wire.Frame
