import RegisterMachine.Wire.Bytes

/-!
# Wire — Frames

A frame is a payload with its length, four bytes, in front.  A byte stream is a row of frames, and
what a reader finds at its front depends on those bytes alone (`Frame.next`): a whole frame, a
length that no frame has, or the beginning of a frame.

* `Frame.next_write`: what is written as a frame is found as that frame.

The stream below the frames is not laid down here.  A read that the end of the stream cuts short
fails with an error of the stream's own (`StreamError`), of which only the kind is looked at; a
write is taken not to fail, so that errors of the stream in writing have no place.
-/

namespace RegisterMachine.Wire

/-- What kind of error it is. -/
inductive ErrorKind where
  /-- The bytes that arrive are no frame. -/
  | invalidData
  /-- The bytes that are to be sent make no frame. -/
  | invalidInput
  /-- There are fewer bytes than were asked for. -/
  | unexpectedEnd
deriving DecidableEq, Repr

/-- An error of the stream below the frames, with a text of its own. -/
structure StreamError where
  kind : ErrorKind
  message : String
deriving DecidableEq, Repr

/-- Why a frame is not read or written. -/
inductive FrameError where
  /-- The stream ends within the four bytes of a length. -/
  | truncatedHeader
  /-- No frame has this length. -/
  | invalidLength (length : Nat)
  /-- The stream breaks off, in its own words. -/
  | stream (e : StreamError)
  /-- The payload is longer than that of any frame. -/
  | tooLong (length : Nat)
deriving DecidableEq, Repr

/-- The text of the error. -/
def FrameError.message : FrameError → String
  | truncatedHeader      => "truncated frame header"
  | invalidLength length => "invalid frame length " ++ toString length
  | stream e             => e.message
  | tooLong length       => "frame of " ++ toString length ++ " bytes exceeds limit"

/-- The kind of the error. -/
def FrameError.kind : FrameError → ErrorKind
  | truncatedHeader | invalidLength _ => .invalidData
  | stream e                          => e.kind
  | tooLong _                         => .invalidInput

namespace Frame

/-- The greatest length of a payload. -/
def maxPayload : Nat := 16 * 1024 * 1024

/-- What stands at the front of a stream. -/
inductive Next where
  /-- A frame, and what follows it. -/
  | frame (payload rest : List UInt8)
  /-- A length that no frame has. -/
  | invalid (length : Nat)
  /-- Less than a frame. -/
  | incomplete
deriving DecidableEq, Repr

/-- Looks at the front of a stream. -/
def next : List UInt8 → Next
  | a :: b :: c :: d :: bs =>
    let length := ofLittleEndian [a, b, c, d]
    if length = 0 ∨ maxPayload < length then .invalid length
    else
      match cut? length bs with
      | some (payload, rest) => .frame payload rest
      | none                 => .incomplete
  | _ => .incomplete

/-- The bytes of a frame, for a stream that takes them all.  An empty payload is written, though no
reader takes it. -/
def write (payload : List UInt8) : Except FrameError (List UInt8) :=
  if payload.length ≤ maxPayload then .ok (littleEndian 4 payload.length ++ payload)
  else .error (.tooLong payload.length)

/-- How a stream ends that breaks off after `rest`, which is less than a frame, where `eof` is the
error of the read that is cut short.  If that is of the kind that says so, an end between frames is
no error, and an end within a length has an error of its own; otherwise it is passed on. -/
def ending (eof : StreamError) (rest : List UInt8) : Option FrameError :=
  if eof.kind = .unexpectedEnd ∧ rest.length = 0 then none
  else if eof.kind = .unexpectedEnd ∧ rest.length < 4 then some .truncatedHeader
  else some (.stream eof)

theorem length_lt_of_next {bs payload rest : List UInt8} (h : next bs = .frame payload rest) :
    rest.length < bs.length := by
  unfold next at h
  split at h
  · next a b c d bs =>
    dsimp only at h
    split at h
    · simp at h
    · split at h
      · next hc =>
        obtain ⟨rfl, -⟩ := cut?_eq_some_iff.mp hc
        simp only [Next.frame.injEq] at h
        obtain ⟨rfl, rfl⟩ := h
        simp only [List.length_cons, List.length_append]
        omega
      · simp at h
  · simp at h

theorem next_write {payload out : List UInt8} (hne : payload ≠ [])
    (h : write payload = .ok out) (rest : List UInt8) :
    next (out ++ rest) = .frame payload rest := by
  unfold write at h
  split at h
  · next hle =>
    obtain rfl := Except.ok.inj h
    have hlt : payload.length < byteLimit 4 := by
      simp only [maxPayload, byteLimit] at hle ⊢
      omega
    have hback := ofLittleEndian_littleEndian hlt
    have hpos := List.length_pos_iff.mpr hne
    have hcut : cut? payload.length (payload ++ rest) = some (payload, rest) :=
      cut?_eq_some_iff.mpr ⟨rfl, rfl⟩
    simp only [littleEndian] at hback ⊢
    simp only [List.cons_append, List.nil_append, next, hback, hcut]
    rw [if_neg (by omega)]
  · simp at h

/-- The payloads of a stream that has ended, and what is wrong with its end, if anything is. -/
def readAll (eof : StreamError) (bs : List UInt8) : List (List UInt8) × Option FrameError :=
  match h : next bs with
  | .frame payload rest =>
    have := length_lt_of_next h
    let (payloads, fault) := readAll eof rest
    (payload :: payloads, fault)
  | .invalid length     => ([], some (.invalidLength length))
  | .incomplete         => ([], ending eof bs)
termination_by bs.length

end Frame

end RegisterMachine.Wire
