import RegisterMachine.Runner
import RegisterMachine.Settings
import RegisterMachine.Wire.Frame
import RegisterMachine.Wire.Message

/-!
# Remote — Service

What a server makes of a request.  Every request runs on a fresh machine, and every answer fits in
a frame: a program that is too long is rejected unread, bytes that are no request are rejected, and
so is a run whose report would not fit.

The machine is made before anything else is done about a request.  If there is no room for one of
the size that the server is set to, the task that was to answer breaks down, and there is no answer
at all; bytes that are no request never get as far.
-/

namespace RegisterMachine.Service

/-- An answer that says why there was no run. -/
def reject (reason note : String) : Noted Response :=
  ⟨.rejected reason, [⟨.warn, note⟩]⟩

/-- The answer to a request, which a new runner is at hand for. -/
def carryOut (s : Settings) (r : Runner) : Request → Noted Response
  | .execute program =>
    let bytes := toString program.utf8ByteSize
    let limit := toString s.maxProgram
    if s.maxProgram < program.utf8ByteSize then
      reject ("program of " ++ bytes ++ " bytes exceeds limit of " ++ limit ++ " bytes")
        ("rejected program of " ++ bytes ++ " bytes (limit " ++ limit ++ ")")
    else
      let r := r.run program
      let count := (Text.lines program.toList).length
      { value := .snapshot r.snapshot.report
        notes :=
          [r.machine.finished,
           ⟨.debug, "executed " ++ toString count ++ " lines, " ++ toString r.machine.trace.size
              ++ " trace entries"⟩] }
  | .reset           => { value := .snapshot r.reset.snapshot.report }

/-- The answer to a request.  There is none if there is no room for a runner. -/
def handle (s : Settings) (request : Request) : Option (Noted Response) :=
  (Runner.new? s.machine).map fun r => carryOut s r request

/-- The answer to the payload of a frame, if there is one. -/
def answer (s : Settings) (payload : List UInt8) : Option (Noted Response) :=
  match Request.format.ofBytes payload with
  | .ok request => handle s request
  | .error e    =>
    let reason := "malformed request: " ++ e.message
    some (reject reason reason)

/-- The payload that carries an answer.  An answer that does not fit in a frame gives way to a
rejection. -/
def deliver (a : Noted Response) : Noted (List UInt8) :=
  a.andThen fun response =>
    let bytes := Response.format.encode response
    let length := toString bytes.length
    if bytes.length ≤ Wire.Frame.maxPayload then { value := bytes }
    else
      (reject ("response of " ++ length ++ " bytes exceeds frame limit")
        ("dropping response of " ++ length ++ " bytes (limit "
          ++ toString Wire.Frame.maxPayload ++ ")")).map Response.format.encode

/-- The payload that answers the payload of a frame, if there is one. -/
def respond (s : Settings) (payload : List UInt8) : Option (Noted (List UInt8)) :=
  (answer s payload).map deliver

end RegisterMachine.Service
