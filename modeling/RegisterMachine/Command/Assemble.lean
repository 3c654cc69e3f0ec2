import RegisterMachine.Command.Host

/-!
# Commands — Assemble

Runs a program from a file and prints the report, with the machine in the same process or with one
behind a server.

* `Assemble.run`: the whole command, from its arguments to what it leaves behind.
-/

namespace RegisterMachine.Command.Assemble

/-- How the command is used. -/
def usage (program : String) : String :=
  ofLines
    ["Virtual Assembler",
     "",
     "USAGE:",
     "    " ++ program ++ " <program.asm> [OPTIONS]",
     "",
     "ARGS:",
     "    <program.asm>    Assembly source file to execute",
     "",
     "OPTIONS:",
     "    -r, --remote <addr>            Execute on a server (e.g., 127.0.0.1:4000)",
     "    -w, --memory-window <cells>    Memory cells to print (default 64)",
     "    -h, --help                     Print this help message",
     ""]

/-- What the command is to do. -/
structure Plan where
  /-- The file of the program. -/
  path : String
  /-- The server that is to run it. -/
  remote : Option SocketAddress := none
  /-- How many cells are printed. -/
  window : Nat := 64
deriving DecidableEq, Repr

/-- Why arguments are no plan. -/
inductive UsageError where
  | missingValue (option : String)
  | invalidAddress (address : String)
  | invalidWindow (window : String)
  | unexpectedArgument (argument : String)
deriving DecidableEq, Repr

/-- The text of the error. -/
def UsageError.message : UsageError → String
  | missingValue option         => option ++ " requires an argument"
  | invalidAddress address      => "Invalid server address: " ++ address
  | invalidWindow window        => "Invalid window size: '" ++ window ++ "' is not a valid number"
  | unexpectedArgument argument => "Unexpected argument: " ++ argument ++ "\n"

/-- What is printed after the message of the error: the usage, if the argument means nothing. -/
def UsageError.help (e : UsageError) (program : String) : String :=
  match e with
  | unexpectedArgument _ => usage program
  | _                    => ""

/-- An option, which takes a value. -/
inductive Choice where
  | remote
  | window
deriving DecidableEq, Repr

/-- The option of that name, long or short. -/
def Choice.ofName? : String → Option Choice
  | "--remote" | "-r"        => some remote
  | "--memory-window" | "-w" => some window
  | _                        => none

/-- The plan after an option is given a value. -/
def Plan.withChoice (p : Plan) (c : Choice) (value : String) : Except UsageError Plan :=
  match c with
  | .remote =>
    match SocketAddress.read? value with
    | some a => .ok { p with remote := some a }
    | none   => .error (.invalidAddress value)
  | .window =>
    match Text.unsigned? Text.uint64Max value.toList with
    | some n => .ok { p with window := n }
    | none   => .error (.invalidWindow value)

/-- The plan after the options in a list of arguments. -/
def Plan.withChoices (p : Plan) : List String → Except UsageError Plan
  | []                        => .ok p
  | [argument]                =>
    match Choice.ofName? argument with
    | some _ => .error (.missingValue argument)
    | none   => .error (.unexpectedArgument argument)
  | argument :: value :: rest =>
    match Choice.ofName? argument with
    | some c =>
      match p.withChoice c value with
      | .ok p    => p.withChoices rest
      | .error e => .error e
    | none   => .error (.unexpectedArgument argument)

/-- The report of a run in this process. -/
def localReport (p : Plan) (source : String) : Noted Report :=
  let r := (Runner.new { window := p.window }).run source
  ⟨r.snapshot.report, [r.machine.finished]⟩

/-- The report of a run behind a server, cut to the cells that are printed. -/
def remoteReport (h : Host) (p : Plan) (address : SocketAddress) (source : String) :
    Except String Report :=
  match h.connect address with
  | .error reason =>
    .error ("Cannot connect to " ++ address.text ++ ": " ++ (ClientError.io reason).message)
  | .ok peer      =>
    match Client.fetch h.endOfStream peer {} (.execute source) with
    | (.error e, _) => .error e.message
    | (.ok r, _)    => .ok { r with memory := r.memory.take p.window }

/-- The report that a plan asks for, or what keeps it from being made. -/
def Plan.report (p : Plan) (h : Host) : Except String (Noted Report) :=
  match readSource h.files p.path with
  | .error f   => .error f.message
  | .ok source =>
    match p.remote with
    | none         => .ok (localReport p source)
    | some address => (remoteReport h p address source).map fun r => { value := r }

/-- What the journal says about the faults that a report lists. -/
def faultNotes (path : String) (r : Report) : List Note :=
  if r.faultLines = 0 then []
  else [⟨.info, path ++ " finished with " ++ toString r.faultLines ++ " errors"⟩]

/-- Carries out a plan. -/
def Plan.run (p : Plan) (h : Host) (journal : Journal) : Exit :=
  match p.report h with
  | .error reason => { code := 1, stderr := journal.write [⟨.error, reason⟩] }
  | .ok report    =>
    { stdout := report.value.render
      stderr := journal.write (report.notes ++ faultNotes p.path report.value) }

/-- The plan and the journal that arguments ask for, or the end of a command that has no plan. -/
def plan (h : Host) : List String → Except Exit (Plan × Journal)
  | []                => .error { code := 1, stderr := usage h.program }
  | "--help" :: _     => .error { stderr := usage h.program }
  | "-h" :: _         => .error { stderr := usage h.program }
  | path :: arguments =>
    match h.journal with
    | .error e    => .error { code := 1, stderr := e.message ++ "\n" }
    | .ok journal =>
      match ({ path } : Plan).withChoices arguments with
      | .ok plan => .ok (plan, journal)
      | .error e =>
        .error { code := 1, stderr := journal.write [⟨.error, e.message⟩] ++ e.help h.program }

/-- The command, with its arguments. -/
def run (h : Host) (arguments : List String) : Exit :=
  match plan h arguments with
  | .ok (plan, journal) => plan.run h journal
  | .error e            => e

end RegisterMachine.Command.Assemble
