import RegisterMachine.Command.Host
import RegisterMachine.Remote.Session

/-!
# Commands — Serve

Listens at an address and answers requests until it is told to stop.

* `Serve.start`: from the arguments to the point where the server listens, or to the end of a
  command that does not get there.
* `Serve.run`: the whole command, with the calls of one client between start and end.
-/

namespace RegisterMachine.Command.Serve

/-- How the command is used. -/
def usage (program : String) : String :=
  ofLines
    ["Virtual Assembler Server",
     "",
     "USAGE:",
     "    " ++ program ++ " <listen_addr> [OPTIONS]",
     "",
     "ARGS:",
     "    <listen_addr>    Local address to bind (e.g., 127.0.0.1:4000)",
     "",
     "OPTIONS:",
     "    --max-program-len <bytes>    Reject programs larger than this (default 1048576)",
     "    --log <level>                Minimum log level: debug, info, warn, error",
     "    -h, --help                   Print this help message",
     "",
     "ENVIRONMENT:",
     "    VASM_LOG                Minimum log level (overridden by --log)",
     "    VASM_MAX_PROGRAM_LEN    Program size limit (overridden by --max-program-len)",
     "",
     "EXAMPLES:",
     "    # Start a server",
     "    " ++ program ++ " 127.0.0.1:4000",
     "",
     "    # Run a program against it",
     "    vasm program.asm --remote 127.0.0.1:4000",
     ""]

/-- A server that listens. -/
structure Listening where
  settings : Settings
  /-- The address at which it can be reached. -/
  address : SocketAddress
  journal : Journal
deriving DecidableEq, Repr

/-- What the journal says when the server has started. -/
def Listening.opening (l : Listening) : List Note :=
  [⟨.info, "Server listening on " ++ l.address.text ++ " (max program "
    ++ toString l.settings.maxProgram ++ " bytes)"⟩]

/-- What the journal says when the server is told to stop. -/
def Listening.closing : List Note :=
  [⟨.info, "Ctrl+C received, shutting down..."⟩, ⟨.info, "Server shut down"⟩]

/-- What the journal says when a connection is made from an address. -/
def accepted (origin : String) : Note :=
  ⟨.debug, "accepted connection from " ++ origin⟩

/-- What the journal says when a connection from an address breaks. -/
def broken (origin : String) (e : ServerError) : Note :=
  ⟨.warn, origin ++ ": " ++ e.message⟩

/-- The settings and the journal that arguments ask for, or the end of a command that has no
settings. -/
def prepare (h : Host) : List String → Except Exit (Settings × Journal)
  | []            => .error { code := 1, stderr := usage h.program }
  | "--help" :: _ => .error { stderr := usage h.program }
  | "-h" :: _     => .error { stderr := usage h.program }
  | arguments     =>
    match h.journal with
    | .error e    => .error { code := 1, stderr := e.message ++ "\n" }
    | .ok journal =>
      match Settings.read arguments h.environment with
      | .ok settings =>
        .ok (settings, { journal with minimum := settings.level.getD journal.minimum })
      | .error e     => .error { code := 1, stderr := e.message ++ "\n\n" ++ usage h.program }

/-- What becomes of a command that has tried to listen: a server that listens at the address, or
the end of the command. -/
def listening (settings : Settings) (journal : Journal) :
    Except String SocketAddress → Except Exit Listening
  | .ok address   => .ok { settings, address, journal }
  | .error reason =>
    let e := ServerError.bind settings.listen reason
    .error { code := 1, stderr := journal.write [⟨.error, e.message⟩] }

/-- Starts to listen. -/
def start (h : Host) (arguments : List String) : Except Exit Listening := do
  let (settings, journal) ← prepare h arguments
  listening settings journal (h.bind settings.listen)

/-- What the journal says about calls from an address.  A request that does not fit in a frame does
not reach the server, and a task that breaks down is the end of the connection. -/
def callNotes (brokenTask : String) (s : Settings) (origin : String) : List Call → List Note
  | []      => []
  | c :: cs =>
    let payload := Request.format.encode c.toRequest
    if payload.length ≤ Wire.Frame.maxPayload then
      match Service.respond s payload with
      | some reply => reply.notes ++ callNotes brokenTask s origin cs
      | none       => [broken origin (Connection.Failure.task.error brokenTask)]
    else callNotes brokenTask s origin cs

/-- The end of a command that a client at `origin` has made calls to, or that was left alone. -/
def Listening.finish (l : Listening) (brokenTask origin : String) (calls : Option (List Call)) :
    Exit :=
  let middle := match calls with
    | none       => []
    | some calls => accepted origin :: callNotes brokenTask l.settings origin calls
  { stderr := l.journal.write (l.opening ++ middle ++ Listening.closing) }

/-- The command, with its arguments and the calls of one client, if there is one.  A client that
gets no connection has nothing to show but the reason. -/
def run (h : Host) (n : Network) (origin : String) (arguments : List String)
    (calls : Option (List Call)) : Except String (Exit × List Session.Outcome) :=
  match start h arguments with
  | .error e => .ok (e, [])
  | .ok l    =>
    match calls with
    | none    => .ok (l.finish h.brokenTask origin none, [])
    | some cs =>
      match n.connect (Connection.peer l.settings) with
      | .error reason => .error (ClientError.io reason).message
      | .ok _         =>
        (Session.run h.endOfStream n l.settings (cs.map (.call 0))).map fun outcomes =>
          (l.finish h.brokenTask origin (some cs), outcomes)

end RegisterMachine.Command.Serve
