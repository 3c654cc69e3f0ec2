import RegisterMachine.Remote.Client
import RegisterMachine.SourceFile

/-!
# Commands — Hosts

What a command finds around it, and what it leaves behind.
-/

namespace RegisterMachine.Command

/-- The surroundings of a command. -/
structure Host where
  /-- The name under which the command was called. -/
  program : String
  environment : String → Option String
  files : Files
  /-- The server that answers at an address, or the reason why there is no connection to it. -/
  connect : SocketAddress → Except String Peer
  /-- The address at which a server listens that is told to listen at this one. -/
  bind : SocketAddress → Except String SocketAddress
  /-- The error of a read that the end of a stream cuts short. -/
  endOfStream : Wire.StreamError
  /-- What is said of a task that has broken down. -/
  brokenTask : String
  /-- The text of the time in the journal. -/
  clock : String

/-- The end of a command. -/
structure Exit where
  code : Nat := 0
  stdout : String := ""
  stderr : String := ""
deriving DecidableEq, Repr

/-- The environment variable that sets the level of the journal. -/
def levelVariable : String := "VASM_LOG"

/-- Text may be coloured: the terminal has a name, which is not that of a dumb one, and nobody asks
for plain text. -/
def Host.colored (h : Host) : Bool :=
  (h.environment "TERM").any (· != "dumb") && (h.environment "NO_COLOR").isNone

/-- The journal of a command: the level that the environment asks for. -/
def Host.journal (h : Host) : Except UnknownLevel Journal :=
  (Level.overriddenBy .info (h.environment levelVariable)).map fun l =>
    { minimum := l, stamp := some h.clock, colored := h.colored }

/-- The lines of a text, each ended. -/
def ofLines (ls : List String) : String :=
  String.join (ls.map (· ++ "\n"))

end RegisterMachine.Command
