import RegisterMachine.Command.Assemble
import RegisterMachine.Command.Serve
import RegisterMachine.Journal.Calendar
import Std.Async.Signal
import Std.Async.TCP

/-!
# The program

Both commands in one program, which goes by its own name: called `vasm` it assembles, and under any
other name it serves.  What the commands do is settled by `Command.Assemble` and `Command.Serve`;
here files are read, bytes go over sockets, and texts are printed.
-/

namespace RegisterMachine.Console

open Std.Async
open Std.Async.TCP.Socket

/-! ### What the system says -/

/-- The number of a system error, whatever its sign. -/
def errorNumber (code : UInt32) : Nat :=
  if code < 0x80000000 then code.toNat else (-code).toNat

/-- The number of the system error behind an error. -/
def errorNumber? : IO.Error → Option Nat
  | .alreadyExists _ code _        => some (errorNumber code)
  | .otherError code _             => some (errorNumber code)
  | .resourceBusy code _           => some (errorNumber code)
  | .resourceVanished code _       => some (errorNumber code)
  | .unsupportedOperation code _   => some (errorNumber code)
  | .noFileOrDirectory _ code _    => some (errorNumber code)
  | .invalidArgument _ code _      => some (errorNumber code)
  | .permissionDenied _ code _     => some (errorNumber code)
  | .resourceExhausted _ code _    => some (errorNumber code)
  | .inappropriateType _ code _    => some (errorNumber code)
  | .noSuchThing _ code _          => some (errorNumber code)
  | .timeExpired code _            => some (errorNumber code)
  | _                              => none

/-- The text of a system error. -/
def errorText? : Nat → Option String
  | 13  => some "Permission denied"
  | 98  => some "Address already in use"
  | 99  => some "Cannot assign requested address"
  | 101 => some "Network is unreachable"
  | 104 => some "Connection reset by peer"
  | 110 => some "Connection timed out"
  | 111 => some "Connection refused"
  | 113 => some "No route to host"
  | _   => none

/-- The reason that an error gives. -/
def reason (e : IO.Error) : String :=
  match errorNumber? e with
  | none        => toString e
  | some number =>
    match errorText? number with
    | some text => text ++ " (os error " ++ toString number ++ ")"
    | none      => toString e

/-- What is said of a read that the end of a stream cuts short. -/
def endOfStream : Wire.StreamError :=
  ⟨.unexpectedEnd, "early eof"⟩

/-- What is said of a task that has broken down. -/
def brokenTask : String := "task broke down"

/-- Why a file is not read. -/
def fileError (e : IO.Error) : FileError :=
  match errorNumber? e with
  | some 2  => .missing
  | some 20 => .notFolder
  | some 21 => .isFolder
  | some 36 => .nameTooLong
  | _       => .other (reason e)

/-- The bytes of a file. -/
def readFile (path : String) : IO (Except FileError ByteArray) := do
  if path.toList.contains '\x00' then return .error .nulInName
  try return .ok (← IO.FS.readBinFile path)
  catch e => return .error (fileError e)

/-- The text of the present time. -/
def clock : IO String := do
  let now ← Std.Time.Timestamp.now
  return (Stamp.ofMilliseconds now.toMillisecondsSinceUnixEpoch.val.toNat).text

/-- Writes notes with the present time. -/
def say (journal : Journal) (notes : List Note) : IO Unit := do
  IO.eprint (({ journal with stamp := some (← clock) } : Journal).write notes)

/-- Prints what a command leaves behind. -/
def finish (e : Command.Exit) : IO UInt32 := do
  IO.print e.stdout
  IO.eprint e.stderr
  return UInt32.ofNat e.code

/-- The surroundings of a command that needs neither files nor sockets. -/
def bareHost (program : String) : IO Command.Host := do
  let values ← [Command.levelVariable, Settings.maxProgramVariable, "TERM", "NO_COLOR"].mapM
    fun name => return (name, ← IO.getEnv name)
  return {
    program
    environment := fun name => (values.lookup name).join
    files := fun _ => .error .missing
    connect := fun _ => .error ""
    bind := fun _ => .error ""
    endOfStream
    brokenTask
    clock := ← clock }

/-! ### Sockets -/

/-- The address as sockets take it. -/
def outer : SocketAddress → Std.Net.SocketAddress
  | .v4 ip port   => .v4 ⟨⟨ip.octets⟩, port⟩
  | .v6 ip _ port => .v6 ⟨⟨ip.groups⟩, port⟩

/-- The address that a socket gives. -/
def inner : Std.Net.SocketAddress → SocketAddress
  | .v4 a => .v4 ⟨a.addr.octets⟩ a.port
  | .v6 a => .v6 ⟨a.addr.segments⟩ 0 a.port

/-- How many bytes are taken off a socket at once. -/
def chunk : UInt64 := 65536

/-- Reads until a frame is whole, or none can come. -/
partial def readFrame (socket : Client) (bytes : List UInt8) : Async (List UInt8) := do
  match Wire.Frame.next bytes with
  | .incomplete =>
    match ← socket.recv? chunk with
    | some more => readFrame socket (bytes ++ more.toList)
    | none      => return bytes
  | _           => return bytes

/-- Sends a program to a server and answers for it with what it sends back. -/
def exchange (address : SocketAddress) (source : String) : IO (Except String Peer) := do
  try
    let socket ← Client.mk
    (socket.connect (outer address)).block
    match Wire.Frame.write (Request.format.encode (.execute source)) with
    | .error _   => return .ok id
    | .ok frame  =>
      (socket.send ⟨frame.toArray⟩).block
      let bytes ← (readFrame socket []).block
      return .ok fun link => { link with toClient := bytes }
  catch e => return .error (reason e)

/-- Says why the server ends a connection. -/
def sayBroken (journal : Journal) (origin : String) (e : Connection.Failure) : IO Unit :=
  say journal [Command.Serve.broken origin (e.error brokenTask)]

/-- Serves a connection to its end. -/
partial def serveConnection (l : Command.Serve.Listening) (socket : Client) (origin : String)
    (rest : List UInt8) : Async Unit := do
  match ← socket.recv? chunk with
  | none       =>
    match Wire.Frame.ending endOfStream rest with
    | some e => sayBroken l.journal origin (.frame e)
    | none   => return
  | some bytes =>
    let progress := Connection.drain l.settings (rest ++ bytes.toList)
    say l.journal progress.notes
    unless progress.sent.isEmpty do
      socket.send ⟨progress.sent.toArray⟩
    match progress.fault with
    | some e => sayBroken l.journal origin e
    | none   => serveConnection l socket origin progress.rest

/-- Takes connections, each of which is served beside the others. -/
partial def acceptAll (l : Command.Serve.Listening) (server : Server) : Async Unit := do
  let socket ← server.accept
  let origin := (inner (← socket.getPeerName)).text
  say l.journal [Command.Serve.accepted origin]
  background do
    try serveConnection l socket origin []
    catch e => say l.journal [Command.Serve.broken origin (.io (reason e))]
  acceptAll l server

/-! ### The commands -/

/-- Assembles. -/
def assemble (program : String) (arguments : List String) : IO UInt32 := do
  let host ← bareHost program
  match Command.Assemble.plan host arguments with
  | .error e            => finish e
  | .ok (plan, journal) =>
    let file ← readFile plan.path
    let host := { host with files := fun _ => file }
    let peer ← match plan.remote, readSource host.files plan.path with
      | some address, .ok source => exchange address source
      | _, _                     => pure (.ok id)
    finish (plan.run { host with connect := fun _ => peer } journal)

/-- Listens at an address. -/
def listen (server : Server) (address : SocketAddress) : IO (Except String SocketAddress) := do
  try
    server.bind (outer address)
    server.listen 1024
    return .ok (inner (← server.getSockName))
  catch e => return .error (reason e)

/-- Serves until it is interrupted. -/
def serve (program : String) (arguments : List String) : IO UInt32 := do
  match Command.Serve.prepare (← bareHost program) arguments with
  | .error e                => finish e
  | .ok (settings, journal) =>
    let server ← Server.mk
    match Command.Serve.listening settings journal (← listen server settings.listen) with
    | .error e => finish e
    | .ok l    =>
      let interrupt ← Signal.Waiter.mk .sigint false
      let interrupted ← interrupt.wait
      say l.journal l.opening
      let _ ← (acceptAll l server).toIO
      let _ ← interrupted.block
      say l.journal Command.Serve.Listening.closing
      return 0

end RegisterMachine.Console

/-- Carries out the command that the program is called by. -/
def main (arguments : List String) : IO UInt32 := do
  let program := ((← IO.appPath).fileName).getD "vasm"
  if program = "vasm" then RegisterMachine.Console.assemble program arguments
  else RegisterMachine.Console.serve program arguments
