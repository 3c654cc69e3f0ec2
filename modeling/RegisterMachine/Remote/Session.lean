import RegisterMachine.Remote.Client

/-!
# Remote — Sessions

Many clients and one server.  A client's connection is made at its first call and stays until the
client closes it; calls of different clients may follow one another in any order.  Beside clients
there are raw connections, on which bytes are sent that need not be frames.
-/

namespace RegisterMachine

open Wire

/-- Whether connections can be made. -/
inductive Network where
  | up
  | down (reason : String)
deriving DecidableEq, Repr

namespace Network

/-- Makes a connection to a peer. -/
def connect (n : Network) (peer : Peer) : Except String Peer :=
  match n with
  | up          => .ok peer
  | down reason => .error reason

end Network

namespace Session

/-- A step of a session. -/
inductive Step where
  | call (client : Nat) (c : Call)
  | close (client : Nat)
  /-- Sends the bytes on a connection of their own and reads until the server ends it. -/
  | raw (bytes : List UInt8)
deriving DecidableEq, Repr

/-- What a step comes back with. -/
inductive Outcome where
  | answer (a : Answer)
  | closed
  | replies (payloads : List (List UInt8))
deriving DecidableEq, Repr

/-- The connections that are open, by client. -/
abbrev Links := List (Nat × Link)

/-- The connections with one put in the place of a client's. -/
def Links.put (ls : Links) (client : Nat) (link : Link) : Links :=
  (client, link) :: ls.filter fun l => l.1 != client

/-- Takes a step.  A connection that cannot be made ends the session, with the reason. -/
def step (eof : StreamError) (n : Network) (s : Settings) (ls : Links) :
    Step → Except String (Outcome × Links)
  | .close client  => .ok (.closed, ls.filter fun l => l.1 != client)
  | .raw bytes     =>
    match n.connect (Connection.peer s) with
    | .error reason => .error reason
    | .ok _         =>
      .ok (.replies (Frame.readAll eof (Connection.serve eof s bytes).sent).1, ls)
  | .call client c =>
    match ls.lookup client with
    | some link =>
      let (a, link) := Client.call eof (Connection.peer s) link c
      .ok (.answer a, ls.put client link)
    | none      =>
      match n.connect (Connection.peer s) with
      | .error reason => .error (ClientError.io reason).message
      | .ok peer      =>
        let (a, link) := Client.call eof peer {} c
        .ok (.answer a, ls.put client link)

/-- Takes steps one after the other. -/
def runFrom (eof : StreamError) (n : Network) (s : Settings) (ls : Links) :
    List Step → Except String (List Outcome)
  | []            => .ok []
  | step' :: steps => do
    let (outcome, ls) ← step eof n s ls step'
    let outcomes ← runFrom eof n s ls steps
    return outcome :: outcomes

/-- A session from its start. -/
def run (eof : StreamError) (n : Network) (s : Settings) (steps : List Step) :
    Except String (List Outcome) :=
  runFrom eof n s [] steps

end Session

end RegisterMachine
