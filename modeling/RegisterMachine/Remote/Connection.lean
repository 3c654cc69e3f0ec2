import RegisterMachine.Remote.Service

/-!
# Remote — Connections

A connection is a pair of byte streams.  The server reads frames off the one and writes an answer to
each onto the other; it ends the connection at the first thing that is no frame, and at the first
frame whose task breaks down.  `Connection.drain` is how far it gets with the bytes at hand, and
`Connection.serve` is a whole connection, from its first byte to its last.
-/

namespace RegisterMachine

open Wire

/-- Errors of a server outside its answers. -/
inductive ServerError where
  /-- The address cannot be listened on. -/
  | bind (address : SocketAddress) (reason : String)
  /-- A connection broke. -/
  | io (reason : String)
deriving DecidableEq, Repr

/-- The text of the error. -/
def ServerError.message : ServerError → String
  | bind address reason => "failed to bind " ++ address.text ++ ": " ++ reason
  | io reason           => "connection error: " ++ reason

namespace Connection

/-- Why a server ends a connection. -/
inductive Failure where
  /-- What arrives is no frame, or what is to be sent fits in none. -/
  | frame (e : FrameError)
  /-- The task that was to answer a frame has broken down. -/
  | task
deriving DecidableEq, Repr

/-- The error of the server, where `broken` is what is said of a task that has broken down. -/
def Failure.error (broken : String) : Failure → ServerError
  | frame e => .io e.message
  | task    => .io broken

/-- What the server has done with the bytes at hand. -/
structure Progress where
  /-- The frames written. -/
  sent : List UInt8
  /-- The bytes not read. -/
  rest : List UInt8
  /-- Why the server ended the connection, if it did. -/
  fault : Option Failure := none
  notes : List Note := []

/-- Answers the frames that have arrived. -/
def drain (s : Settings) (bs : List UInt8) : Progress :=
  match h : Frame.next bs with
  | .frame payload rest =>
    have := Frame.length_lt_of_next h
    match Service.respond s payload with
    | none       => { sent := [], rest, fault := some .task }
    | some reply =>
      match Frame.write reply.value with
      | .ok out  =>
        let p := drain s rest
        { p with sent := out ++ p.sent, notes := reply.notes ++ p.notes }
      | .error e => { sent := [], rest, fault := some (.frame e), notes := reply.notes }
  | .invalid length     =>
    { sent := [], rest := bs, fault := some (.frame (.invalidLength length)) }
  | .incomplete         => { sent := [], rest := bs }
termination_by bs.length

/-- Serves a connection on which `bs` arrives and nothing after it. -/
def serve (eof : StreamError) (s : Settings) (bs : List UInt8) : Progress :=
  let p := drain s bs
  match p.fault with
  | some _ => p
  | none   => { p with fault := (Frame.ending eof p.rest).map .frame }

end Connection

/-- A connection between calls: the bytes under way in each direction, and whether the server has
ended it. -/
structure Link where
  toServer : List UInt8 := []
  toClient : List UInt8 := []
  ended : Bool := false
deriving DecidableEq, Repr

/-- What the other end of a connection does when bytes have arrived. -/
abbrev Peer := Link → Link

/-- The server as the other end of a connection. -/
def Connection.peer (s : Settings) : Peer := fun link =>
  if link.ended then link
  else
    let p := drain s link.toServer
    { toServer := p.rest, toClient := link.toClient ++ p.sent, ended := p.fault.isSome }

end RegisterMachine
