import RegisterMachine.Remote.Connection

/-!
# Remote — Clients

A client sends one request at a time and waits for the answer.  A request that does not fit in a
frame fails before anything is sent.  In all that follows `eof` is the error of a read that the end
of the stream cuts short.
-/

namespace RegisterMachine

open Wire

/-- Why a call has no answer. -/
inductive ClientError where
  | io (reason : String)
  | decode (e : DecodeError)
  | closed
  | rejected (reason : String)
deriving DecidableEq, Repr

/-- The text of the error. -/
def ClientError.message : ClientError → String
  | io reason       => "connection error: " ++ reason
  | decode e        => "invalid response: " ++ e.message
  | closed          => "server closed the connection"
  | rejected reason => "request rejected: " ++ reason

namespace Client

/-- Takes the next frame off the stream, and the reason why there is none if the stream ends. -/
def receive (eof : StreamError) (link : Link) : Except ClientError (List UInt8) × Link :=
  match Frame.next link.toClient with
  | .frame payload rest => (.ok payload, { link with toClient := rest })
  | .invalid length     =>
    (.error (.io (FrameError.invalidLength length).message),
      { link with toClient := link.toClient.drop 4 })
  | .incomplete         =>
    let error := match Frame.ending eof link.toClient with
      | some e => .io e.message
      | none   => .closed
    (.error error, { link with toClient := [] })

/-- Sends a request and takes the answer. -/
def request (eof : StreamError) (peer : Peer) (link : Link) (r : Request) :
    Except ClientError Response × Link :=
  match Frame.write (Request.format.encode r) with
  | .error e => (.error (.io e.message), link)
  | .ok out  =>
    match receive eof (peer { link with toServer := link.toServer ++ out }) with
    | (.error e, link)    => (.error e, link)
    | (.ok payload, link) =>
      match Response.format.ofBytes payload with
      | .ok response => (.ok response, link)
      | .error e     => (.error (.decode e), link)

/-- The report of a response; a rejection is an error to who wants a report. -/
def report : Response → Except ClientError Report
  | .snapshot r      => .ok r
  | .rejected reason => .error (.rejected reason)

/-- Sends a request and takes the report that answers it. -/
def fetch (eof : StreamError) (peer : Peer) (link : Link) (r : Request) :
    Except ClientError Report × Link :=
  let (result, link) := request eof peer link r
  (result.bind report, link)

end Client

/-- What a user of a client asks for. -/
inductive Call where
  | execute (program : String)
  | reset
  /-- A request whose response is wanted as it comes. -/
  | request (r : Request)
deriving DecidableEq, Repr

/-- The request that a call sends. -/
def Call.toRequest : Call → Request
  | execute program => .execute program
  | reset           => .reset
  | request r       => r

/-- What a call comes back with. -/
inductive Answer where
  | report (r : Report)
  | response (r : Response)
  | failed (e : ClientError)
deriving DecidableEq, Repr

/-- Makes a call. -/
def Client.call (eof : StreamError) (peer : Peer) (link : Link) : Call → Answer × Link
  | .request r =>
    match Client.request eof peer link r with
    | (.ok response, link) => (.response response, link)
    | (.error e, link)     => (.failed e, link)
  | c          =>
    match Client.fetch eof peer link c.toRequest with
    | (.ok report, link) => (.report report, link)
    | (.error e, link)   => (.failed e, link)

end RegisterMachine
