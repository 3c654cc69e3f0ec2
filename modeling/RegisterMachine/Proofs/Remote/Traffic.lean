import RegisterMachine.Proofs.Remote.Calls

/-!
# Proofs — Remote — Traffic

Any number of clients call one server at the same time.  Each has a connection of its own, on which
bytes are under way in both directions and arrive in order, in pieces of any size; the server
answers what has arrived whenever it gets to it.  A `Dialogue` is one connection with its two ends,
`Dialogue.Step` is what can happen there next, and in `Traffic.Runs` the steps of all connections
follow one another in any order.

Between calls nothing is under way in a connection.  During a call it holds either the request, some
of which has arrived, or the reply, some of which has arrived, and nothing else; that is the
invariant, `Dialogue.InStep`.  It holds because less than a frame is neither taken nor refused
(`Frame.next_of_write_append`), because there is a reply to every request, and one that fits in a
frame, and because a request that does not fit leaves no trace.  That there is a reply takes room
for the server's machine; without it a call can be the end of its connection
(`call_unanswered_without_room`).

So every call comes back with what it is owed (`calls_answered`).  No call waits for ever: something
can always happen on a connection whose call waits, and whatever happens there brings the answer
nearer (`Dialogue.toGo`).
-/

namespace RegisterMachine

open Wire

/-- A connection with its two ends. -/
structure Dialogue where
  /-- The bytes under way to the server. -/
  upward : List UInt8 := []
  /-- The server's end: the bytes that have arrived there, and those that it has sent and that are
  under way to the client. -/
  link : Link := {}
  /-- The bytes that have arrived at the client. -/
  arrived : List UInt8 := []
  /-- The call that waits for its answer. -/
  waiting : Option Call := none
  /-- The calls that have come back, in order, with their answers. -/
  answers : List (Call × Answer) := []
deriving DecidableEq, Repr

namespace Dialogue

/-- A client that waits goes on: something has arrived that is more than the beginning of a frame,
or nothing more can arrive. -/
def Readable (d : Dialogue) : Prop :=
  Frame.next d.arrived ≠ .incomplete ∨ (d.link.ended = true ∧ d.link.toClient = [])

/-- What can happen on a connection.  The list holds the call that the client makes, if it makes
one. -/
inductive Step (eof : StreamError) (s : Settings) : Dialogue → List Call → Dialogue → Prop where
  /-- A request is made that does not fit in a frame. -/
  | fail {d : Dialogue} {c : Call} {e : FrameError} (hidle : d.waiting = none)
      (hwrite : Frame.write c.payload = .error e) :
      Step eof s d [c] { d with answers := d.answers ++ [(c, .failed (.io e.message))] }
  /-- A request is made and sent. -/
  | ask {d : Dialogue} {c : Call} {frame : List UInt8} (hidle : d.waiting = none)
      (hwrite : Frame.write c.payload = .ok frame) :
      Step eof s d [c] { d with upward := d.upward ++ frame, waiting := some c }
  /-- Bytes arrive at the server. -/
  | up {d : Dialogue} {front back : List UInt8} (hne : front ≠ [])
      (hup : d.upward = front ++ back) :
      Step eof s d []
        { d with upward := back, link := { d.link with toServer := d.link.toServer ++ front } }
  /-- The server answers what has arrived. -/
  | serve {d : Dialogue} (hne : Connection.peer s d.link ≠ d.link) :
      Step eof s d [] { d with link := Connection.peer s d.link }
  /-- Bytes arrive at the client. -/
  | down {d : Dialogue} {front back : List UInt8} (hne : front ≠ [])
      (hdown : d.link.toClient = front ++ back) :
      Step eof s d []
        { d with link := { d.link with toClient := back }, arrived := d.arrived ++ front }
  /-- A client that waits takes what has arrived, and its call comes back. -/
  | take {d : Dialogue} {c : Call} (hwaiting : d.waiting = some c) (hreadable : d.Readable) :
      Step eof s d []
        { d with
          arrived := (Client.receive eof { toClient := d.arrived }).2.toClient
          waiting := none
          answers := d.answers
            ++ [(c, c.conclude (Client.read (Client.receive eof { toClient := d.arrived }).1))] }

/-- Nothing is under way, or a request is, or the reply to one. -/
inductive InStep (s : Settings) : Dialogue → Prop where
  | quiet {answers : List (Call × Answer)} : InStep s { answers }
  | asking {c : Call} {here upward : List UInt8} {answers : List (Call × Answer)}
      (hwrite : Frame.write c.payload = .ok (here ++ upward)) :
      InStep s { upward, link := { toServer := here }, waiting := some c, answers }
  | answered {c : Call} {reply arrived toClient : List UInt8} {answers : List (Call × Answer)}
      (hfit : c.payload.length ≤ Frame.maxPayload)
      (hreply : Service.reply? s c.payload = some reply)
      (hwrite : Frame.write reply = .ok (arrived ++ toClient)) :
      InStep s { link := { toClient }, arrived, waiting := some c, answers }

/-- How many steps there are at most until the call that waits comes back. -/
def toGo (s : Settings) (d : Dialogue) : Nat :=
  match d.waiting with
  | none   => 0
  | some c =>
    if d.upward = [] ∧ d.link.toServer = [] then d.link.toClient.length + 1
    else d.upward.length + ((Service.reply? s c.payload).elim 0 List.length + 4) + 2

/-- What a step does on a connection that is in step. -/
structure Advance (s : Settings) (d : Dialogue) (asked : List Call) (d' : Dialogue) : Prop where
  inStep : d'.InStep s
  /-- The calls that were waiting or are made come back with what they are owed, or wait. -/
  answers : ∃ back, d.waiting.toList ++ asked = back ++ d'.waiting.toList ∧
    d'.answers = d.answers ++ back.map fun c => (c, c.owed s)
  /-- A call that waits comes nearer to its answer. -/
  nearer : d.waiting.isSome → d'.toGo s < d.toGo s

variable {eof : StreamError} {s : Settings} {asked : List Call} {d' : Dialogue}

/-- What can happen where nothing is under way: a call is made. -/
theorem advance_of_quiet {answers : List (Call × Answer)}
    (h : Step eof s { answers } asked d') : Advance s { answers } asked d' := by
  cases h with
  | @fail c e _ hwrite =>
      obtain ⟨hlt, rfl⟩ := Frame.eq_of_write_error hwrite
      exact ⟨.quiet, ⟨[c], rfl, by rw [List.map_singleton, Call.owed_of_lt hlt]⟩,
        fun hw => by cases hw⟩
  | @ask c frame _ hwrite =>
      exact ⟨.asking hwrite, ⟨[], rfl, (List.append_nil _).symm⟩, fun hw => by cases hw⟩
  | up hne hup =>
      exact absurd (List.append_eq_nil_iff.mp hup.symm).1 hne
  | serve hne => exact absurd (Connection.peer_of_incomplete rfl rfl) hne
  | down hne hdown =>
      exact absurd (List.append_eq_nil_iff.mp hdown.symm).1 hne
  | take hwaiting => cases hwaiting

/-- What can happen to a request: it arrives, piece by piece, and is answered when it is whole. -/
theorem advance_of_asking (hroom : Memory.HasRoom s.machine.cells) {c : Call}
    {here upward : List UInt8} {answers : List (Call × Answer)}
    (hwrite : Frame.write c.payload = .ok (here ++ upward))
    (h : Step eof s { upward, link := { toServer := here }, waiting := some c, answers } asked d') :
    Advance s { upward, link := { toServer := here }, waiting := some c, answers } asked d' := by
  have hstays : ∃ back, [c] ++ [] = back ++ [c] ∧
      answers = answers ++ back.map fun c => (c, c.owed s) :=
    ⟨[], rfl, (List.append_nil answers).symm⟩
  obtain ⟨hlength, hfit⟩ := Frame.length_of_write hwrite
  cases h with
  | fail hidle => cases hidle
  | ask hidle => cases hidle
  | @up front back hne hup =>
      change upward = front ++ back at hup
      subst hup
      refine ⟨.asking ?_, hstays, fun _ => ?_⟩
      · rwa [List.append_assoc]
      · have hpos := List.length_pos_iff.mpr hne
        simp only [toGo, List.append_eq_nil_iff, hne, and_false, false_and, if_false,
          List.length_append]
        omega
  | serve hne =>
      by_cases hup : upward = []
      · -- the whole request is at hand
        subst hup
        rw [List.append_nil] at hwrite hlength
        obtain ⟨reply, hreply, hpayload, hpeer⟩ := Call.peer_of_write hroom hwrite
        have hout : Frame.write reply = .ok (Frame.around reply) := Frame.write_of_le hpayload.2
        have hhere : here ≠ [] := List.ne_nil_of_length_pos (by omega)
        dsimp only
        rw [hpeer]
        refine ⟨.answered hfit hreply hout, hstays, fun _ => ?_⟩
        have hlength' := (Frame.length_of_write hout).1
        simp only [toGo, hhere, hreply, Option.elim_some, and_false, and_true, if_true, if_false,
          List.length_nil]
        omega
      · -- the server waits for the rest
        have hnext := Frame.next_of_write_append c.payload_ne_nil hwrite hup
        exact absurd (Connection.peer_of_incomplete rfl hnext) hne
  | down hne hdown => exact absurd (List.append_eq_nil_iff.mp hdown.symm).1 hne
  | take _ hreadable =>
      rcases hreadable with hnext | ⟨hended, -⟩
      · exact absurd rfl hnext
      · cases hended

/-- What can happen to a reply: it arrives, piece by piece, and is taken when it is whole. -/
theorem advance_of_answered {c : Call} {reply arrived toClient : List UInt8}
    {answers : List (Call × Answer)} (hfit : c.payload.length ≤ Frame.maxPayload)
    (hreply : Service.reply? s c.payload = some reply)
    (hwrite : Frame.write reply = .ok (arrived ++ toClient))
    (h : Step eof s { link := { toClient }, arrived, waiting := some c, answers } asked d') :
    Advance s { link := { toClient }, arrived, waiting := some c, answers } asked d' := by
  have hne := List.ne_nil_of_length_pos (Service.isPayload_of_reply hfit hreply).1
  cases h with
  | fail hidle => cases hidle
  | ask hidle => cases hidle
  | up hfront hup => exact absurd (List.append_eq_nil_iff.mp hup.symm).1 hfront
  | serve hchange => exact absurd (Connection.peer_of_incomplete rfl rfl) hchange
  | @down front back hfront hdown =>
      change toClient = front ++ back at hdown
      subst hdown
      refine ⟨.answered hfit hreply ?_, ⟨[], rfl, (List.append_nil answers).symm⟩, fun _ => ?_⟩
      · rwa [List.append_assoc]
      · have hpos := List.length_pos_iff.mpr hfront
        simp only [toGo, and_self, if_true, List.length_append]
        omega
  | @take c' hwaiting hreadable =>
      cases hwaiting
      by_cases hdown : toClient = []
      · -- the whole reply is at hand
        subst hdown
        rw [List.append_nil] at hwrite
        have hreceive : Client.receive eof { toClient := arrived } = (.ok reply, {}) :=
          Client.receive_of_frame (Frame.next_of_write hne hwrite)
        refine ⟨?_, ⟨[c], rfl, ?_⟩, fun _ => ?_⟩
        · rw [hreceive]
          exact .quiet
        · rw [hreceive, List.map_singleton, Call.owed_of_reply hfit hreply]
        · exact Nat.succ_pos _
      · -- the client waits for the rest
        have hnext := Frame.next_of_write_append hne hwrite hdown
        rcases hreadable with hready | ⟨hended, -⟩
        · exact absurd hnext hready
        · cases hended

/-- **A step on a connection that is in step.** -/
theorem InStep.advance {d : Dialogue} (hroom : Memory.HasRoom s.machine.cells)
    (hd : d.InStep s) (h : d.Step eof s asked d') : Advance s d asked d' := by
  cases hd with
  | quiet => exact advance_of_quiet h
  | asking hwrite => exact advance_of_asking hroom hwrite h
  | answered hfit hreply hwrite => exact advance_of_answered hfit hreply hwrite h

theorem InStep.ended {d : Dialogue} (hd : d.InStep s) : d.link.ended = false := by
  cases hd with
  | quiet | asking | answered => rfl

end Dialogue

/-! ### Many connections -/

/-- The connections of all clients. -/
abbrev Traffic := Nat → Dialogue

namespace Traffic

/-- No client has called yet. -/
def start : Traffic :=
  fun _ => {}

/-- The connections with one put in the place of a client's. -/
def put (t : Traffic) (client : Nat) (d : Dialogue) : Traffic :=
  fun i => if i = client then d else t i

@[simp] theorem put_self (t : Traffic) (client : Nat) (d : Dialogue) : t.put client d client = d :=
  if_pos rfl

theorem put_of_ne (t : Traffic) {client i : Nat} (h : i ≠ client) (d : Dialogue) :
    t.put client d i = t i :=
  if_neg h

/-- Steps on the connections, in any order.  The list holds the calls that are made, with the
clients that make them. -/
inductive Runs (eof : StreamError) (s : Settings) :
    Traffic → List (Nat × Call) → Traffic → Prop where
  | done (t : Traffic) : Runs eof s t [] t
  | more {t t' : Traffic} {client : Nat} {d : Dialogue} {asked : List Call}
      {later : List (Nat × Call)} (hstep : (t client).Step eof s asked d)
      (hrest : Runs eof s (t.put client d) later t') :
      Runs eof s t (asked.map (client, ·) ++ later) t'

variable {eof : StreamError} {s : Settings}

/-- A client that waits for nothing can make a call. -/
theorem Runs.ask {t t' : Traffic} {client : Nat} {c : Call} {frame : List UInt8}
    {later : List (Nat × Call)} (hidle : (t client).waiting = none)
    (hwrite : Frame.write c.payload = .ok frame)
    (hrest : Runs eof s (t.put client
      { t client with upward := (t client).upward ++ frame, waiting := some c }) later t') :
    Runs eof s t ((client, c) :: later) t' :=
  .more (.ask hidle hwrite) hrest

/-- The calls of a client. -/
def callsOf (client : Nat) (asked : List (Nat × Call)) : List Call :=
  (asked.filter fun a => a.1 == client).map Prod.snd

theorem callsOf_append (client : Nat) (asked later : List (Nat × Call)) :
    callsOf client (asked ++ later) = callsOf client asked ++ callsOf client later := by
  rw [callsOf, List.filter_append, List.map_append]
  rfl

theorem callsOf_self (client : Nat) (asked : List Call) :
    callsOf client (asked.map (client, ·)) = asked := by
  simp [callsOf, List.filter_map, Function.comp_def]

theorem callsOf_of_ne {client i : Nat} (h : i ≠ client) (asked : List Call) :
    callsOf i (asked.map (client, ·)) = [] := by
  simp [callsOf, List.filter_map, Function.comp_def, h.symm]

/-- **Runs.**  Every connection stays in step, and the calls on it come back in order with what
they are owed, up to one that waits. -/
theorem Runs.inStep {t t' : Traffic} {asked : List (Nat × Call)}
    (hroom : Memory.HasRoom s.machine.cells) (ht : ∀ i, (t i).InStep s)
    (h : Runs eof s t asked t') (i : Nat) :
    (t' i).InStep s ∧ ∃ back,
      (t i).waiting.toList ++ callsOf i asked = back ++ (t' i).waiting.toList ∧
      (t' i).answers = (t i).answers ++ back.map fun c => (c, c.owed s) := by
  induction h with
  | done t => exact ⟨ht i, [], List.append_nil _, (List.append_nil _).symm⟩
  | @more t t' client d asked later hstep _ ih =>
      have hadvance := (ht client).advance hroom hstep
      have hput : ∀ j, (t.put client d j).InStep s := by
        intro j
        by_cases hj : j = client
        · subst hj
          rw [put_self]
          exact hadvance.inStep
        · rw [put_of_ne t hj]
          exact ht j
      -- what has come back after the first step comes behind what came back in it
      obtain ⟨hinStep, back, hback, hanswers⟩ := ih hput
      refine ⟨hinStep, ?_⟩
      rw [callsOf_append]
      by_cases hi : i = client
      · subst hi
        obtain ⟨first, hfirst, hanswers'⟩ := hadvance.answers
        rw [put_self] at hback hanswers
        refine ⟨first ++ back, ?_, ?_⟩
        · rw [callsOf_self, ← List.append_assoc, hfirst, List.append_assoc, hback,
            List.append_assoc]
        · rw [hanswers, hanswers', List.map_append, List.append_assoc]
      · rw [put_of_ne t hi] at hback hanswers
        rw [callsOf_of_ne hi, List.nil_append]
        exact ⟨back, hback, hanswers⟩

end Traffic

end RegisterMachine
