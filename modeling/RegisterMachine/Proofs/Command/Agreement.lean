import RegisterMachine.Command.Assemble
import RegisterMachine.Proofs.Machine.Reuse
import RegisterMachine.Proofs.Remote.Calls
import RegisterMachine.Proofs.Text.Lines
import RegisterMachine.Proofs.Text.Words

/-!
# Proofs — Command — Agreement

A program may be run in the process of the command or behind a server, and what is printed is the
same (`remote_prints_as_local`).  Here the machine shows as many cells as are to be printed; there
it shows as many as the server is set to, and the command cuts these down.  So a server can keep
cells back, but what it does report of a run is what the command itself would have seen
(`Offered.remoteReport_of_le`).
-/

namespace RegisterMachine.Command.Assemble

open Wire

/-! ### From arguments to a plan -/

section

variable {h : Host} {j : Journal} {p : Plan} {path : String} {arguments : List String}

/-- The first argument asks for help and names no program. -/
def AsksHelp (argument : String) : Prop :=
  argument = "--help" ∨ argument = "-h"

instance : DecidablePred AsksHelp :=
  fun _ => inferInstanceAs (Decidable (_ ∨ _))

theorem plan_of_asksHelp (hpath : AsksHelp path) :
    plan h (path :: arguments) = .error { stderr := usage h.program } := by
  rcases hpath with rfl | rfl <;> rfl

theorem plan_of_journal_error {e : UnknownLevel} (hpath : ¬ AsksHelp path)
    (he : h.journal = .error e) :
    plan h (path :: arguments) = .error { code := 1, stderr := e.message ++ "\n" } := by
  rw [plan, he]
  · exact fun hp => hpath (.inl hp)
  · exact fun hp => hpath (.inr hp)

theorem plan_of_withChoices (hpath : ¬ AsksHelp path) (hj : h.journal = .ok j)
    (hp : ({ path } : Plan).withChoices arguments = .ok p) :
    plan h (path :: arguments) = .ok (p, j) := by
  rw [plan, hj]
  · dsimp only
    rw [hp]
  · exact fun hp => hpath (.inl hp)
  · exact fun hp => hpath (.inr hp)

theorem run_of_withChoices (hpath : ¬ AsksHelp path) (hj : h.journal = .ok j)
    (hp : ({ path } : Plan).withChoices arguments = .ok p) :
    run h (path :: arguments) = p.run h j := by
  rw [run, plan_of_withChoices hpath hj hp]

theorem run_of_report (hpath : ¬ AsksHelp path) (hj : h.journal = .ok j)
    (hp : ({ path } : Plan).withChoices arguments = .ok p) {r : Noted Report}
    (hr : p.report h = .ok r) :
    (run h (path :: arguments)).code = 0 ∧
    (run h (path :: arguments)).stdout = r.value.render := by
  rw [run_of_withChoices hpath hj hp, Plan.run, hr]
  exact ⟨rfl, rfl⟩

theorem run_of_error (hpath : ¬ AsksHelp path) (hj : h.journal = .ok j)
    (hp : ({ path } : Plan).withChoices arguments = .ok p) {reason : String}
    (hr : p.report h = .error reason) :
    (run h (path :: arguments)).code = 1 ∧ (run h (path :: arguments)).stdout = "" := by
  rw [run_of_withChoices hpath hj hp, Plan.run, hr]
  exact ⟨rfl, rfl⟩

/-- Where two lists of arguments lead to the same report, the same is printed. -/
theorem run_eq_of_report {others : List String} {p' : Plan} {r r' : Noted Report}
    (hp : ({ path } : Plan).withChoices arguments = .ok p)
    (hp' : ({ path } : Plan).withChoices others = .ok p')
    (hr : p.report h = .ok r) (hr' : p'.report h = .ok r') (hvalue : r.value = r'.value) :
    (run h (path :: arguments)).stdout = (run h (path :: others)).stdout ∧
    (run h (path :: arguments)).code = (run h (path :: others)).code := by
  by_cases hpath : AsksHelp path
  · rw [run, run, plan_of_asksHelp hpath, plan_of_asksHelp hpath]
    exact ⟨rfl, rfl⟩
  · cases hj : h.journal with
    | error e =>
        rw [run, run, plan_of_journal_error hpath hj, plan_of_journal_error hpath hj]
        exact ⟨rfl, rfl⟩
    | ok j =>
        obtain ⟨hcode, hstdout⟩ := run_of_report hpath hj hp hr
        obtain ⟨hcode', hstdout'⟩ := run_of_report hpath hj hp' hr'
        rw [hcode, hstdout, hcode', hstdout', hvalue]
        exact ⟨rfl, rfl⟩

end

/-! ### The two reports -/

/-- The report of a machine of the usual size that has run a program and shows `n` cells. -/
def report (n : Nat) (source : String) : Report :=
  ((Runner.new { window := n }).run source).snapshot.report

/-- A file holds a program, and a server answers at an address.  It runs programs on machines of the
usual size, reads one of this length, and the report of this one fits in a frame. -/
structure Offered (h : Host) (s : Settings) (address : SocketAddress) (path source : String) :
    Prop where
  file : h.files path = .ok source.toUTF8
  server : h.connect address = .ok (Connection.peer s)
  usual : s.machine = {}
  within : source.utf8ByteSize ≤ s.maxProgram
  fits : (Response.format.encode
    (.snapshot (Service.runner s (.execute source)).snapshot.report)).length ≤ Frame.maxPayload

section

variable {h : Host} {s : Settings} {address : SocketAddress} {path source : String}

theorem report_eq (n : Nat) (source : String) :
    report n source = ((Machine.run 1024 source).snapshot n).report := by
  rw [report, Runner.snapshot, Runner.machine_run, Runner.cells_new]
  rfl

/-- A report that is cut is what a machine shows that shows less. -/
theorem take_report (n k : Nat) (source : String) :
    { report n source with memory := (report n source).memory.take k }
      = report (min k n) source := by
  have hmemory := (Machine.run 1024 source).state.memory.take_window n k
  rw [report_eq, report_eq]
  exact congrArg (fun cells => Report.mk _ cells _) hmemory

theorem Offered.readSource (ho : Offered h s address path source) :
    RegisterMachine.readSource h.files path = .ok source :=
  readSource_of_text ho.file (dif_pos source.isValidUTF8)

/-- From behind the server comes the report of a machine that shows as many cells as are asked for,
up to those that the server's machine shows. -/
theorem Offered.remoteReport_of_le (ho : Offered h s address path source)
    (hle : source.utf8ByteSize + 9 ≤ Frame.maxPayload) (p : Plan) :
    remoteReport h p address source = .ok (report (min p.window 64) source) := by
  have hrequest : (Request.format.encode (.execute source)).length ≤ Frame.maxPayload := by
    rwa [Request.length_encode_execute]
  have hadmits : Service.Admits s (.execute source) := by
    rintro _ ⟨⟩
    exact ho.within
  have hrunner : (Service.runner s (.execute source)).snapshot.report = report 64 source := by
    rw [Service.runner, ho.usual]
    rfl
  have hroom : Memory.HasRoom s.machine.cells := by
    rw [ho.usual]
    decide
  have howed : (Call.execute source).owed s = .report (report 64 source) := by
    rw [← hrunner]
    exact Call.owed_of_admits (c := .execute source) hroom hrequest hadmits ho.fits
  rw [remoteReport, ho.server]
  dsimp only
  rw [Client.fetch_peer hroom howed]
  dsimp only
  rw [take_report]

/-- A program that does not fit in a frame is not sent. -/
theorem Offered.remoteReport_of_lt (ho : Offered h s address path source)
    (hlt : Frame.maxPayload < source.utf8ByteSize + 9) (p : Plan) :
    ∃ reason, remoteReport h p address source = .error reason := by
  rw [← Request.length_encode_execute] at hlt
  rw [remoteReport, ho.server]
  dsimp only
  rw [Client.fetch, Client.request_of_lt hlt]
  exact ⟨_, rfl⟩

theorem Offered.report_near (ho : Offered h s address path source) (n : Nat) :
    ∃ notes, ({ path, window := n } : Plan).report h = .ok ⟨report n source, notes⟩ := by
  rw [Plan.report, ho.readSource]
  exact ⟨_, rfl⟩

theorem Offered.report_far (ho : Offered h s address path source)
    (hle : source.utf8ByteSize + 9 ≤ Frame.maxPayload) (n : Nat) :
    ({ path, window := n, remote := some address } : Plan).report h
      = .ok { value := report (min n 64) source } := by
  rw [Plan.report, ho.readSource]
  dsimp only
  rw [ho.remoteReport_of_le hle]
  rfl

theorem Offered.report_far_of_lt (ho : Offered h s address path source)
    (hlt : Frame.maxPayload < source.utf8ByteSize + 9) (n : Nat) :
    ∃ reason, ({ path, window := n, remote := some address } : Plan).report h = .error reason := by
  obtain ⟨reason, hreason⟩ :=
    ho.remoteReport_of_lt hlt { path, window := n, remote := some address }
  rw [Plan.report, ho.readSource]
  dsimp only
  rw [hreason]
  exact ⟨reason, rfl⟩

end

/-! ### The two commands -/

/-- An option with its value changes the plan, and the arguments after it are read next. -/
theorem withChoices_cons_cons {p p' : Plan} {argument value : String} {c : Choice}
    (hc : Choice.ofName? argument = some c) (hvalue : p.withChoice c value = .ok p')
    (rest : List String) : p.withChoices (argument :: value :: rest) = p'.withChoices rest := by
  rw [Plan.withChoices, hc]
  dsimp only
  rw [hvalue]

theorem withChoice_remote {remote : String} {address : SocketAddress}
    (hremote : SocketAddress.read? remote = some address) (p : Plan) :
    p.withChoice .remote remote = .ok { p with remote := some address } := by
  delta Plan.withChoice
  dsimp only
  rw [hremote]

section

variable {window remote : String} {n : Nat} {address : SocketAddress}
  (hwindow : Text.unsigned? Text.uint64Max window.toList = some n)
include hwindow

theorem withChoice_window (p : Plan) :
    p.withChoice .window window = .ok { p with window := n } := by
  delta Plan.withChoice
  dsimp only
  rw [hwindow]

theorem withChoices_near (path : String) :
    ({ path } : Plan).withChoices ["--memory-window", window] = .ok { path, window := n } :=
  withChoices_cons_cons rfl (withChoice_window hwindow _) []

theorem withChoices_far (hremote : SocketAddress.read? remote = some address) (path : String) :
    ({ path } : Plan).withChoices ["--memory-window", window, "--remote", remote]
      = .ok { path, window := n, remote := some address } := by
  rw [withChoices_cons_cons rfl (withChoice_window hwindow _)]
  exact withChoices_cons_cons rfl (withChoice_remote hremote _) []

end

/-! ### A host with a server -/

/-- A host that has the same program at every path and the same server at every address. -/
def hostOf (s : Settings) (source : String) : Host where
  program := "vasm"
  environment _ := none
  files _ := .ok source.toUTF8
  connect _ := .ok (Connection.peer s)
  bind := .ok
  endOfStream := ⟨.unexpectedEnd, "early eof"⟩
  brokenTask := "task broke down"
  clock := "00:00:00"

/-- A server of the usual machines that reads programs of up to 128 MiB. -/
def generous : Settings where
  listen := .v4 ⟨#v[127, 0, 0, 1]⟩ 4000
  maxProgram := 128 * 1024 * 1024

theorem offered_hostOf {source : String} (path : String)
    (hwithin : source.utf8ByteSize ≤ generous.maxProgram)
    (hfits : (Response.format.encode (.snapshot (report 64 source))).length ≤ Frame.maxPayload) :
    Offered (hostOf generous source) generous generous.listen path source :=
  ⟨rfl, rfl, rfl, hwithin, hfits⟩

theorem read?_remote : SocketAddress.read? "127.0.0.1:4000" = some generous.listen := by
  decide +kernel

/-! ### What is printed -/

/-- **A program prints the same here and behind a server.**  Where up to 64 cells are to be printed,
as many as the server's machine shows, and the program fits in a frame, the command prints the same
and ends with the same code with the server as without; and unless it is asked for help or has no
journal, what it prints is the report of a run. -/
theorem remote_prints_as_local {h : Host} {s : Settings} {address : SocketAddress}
    {path source window remote : String} {n : Nat} (ho : Offered h s address path source)
    (hwindow : Text.unsigned? Text.uint64Max window.toList = some n)
    (hremote : SocketAddress.read? remote = some address)
    (hn : n ≤ 64) (hle : source.utf8ByteSize + 9 ≤ Frame.maxPayload) :
    let near := run h [path, "--memory-window", window]
    let far := run h [path, "--memory-window", window, "--remote", remote]
    far.stdout = near.stdout ∧ far.code = near.code ∧
    ∀ j, ¬ AsksHelp path → h.journal = .ok j →
      near.code = 0 ∧ near.stdout = (report n source).render := by
  intro near far
  obtain ⟨notes, hreport⟩ := ho.report_near n
  have hreport' := ho.report_far hle n
  rw [Nat.min_eq_left hn] at hreport'
  have hnear := withChoices_near hwindow path
  obtain ⟨hstdout, hcode⟩ :=
    run_eq_of_report (withChoices_far hwindow hremote path) hnear hreport' hreport rfl
  exact ⟨hstdout, hcode, fun _ hpath hj => (run_of_report hpath hj hnear hreport :)⟩

/-- Five cells are printed of a run behind the server. -/
theorem remote_prints_as_local_five_cells :
    let source := "mov [3], 7\nbad"
    let h := hostOf generous source
    let near := run h ["p.asm", "--memory-window", "5"]
    let far := run h ["p.asm", "--memory-window", "5", "--remote", "127.0.0.1:4000"]
    Offered h generous generous.listen "p.asm" source ∧ (report 5 source).memory = [0, 0, 0, 7, 0] ∧
    near.code = 0 ∧ near.stdout = (report 5 source).render ∧ far.stdout = near.stdout := by
  intro source h near far
  have ho : Offered h generous generous.listen "p.asm" source :=
    offered_hostOf "p.asm" (by decide +kernel) (by decide +kernel)
  have hwindow : Text.unsigned? Text.uint64Max "5".toList = some 5 := by decide
  obtain ⟨hstdout, -, hprinted⟩ :=
    remote_prints_as_local ho hwindow read?_remote (by decide) (by decide +kernel)
  obtain ⟨hcode, hnear⟩ := hprinted _ (by decide) rfl
  exact ⟨ho, by decide +kernel, hcode, hnear, hstdout⟩

/-! ### What is printed beyond the limits -/

/-- A program that is a comment of `n` characters. -/
def comment (n : Nat) : String :=
  String.ofList (';' :: List.replicate n 'a')

theorem utf8ByteSize_comment_le (n : Nat) : (comment n).utf8ByteSize ≤ 4 * (n + 1) := by
  have hsize := Text.utf8ByteSize_ofList_le (';' :: List.replicate n 'a')
  rwa [List.length_cons, List.length_replicate] at hsize

theorem lt_utf8ByteSize_comment (n : Nat) : n < (comment n).utf8ByteSize := by
  have hsize := Text.length_le_utf8ByteSize_ofList (';' :: List.replicate n 'a')
  rwa [List.length_cons, List.length_replicate] at hsize

theorem report_comment (window n : Nat) : report window (comment n) = report window "" := by
  have hline : '\n' ∉ ';' :: List.replicate n 'a' := by
    refine List.not_mem_cons_of_ne_of_not_mem (by decide) fun h => ?_
    exact absurd (List.eq_of_mem_replicate h) (by decide)
  rw [report_eq, report_eq, Machine.run, comment, String.toList_ofList,
    Text.lines_of_notMem hline (List.cons_ne_nil _ _)]
  rfl

/-- The command prints something else with a server than without. -/
def PrintsOther (h : Host) (window : String) : Prop :=
  (run h ["p.asm", "--memory-window", window, "--remote", "127.0.0.1:4000"]).stdout
    ≠ (run h ["p.asm", "--memory-window", window]).stdout

/-- A comment that fits in no frame is a program here, and cannot be sent. -/
theorem printsOther_comment {n : Nat} (hlt : Frame.maxPayload < n + 10)
    (hwithin : 4 * (n + 1) ≤ generous.maxProgram) :
    Offered (hostOf generous (comment n)) generous generous.listen "p.asm" (comment n) ∧
    PrintsOther (hostOf generous (comment n)) "64" := by
  have ho : Offered (hostOf generous (comment n)) generous generous.listen "p.asm" (comment n) := by
    refine offered_hostOf "p.asm" (Nat.le_trans (utf8ByteSize_comment_le n) hwithin) ?_
    rw [report_comment]
    decide +kernel
  have hpath : ¬ AsksHelp "p.asm" := by decide
  have hwindow : Text.unsigned? Text.uint64Max "64".toList = some 64 := by decide
  have hlong : Frame.maxPayload < (comment n).utf8ByteSize + 9 :=
    Nat.lt_of_lt_of_le hlt (Nat.add_le_add_right (lt_utf8ByteSize_comment n) 9)
  obtain ⟨notes, hreport⟩ := ho.report_near 64
  obtain ⟨reason, hreport'⟩ := ho.report_far_of_lt hlong 64
  obtain ⟨-, hnear⟩ := run_of_report hpath rfl (withChoices_near hwindow "p.asm") hreport
  obtain ⟨-, hfar⟩ := run_of_error hpath rfl (withChoices_far hwindow read?_remote "p.asm") hreport'
  have hother : "" ≠ (report 64 "").render := by decide +kernel
  rw [report_comment] at hnear
  exact ⟨ho, fun heq => hother (hfar.symm.trans (heq.trans hnear))⟩

/-- No more than 64 cells are printed of a run behind the server, and nothing at all of a program
that does not fit in a frame. -/
theorem remote_prints_other :
    (Offered (hostOf generous "") generous generous.listen "p.asm" "" ∧
      PrintsOther (hostOf generous "") "65") ∧
    (Offered (hostOf generous (comment 16777207)) generous generous.listen "p.asm"
        (comment 16777207) ∧
      PrintsOther (hostOf generous (comment 16777207)) "64") := by
  refine ⟨?_, printsOther_comment (by decide) (by decide)⟩
  have hpath : ¬ AsksHelp "p.asm" := by decide
  have ho : Offered (hostOf generous "") generous generous.listen "p.asm" "" :=
    offered_hostOf "p.asm" (by decide +kernel) (by decide +kernel)
  have hwindow : Text.unsigned? Text.uint64Max "65".toList = some 65 := by decide
  obtain ⟨notes, hreport⟩ := ho.report_near 65
  have hreport' := ho.report_far (by decide) 65
  rw [Nat.min_eq_right (by decide)] at hreport'
  obtain ⟨-, hnear⟩ := run_of_report hpath rfl (withChoices_near hwindow "p.asm") hreport
  obtain ⟨-, hfar⟩ :=
    run_of_report hpath rfl (withChoices_far hwindow read?_remote "p.asm") hreport'
  have hother : (report 64 "").render ≠ (report 65 "").render := by decide +kernel
  exact ⟨ho, fun heq => hother (hfar.symm.trans (heq.trans hnear))⟩

end RegisterMachine.Command.Assemble
