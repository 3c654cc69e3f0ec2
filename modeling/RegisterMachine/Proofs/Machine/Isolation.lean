import RegisterMachine.Runner
import RegisterMachine.Proofs.Machine.Action
import RegisterMachine.Proofs.Machine.Course
import RegisterMachine.Proofs.Text.Lines
import RegisterMachine.Proofs.Text.Words

/-!
# Proofs — Machine — Isolation

A fault stays where it is.  Take the source of a run and repair it by the trace: a line that left
nothing but faults is emptied, and a line that left the fault of its source and then an effect gets
zero for its source (`Trace.repair`).  The repaired source runs without a fault, to the same state,
and its trace is what is left of the first one without its faults (`faults_isolated`).

The two runs go side by side.  In whatever state a line is carried out, the repaired line does the
same from there and leaves out the faults (`State.runLine_repair`): an act that was refused has
changed nothing, and a source that could not be read has counted as zero.
-/

namespace RegisterMachine

/-- The event is a fault. -/
def Event.isFault (e : Event) : Bool :=
  e.fault?.isSome

/-- The events that are no faults. -/
def withoutFaults (events : List Event) : List Event :=
  events.filter fun e => !e.isFault

namespace Statement

/-- The line with zero in place of its source, which is the last of its words. -/
def zeroSource (line : List Char) : List Char :=
  match cutWord? ((words line).length - 1) line with
  | some c => c.put ['0']
  | none   => line

/-- The line without what was at fault in it, by the events that it has left.  A line that has left
none is blank, and may as well be empty. -/
def repair (events : List Event) (line : List Char) : List Char :=
  if events.all Event.isFault then []
  else if events.head?.any Event.isFault then zeroSource line
  else line

end Statement

/-- The source of a run, repaired by the trace of the run.  All line endings are kept. -/
def Trace.repair (t : Trace) (source : String) : String :=
  String.ofList
    (Text.edit (fun number line => Statement.repair (t.eventsOf number) line) 1 source.toList)

/-! ### Zero in place of the source -/

/-- The instruction with another source, if it has one. -/
def Instruction.withSource (src : Operand) : Instruction → Instruction
  | mov dst _ => mov dst src
  | add dst _ => add dst src
  | sub dst _ => sub dst src
  | push _    => push src
  | pop dst   => pop dst

/-- The source is the last of the words that an instruction is made up of. -/
theorem Instruction.Spelled.withSource {op : Opcode} {operands : List String} {i : Instruction}
    (h : Spelled op operands i) {src : Operand} (hsrc : i.source? = some src) (token : String) :
    operands ≠ [] ∧
      Spelled op (operands.set (operands.length - 1) token) (i.withSource (.read token)) := by
  cases h with
  | mov h => exact ⟨nofun, .mov h⟩
  | add h => exact ⟨nofun, .add h⟩
  | sub h => exact ⟨nofun, .sub h⟩
  | push => exact ⟨nofun, .push⟩
  | pop h => cases hsrc

namespace Statement

variable {line : List Char} {st : Statement}

theorem ofLine?_zeroSource (hline : ofLine? line = some st) (hne : st.operands ≠ []) :
    ofLine? (zeroSource line) =
      some { st with operands := st.operands.set (st.operands.length - 1) "0" } := by
  obtain ⟨opcode, operands, hwords, rfl⟩ := ofLine?_eq_some_iff.mp hline
  have hoperands : operands ≠ [] := fun h => hne (List.map_eq_nil_iff.mpr h)
  obtain ⟨operand, operands, rfl⟩ := List.exists_cons_of_ne_nil hoperands
  have hlast : (words line).length - 1 < (words line).length := by
    rw [hwords]
    exact Nat.lt_succ_self _
  obtain ⟨c, hc⟩ := exists_cutWord? hlast
  have hzero : IsWord ['0'] := ⟨nofun, List.forall_mem_singleton.mpr (by decide)⟩
  have hput := words_put hc hzero
  rw [hwords] at hput
  refine ofLine?_eq_some_iff.mpr
    ⟨opcode, (operand :: operands).set operands.length ['0'], ?_, ?_⟩
  · rw [zeroSource, hc]
    exact hput
  · rw [List.map_set, List.length_map]
    rfl

theorem instruction_zeroSource (hline : ofLine? line = some st) {op : Opcode} {i : Instruction}
    (hop : Opcode.ofMnemonic? st.opcode = some op) (hi : Instruction.Spelled op st.operands i)
    {src : Operand} (hsrc : i.source? = some src) :
    ∃ st', ofLine? (zeroSource line) = some st' ∧
      st'.instruction = .ok (i.withSource (.immediate 0)) := by
  obtain ⟨hne, hspelled⟩ := hi.withSource hsrc "0"
  have hzero : Operand.read "0" = .immediate 0 := by decide
  rw [hzero] at hspelled
  refine ⟨_, ofLine?_zeroSource hline hne, ?_⟩
  rw [instruction, hop]
  exact Instruction.ofOperands_eq_ok_iff.mpr hspelled

end Statement

namespace State

theorem fetched_withSource (s : State) {i : Instruction} {src : Operand}
    (h : i.source? = some src) (v : Int64) :
    s.fetched (i.withSource (.immediate v)) = (v, []) := by
  cases i with
  | mov | add | sub | push => rfl
  | pop => cases h

theorem act_withSource (s : State) (i : Instruction) (src : Operand) (v : Int64) :
    s.act (i.withSource src) v = s.act i v := by
  cases i <;> rfl

/-! ### One line, and all of them -/

/-- **One line.**  The repaired line does what the line does and leaves out its faults. -/
theorem runLine_repair (s : State) (line : List Char) :
    s.runLine (Statement.repair (s.runLine line).2 line) =
      ((s.runLine line).1, withoutFaults (s.runLine line).2) := by
  have hblank : s.runLine [] = (s, []) := s.runLine_of_blank rfl
  cases hline : Statement.ofLine? line with
  | none =>
      rw [s.runLine_of_blank hline]
      exact hblank
  | some st =>
      cases hinstr : st.instruction with
      | error f =>
          rw [s.runLine_of_fault hline hinstr]
          exact hblank
      | ok i =>
          have hrun := s.runLine_of_instruction hline hinstr
          rw [hrun, execute_eq]
          rcases s.fetched_cases i with ⟨v, hv⟩ | ⟨src, f, hsrc, -, hv⟩
          · rw [hv]
            rcases s.act_cases i v with ⟨f, hact, -⟩ | ⟨s', e, hact, -⟩
            · rw [hact]
              exact hblank
            · -- there is nothing to repair
              rw [execute_eq, hv] at hrun
              rw [hact] at hrun ⊢
              exact hrun
          · rw [hv]
            rcases s.act_cases i 0 with ⟨f', hact, -⟩ | ⟨s', e, hact, -⟩
            · rw [hact]
              exact hblank
            · -- with zero for its source the instruction acts in the same way
              rw [hact]
              obtain ⟨op, hop, hi⟩ := Statement.spelled_of_instruction hinstr
              obtain ⟨st', hline', hinstr'⟩ := Statement.instruction_zeroSource hline hop hi hsrc
              show s.runLine (Statement.zeroSource line) = (s', [.effect e])
              rw [s.runLine_of_instruction hline' hinstr', execute_eq, s.fetched_withSource hsrc,
                act_withSource, hact]
              rfl

/-- The lines, each repaired by its events. -/
def repaired (s : State) (lines : List (List Char)) : List (List Char) :=
  List.zipWith Statement.repair (s.course lines) lines

/-- **All lines, one after the other.**  The repaired lines lead to the same state, and their course
is the course of the lines without its faults. -/
theorem course_repaired (s : State) (lines : List (List Char)) :
    s.after (s.repaired lines) = s.after lines ∧
      s.course (s.repaired lines) = (s.course lines).map withoutFaults := by
  induction lines generalizing s with
  | nil => exact ⟨rfl, rfl⟩
  | cons line lines ih =>
      obtain ⟨hstate, hcourse⟩ := ih (s.runLine line).1
      rw [repaired, course, List.zipWith_cons_cons, ← repaired]
      refine ⟨?_, ?_⟩
      · rw [after, List.foldl_cons, runLine_repair, after, List.foldl_cons]
        exact hstate
      · rw [course, runLine_repair, List.map_cons, hcourse]

end State

/-! ### The repaired source -/

theorem withoutFaults_entriesFrom (number : Nat) (groups : List (List Event)) :
    entriesFrom number (groups.map withoutFaults) =
      (entriesFrom number groups).filter fun e => !e.isFault := by
  induction groups generalizing number with
  | nil => rfl
  | cons events groups ih =>
      rw [List.map_cons, entriesFrom_cons, entriesFrom_cons, List.filter_append, ih,
        List.filter_map, withoutFaults]
      rfl

theorem Statement.keepsLines_repair (events : Nat → List Event) :
    Text.KeepsLines fun number line => repair (events number) line := by
  intro number line hfeed
  show '\n' ∉ repair (events number) line ∧
    ((repair (events number) line).getLast? = some '\r' → line.getLast? = some '\r')
  rw [repair]
  split
  · exact ⟨nofun, nofun⟩
  · split
    · rw [zeroSource]
      cases hc : cutWord? ((words line).length - 1) line with
      | none => exact ⟨hfeed, id⟩
      | some c =>
          obtain ⟨hline, -⟩ := put_word hc
          rw [← hline] at hfeed ⊢
          refine ⟨?_, ?_⟩
          · simp_all [Cut.put]
          · -- what follows the word ends both lines, and zero is no carriage return
            cases hback : c.back with
            | nil => simp [Cut.put, hback]
            | cons ch cs => simp [Cut.put, hback, List.getLast?_append, List.getLast?_cons]
    · exact ⟨hfeed, id⟩

/-- What was read off the trace is what the lines did. -/
theorem State.mapIdx_repair {s : State} {lines : List (List Char)} {t : Trace}
    (ht : t.toList = entriesFrom 1 (s.course lines)) :
    lines.mapIdx (fun k line => Statement.repair (t.eventsOf (1 + k)) line) = s.repaired lines := by
  refine List.ext_getElem ?_ fun k hk hk' => ?_
  · rw [List.length_mapIdx, repaired, List.length_zipWith, length_course, Nat.min_self]
  · have hcourse : k < (s.course lines).length := by
      rw [List.length_mapIdx] at hk
      rwa [length_course]
    rw [List.getElem_mapIdx, Trace.eventsOf_of_toList_eq ht, List.getElem?_eq_getElem hcourse]
    simp only [repaired, List.getElem_zipWith]
    rfl

namespace Machine

theorem runFrom_of_blank {blank : List (List Char)} (h : ∀ line ∈ blank, line = []) (m : Machine)
    (number : Nat) : m.runFrom number blank = m := by
  induction blank generalizing number with
  | nil => rfl
  | cons line blank ih =>
      obtain ⟨rfl, hblank⟩ := List.forall_mem_cons.mp h
      exact ih hblank (number + 1)

theorem run_repair (cells : Nat) (source : String) :
    run cells ((run cells source).trace.repair source) =
      (fresh cells).runFrom 1 ((State.zero cells).repaired (Text.lines source.toList)) := by
  have htrace := toList_trace_run cells source
  obtain ⟨blank, hlines, hblank⟩ := Text.mapIdx_lines_eq
    (Statement.keepsLines_repair (run cells source).trace.eventsOf) 1 source.toList
  rw [State.mapIdx_repair htrace] at hlines
  rw [hlines, runFrom_append, runFrom_of_blank hblank, run, Trace.repair, String.toList_ofList]

end Machine

/-- **Faults are isolated.**  A source repaired by the trace of its run logs no fault, ends in the
same state, and has the trace of that run without its faults. -/
theorem faults_isolated (r : Runner) (source : String) :
    let m := (r.run source).machine
    let m' := (r.run (m.trace.repair source)).machine
    m'.trace.faults = [] ∧ m'.state = m.state ∧
      m'.trace.toList = m.trace.toList.filter fun e => !e.isFault := by
  intro m m'
  have hm : m = .run r.machine.cells source := r.machine_run source
  have hm' : m' = (Machine.fresh r.machine.cells).runFrom 1
      ((State.zero r.machine.cells).repaired (Text.lines source.toList)) := by
    rw [← Machine.run_repair, ← hm]
    exact r.machine_run (m.trace.repair source)
  obtain ⟨hstate, hcourse⟩ :=
    (State.zero r.machine.cells).course_repaired (Text.lines source.toList)
  have htrace : m'.trace.toList = m.trace.toList.filter fun e => !e.isFault := by
    rw [hm', Machine.toList_trace_runFrom_fresh, hcourse, withoutFaults_entriesFrom, hm,
      Machine.toList_trace_run]
  refine ⟨?_, ?_, htrace⟩
  · rw [Trace.faults, htrace, List.filterMap_eq_nil_iff]
    intro e he
    have hnone : e.event.fault? = none := by simpa [Entry.isFault] using (List.mem_filter.mp he).2
    rw [Entry.fault?, hnone, Option.map_none]
  · rw [hm', Machine.state_runFrom, hm, Machine.run, Machine.state_runFrom]
    exact hstate

/-- A push of two words is emptied, and an address far away becomes zero. -/
example :
    let source := "push 1, 2\r\nmov eax, [99] ; far away\nadd eax, 5"
    (Machine.run 8 source).trace.repair source = "\r\nmov eax, 0 ; far away\nadd eax, 5" := by
  decide +kernel

end RegisterMachine
