import RegisterMachine.Program

/-!
# Proofs — Machine — Course

The course of a run, line by line.  What a line does depends on the state alone (`State.runLine`),
and not on its number or on the trace, so a run has a course: for each of its lines, the events that
belong to it (`State.course`).  The trace of the run is its course written out, each event under the
number of its line (`Machine.toList_trace_runFrom`), and the course can be read back from it
(`Trace.eventsOf_of_toList_eq`).
-/

namespace RegisterMachine

/-- What a line of source text does: the state after it, and its events. -/
def State.runLine (s : State) (line : List Char) : State × List Event :=
  match Statement.ofLine? line with
  | some st => s.perform st
  | none    => (s, [])

/-- The state after lines that are carried out in order. -/
def State.after (s : State) (lines : List (List Char)) : State :=
  lines.foldl (fun s line => (s.runLine line).1) s

/-- The events of each line, when lines are carried out in order. -/
def State.course (s : State) : List (List Char) → List (List Event)
  | []            => []
  | line :: lines => (s.runLine line).2 :: (s.runLine line).1.course lines

/-- The entries of events under line numbers; the first group has the given number. -/
def entriesFrom (number : Nat) (groups : List (List Event)) : List Entry :=
  (groups.zipIdx number).flatMap fun (events, n) => events.map (Entry.mk n)

/-- The events under a line number among entries. -/
def eventsAt (number : Nat) (entries : List Entry) : List Event :=
  entries.filterMap fun e => if e.line = number then some e.event else none

/-- The events of a line on a trace. -/
def Trace.eventsOf (t : Trace) (number : Nat) : List Event :=
  eventsAt number t.toList

namespace State

variable {line : List Char} {st : Statement}

theorem runLine_of_blank (s : State) (hline : Statement.ofLine? line = none) :
    s.runLine line = (s, []) := by
  rw [runLine, hline]

theorem runLine_of_fault (s : State) (hline : Statement.ofLine? line = some st) {f : Fault}
    (h : st.instruction = .error f) : s.runLine line = (s, [.fault f]) := by
  rw [runLine, hline]
  show s.perform st = _
  rw [perform, h]

theorem runLine_of_instruction (s : State) (hline : Statement.ofLine? line = some st)
    {i : Instruction} (h : st.instruction = .ok i) : s.runLine line = s.execute i := by
  rw [runLine, hline]
  show s.perform st = _
  rw [perform, h]

end State

/-- The instruction that a line stands for, if it stands for one. -/
def Statement.instructionOn? (line : List Char) : Option Instruction :=
  (ofLine? line).bind fun st => st.instruction.toOption

theorem Statement.instructionOn?_eq_some_iff {line : List Char} {i : Instruction} :
    instructionOn? line = some i ↔ ∃ st, ofLine? line = some st ∧ st.instruction = .ok i := by
  rw [instructionOn?, Option.bind_eq_some_iff]
  refine exists_congr fun st => and_congr_right fun _ => ?_
  cases st.instruction with
  | ok i' => exact ⟨fun h => congrArg _ (Option.some.inj h), fun h => congrArg _ (Except.ok.inj h)⟩
  | error f => exact ⟨nofun, nofun⟩

namespace State

variable {line : List Char}

theorem runLine_of_some (s : State) {i : Instruction} (h : Statement.instructionOn? line = some i) :
    s.runLine line = s.execute i := by
  obtain ⟨st, hline, hinstr⟩ := Statement.instructionOn?_eq_some_iff.mp h
  exact s.runLine_of_instruction hline hinstr

/-- A line that stands for no instruction leaves the state as it is. -/
theorem runLine_of_none (s : State) (h : Statement.instructionOn? line = none) :
    (s.runLine line).1 = s := by
  cases hline : Statement.ofLine? line with
  | none => rw [s.runLine_of_blank hline]
  | some st =>
      cases hinstr : st.instruction with
      | error f => rw [s.runLine_of_fault hline hinstr]
      | ok i =>
          rw [Statement.instructionOn?_eq_some_iff.mpr ⟨st, hline, hinstr⟩] at h
          cases h

end State

@[simp] theorem State.length_course (s : State) (lines : List (List Char)) :
    (s.course lines).length = lines.length := by
  induction lines generalizing s with
  | nil => rfl
  | cons line lines ih => rw [course, List.length_cons, ih, List.length_cons]

/-- The events of a line are those that it has in the state after the lines before it. -/
theorem State.getElem?_course (s : State) (lines : List (List Char)) (k : Nat) :
    (s.course lines)[k]? =
      lines[k]?.map fun line => ((s.after (lines.take k)).runLine line).2 := by
  induction lines generalizing s k with
  | nil => rfl
  | cons line lines ih =>
      cases k with
      | zero => rfl
      | succ k => exact ih (s.runLine line).1 k

theorem State.after_take_succ (s : State) {lines : List (List Char)} {k : Nat}
    {line : List Char} (h : lines[k]? = some line) :
    s.after (lines.take (k + 1)) = ((s.after (lines.take k)).runLine line).1 := by
  rw [List.take_add_one, h, after, List.foldl_append]
  rfl

@[simp] theorem entriesFrom_nil (number : Nat) : entriesFrom number [] = [] :=
  rfl

@[simp] theorem entriesFrom_cons (number : Nat) (events : List Event)
    (groups : List (List Event)) :
    entriesFrom number (events :: groups) =
      events.map (Entry.mk number) ++ entriesFrom (number + 1) groups := by
  rw [entriesFrom, List.zipIdx_cons, List.flatMap_cons, ← entriesFrom]

/-! ### From the course to the trace -/

namespace Machine

theorem stepLine_eq (m : Machine) (number : Nat) (line : List Char) :
    m.stepLine number line = proceed m.trace number (m.state.runLine line) := by
  rw [stepLine, State.runLine]
  cases Statement.ofLine? line with
  | some st => rfl
  | none => rfl

@[simp] theorem state_stepLine (m : Machine) (number : Nat) (line : List Char) :
    (m.stepLine number line).state = (m.state.runLine line).1 := by
  rw [stepLine_eq, proceed]

@[simp] theorem toList_trace_stepLine (m : Machine) (number : Nat) (line : List Char) :
    (m.stepLine number line).trace.toList =
      m.trace.toList ++ (m.state.runLine line).2.map (Entry.mk number) := by
  rw [stepLine_eq, proceed, Array.toList_appendList]

@[simp] theorem state_runFrom (m : Machine) (number : Nat) (lines : List (List Char)) :
    (m.runFrom number lines).state = m.state.after lines := by
  induction lines generalizing m number with
  | nil => rfl
  | cons line lines ih =>
      rw [runFrom, ih, state_stepLine, State.after, State.after, List.foldl_cons]

/-- **The trace of a run is its course written out.** -/
theorem toList_trace_runFrom (m : Machine) (number : Nat) (lines : List (List Char)) :
    (m.runFrom number lines).trace.toList =
      m.trace.toList ++ entriesFrom number (m.state.course lines) := by
  induction lines generalizing m number with
  | nil => rw [runFrom, State.course, entriesFrom_nil, List.append_nil]
  | cons line lines ih =>
      rw [runFrom, ih, toList_trace_stepLine, state_stepLine, State.course, entriesFrom_cons,
        List.append_assoc]

/-- On a fresh machine there is nothing in front of the course. -/
theorem toList_trace_runFrom_fresh (cells number : Nat) (lines : List (List Char)) :
    ((fresh cells).runFrom number lines).trace.toList =
      entriesFrom number ((State.zero cells).course lines) := by
  rw [toList_trace_runFrom, fresh, List.nil_append]

theorem state_run (cells : Nat) (source : String) :
    (run cells source).state = (State.zero cells).after (Text.lines source.toList) :=
  state_runFrom ..

theorem toList_trace_run (cells : Nat) (source : String) :
    (run cells source).trace.toList =
      entriesFrom 1 ((State.zero cells).course (Text.lines source.toList)) :=
  toList_trace_runFrom_fresh cells 1 (Text.lines source.toList)

end Machine

/-! ### From the trace to the course -/

theorem eventsAt_append (number : Nat) (es es' : List Entry) :
    eventsAt number (es ++ es') = eventsAt number es ++ eventsAt number es' := by
  rw [eventsAt, eventsAt, eventsAt, List.filterMap_append]

theorem eventsAt_self (number : Nat) (events : List Event) :
    eventsAt number (events.map (Entry.mk number)) = events := by
  have hsome : (fun e : Entry => if e.line = number then some e.event else none) ∘ Entry.mk number
      = some :=
    funext fun event => if_pos rfl
  rw [eventsAt, List.filterMap_map, hsome, List.filterMap_some]

theorem eventsAt_of_ne {number n : Nat} (h : n ≠ number) (events : List Event) :
    eventsAt number (events.map (Entry.mk n)) = [] := by
  rw [eventsAt, List.filterMap_eq_nil_iff]
  intro e he
  obtain ⟨event, -, rfl⟩ := List.mem_map.mp he
  exact if_neg h

theorem eventsAt_entriesFrom_of_lt {n number : Nat} (h : n < number)
    (groups : List (List Event)) : eventsAt n (entriesFrom number groups) = [] := by
  induction groups generalizing number with
  | nil => rfl
  | cons events groups ih =>
      rw [entriesFrom_cons, eventsAt_append, eventsAt_of_ne (Nat.ne_of_gt h),
        ih (Nat.lt_succ_of_lt h), List.nil_append]

theorem eventsAt_entriesFrom (number k : Nat) (groups : List (List Event)) :
    eventsAt (number + k) (entriesFrom number groups) = groups[k]?.getD [] := by
  induction groups generalizing number k with
  | nil => rfl
  | cons events groups ih =>
      rw [entriesFrom_cons, eventsAt_append]
      cases k with
      | zero =>
          rw [Nat.add_zero, eventsAt_self, eventsAt_entriesFrom_of_lt (Nat.lt_succ_self number),
            List.append_nil]
          rfl
      | succ k =>
          have hne : number ≠ number + (k + 1) := by omega
          have hnumber : number + (k + 1) = number + 1 + k := by omega
          rw [eventsAt_of_ne hne, List.nil_append, hnumber, ih (number + 1) k]
          rfl

/-- The events of a line on a written-out course are its group. -/
theorem Trace.eventsOf_of_toList_eq {t : Trace} {groups : List (List Event)}
    (h : t.toList = entriesFrom 1 groups) (k : Nat) :
    t.eventsOf (1 + k) = groups[k]?.getD [] := by
  rw [eventsOf, h]
  exact eventsAt_entriesFrom 1 k groups

/-- The events under the number of a line are what the line does in the state before it. -/
theorem Machine.eventsOf_run (cells : Nat) (source : String) {k : Nat} {line : List Char}
    (h : (Text.lines source.toList)[k]? = some line) :
    (run cells source).trace.eventsOf (1 + k) =
      (((State.zero cells).after ((Text.lines source.toList).take k)).runLine line).2 := by
  rw [Trace.eventsOf_of_toList_eq (toList_trace_run cells source), State.getElem?_course, h]
  rfl

end RegisterMachine
