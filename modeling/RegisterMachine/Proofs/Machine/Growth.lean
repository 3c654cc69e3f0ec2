import RegisterMachine.Proofs.Machine.Action
import RegisterMachine.Proofs.Machine.Course
import RegisterMachine.Proofs.Machine.Faults
import RegisterMachine.Proofs.Machine.Replay

/-!
# Proofs — Machine — Growth

A program that stays within memory and does not use the stack cannot tell how much memory there is.
On a machine with more cells it does the same, and the cells that are added stay zero
(`more_memory_runs_alike`).

The larger machine is the smaller one with zeros put behind its cells (`State.grow`), and it remains
so: an access that reaches a cell reaches the same cell in the larger memory
(`Memory.index_grow`), so an instruction whose events are in bounds leaves the same events there and
the grown state (`State.execute_grow`).  The stack is left out because a stack pointer below zero
counts from the end of memory, which is somewhere else when memory has grown.
-/

namespace RegisterMachine

/-- None of the events is the fault of an access outside memory. -/
def InBounds (events : List Event) : Prop :=
  ∀ f, .fault f ∈ events → f.kind ≠ .bounds

theorem inBounds_append_iff {events events' : List Event} :
    InBounds (events ++ events') ↔ InBounds events ∧ InBounds events' := by
  simp only [InBounds, List.mem_append, or_imp, forall_and]

theorem InBounds.kind_ne {f : Fault} (h : InBounds [.fault f]) : f.kind ≠ .bounds :=
  h f List.mem_cons_self

/-! ### One access -/

namespace Memory

/-- Memory with `n` more cells behind the others, all zero. -/
def grow (m : Memory) (n : Nat) : Memory :=
  ⟨m.cells ++ Array.replicate n 0⟩

variable {m : Memory} {n : Nat} {address v : Int64} {i : Fin m.size}

theorem size_grow (m : Memory) (n : Nat) : (m.grow n).size = m.size + n := by
  rw [size, grow, Array.size_append, Array.size_replicate]

theorem size_le_size_grow (m : Memory) (n : Nat) : m.size ≤ (m.grow n).size :=
  (m.size_grow n).symm ▸ Nat.le_add_right ..

theorem zero_grow (cells n : Nat) : (zero cells).grow n = zero (cells + n) :=
  congrArg Memory.mk Array.replicate_append_replicate

theorem getElem?_cells_grow_of_lt {k : Nat} (h : k < m.size) :
    (m.grow n).cells[k]? = m.cells[k]? :=
  Array.getElem?_append_left h

theorem getElem?_cells_grow_of_le {k : Nat} (hle : m.size ≤ k) (hlt : k < m.size + n) :
    (m.grow n).cells[k]? = some 0 := by
  rw [grow, Array.getElem?_append_right hle, Array.getElem?_replicate,
    if_pos (Nat.sub_lt_left_of_lt_add hle hlt)]

/-- An address that reaches a cell reaches the same one when memory has grown. -/
theorem index_grow (h : m.index address = .ok i) :
    (m.grow n).index address = .ok (i.castLE (m.size_le_size_grow n)) :=
  ((m.grow n).index_eq_ok_iff ..).mpr ((m.index_eq_ok_iff ..).mp h)

theorem get_grow : (m.grow n).get (i.castLE (m.size_le_size_grow n)) = m.get i :=
  Array.getElem_append_left i.isLt

theorem set_grow : (m.grow n).set (i.castLE (m.size_le_size_grow n)) v = (m.set i v).grow n :=
  congrArg Memory.mk (Array.set_append_left i.isLt)

theorem load_grow (h : m.load address = .ok v) : (m.grow n).load address = .ok v := by
  rw [load] at h
  split at h
  · next i hi =>
      rw [load, index_grow hi, ← h]
      exact congrArg Except.ok get_grow
  · cases h

end Memory

/-! ### One instruction -/

namespace State

/-- The state with `n` more cells behind the others, all zero. -/
def grow (s : State) (n : Nat) : State :=
  ⟨s.registers, s.memory.grow n⟩

variable {s : State} {src : Operand} {i : Instruction} (n : Nat)

/-- A source has the same value, or the same fault, unless that is of an access outside memory. -/
theorem fetch_grow (h : InBounds (s.fetch src).2) : (s.grow n).fetch src = s.fetch src := by
  rcases s.fetch_cases src with ⟨v, hread, hfetch⟩ | ⟨f, hread, hfetch⟩
  · have hgrown : (s.grow n).read src = .ok v := by
      cases src with
      | register r | immediate v => exact hread
      | malformed f => cases hread
      | memory a => exact Memory.load_grow hread
    rw [hfetch, fetch, hgrown]
  · rw [hfetch] at h
    rcases eq_of_read_error hread with rfl | ⟨address, rfl⟩
    · rfl
    · exact absurd rfl h.kind_ne

theorem assign_grow {v : Int64} {dst : Destination} (h : InBounds [(s.assign v dst).2]) :
    (s.grow n).assign v dst = ((s.assign v dst).1.grow n, (s.assign v dst).2) := by
  cases dst with
  | register r => rfl
  | memory a =>
      cases hindex : s.memory.index (s.address a) with
      | ok c =>
          have hgrown : (s.grow n).memory.index ((s.grow n).address a) =
              .ok (c.castLE (s.memory.size_le_size_grow n)) := Memory.index_grow hindex
          rw [assign, assign, hindex, hgrown]
          exact congrArg (fun memory => (State.mk s.registers memory, _)) Memory.set_grow
      | error f =>
          rw [assign, hindex] at h
          exact absurd (congrArg Fault.kind (Memory.eq_of_index_error hindex)) h.kind_ne

theorem act_grow (hi : i.opcode ≠ .push ∧ i.opcode ≠ .pop) {v : Int64}
    (h : InBounds [(s.act i v).2]) :
    (s.grow n).act i v = ((s.act i v).1.grow n, (s.act i v).2) := by
  cases i with
  | mov dst src => exact assign_grow n h
  | add dst src | sub dst src => rfl
  | push src => exact absurd rfl hi.1
  | pop dst => exact absurd rfl hi.2

/-- **One instruction.**  If its events are in bounds, it does the same in the grown state. -/
theorem execute_grow (hi : i.opcode ≠ .push ∧ i.opcode ≠ .pop) (h : InBounds (s.execute i).2) :
    (s.grow n).execute i = ((s.execute i).1.grow n, (s.execute i).2) := by
  rw [execute_eq, inBounds_append_iff] at h
  obtain ⟨hfetched, hact⟩ := h
  have hgrown : (s.grow n).fetched i = s.fetched i := by
    rw [fetched] at hfetched ⊢
    cases hsrc : i.source? with
    | none => rw [fetched, hsrc]
    | some src =>
        rw [hsrc] at hfetched
        rw [fetched, hsrc]
        exact fetch_grow n hfetched
  rw [execute_eq, execute_eq, hgrown, act_grow n hi hact]

end State

/-! ### All lines, one after the other -/

/-- No line of the source is an instruction that uses the stack. -/
def SparesStack (lines : List (List Char)) : Prop :=
  ∀ line ∈ lines, ∀ i ∈ Statement.instructionOn? line, i.opcode ≠ .push ∧ i.opcode ≠ .pop

instance : DecidablePred SparesStack := fun lines =>
  inferInstanceAs (Decidable (∀ line ∈ lines, ∀ i ∈ Statement.instructionOn? line,
    i.opcode ≠ .push ∧ i.opcode ≠ .pop))

namespace State

variable {s : State} (n : Nat)

theorem runLine_grow {line : List Char}
    (hline : ∀ i ∈ Statement.instructionOn? line, i.opcode ≠ .push ∧ i.opcode ≠ .pop)
    (h : InBounds (s.runLine line).2) :
    (s.grow n).runLine line = ((s.runLine line).1.grow n, (s.runLine line).2) := by
  cases hst : Statement.ofLine? line with
  | none => rw [runLine_of_blank _ hst, runLine_of_blank _ hst]
  | some st =>
      cases hinstr : st.instruction with
      | error f => rw [runLine_of_fault _ hst hinstr, runLine_of_fault _ hst hinstr]
      | ok i =>
          have hi := hline i (Statement.instructionOn?_eq_some_iff.mpr ⟨st, hst, hinstr⟩)
          rw [runLine_of_instruction _ hst hinstr] at h ⊢
          rw [runLine_of_instruction _ hst hinstr]
          exact execute_grow n hi h

/-- **All lines, one after the other.**  If their events are in bounds, they lead from the grown
state to the grown state, in the same course. -/
theorem after_course_grow {lines : List (List Char)} (hspare : SparesStack lines)
    (h : ∀ events ∈ s.course lines, InBounds events) :
    (s.grow n).after lines = (s.after lines).grow n ∧
      (s.grow n).course lines = s.course lines := by
  induction lines generalizing s with
  | nil => exact ⟨rfl, rfl⟩
  | cons line lines ih =>
      obtain ⟨hline, hlines⟩ := List.forall_mem_cons.mp hspare
      obtain ⟨hfirst, hrest⟩ := List.forall_mem_cons.mp h
      have hgrown := runLine_grow n hline hfirst
      obtain ⟨hafter, hcourse⟩ := ih hlines hrest
      rw [after, List.foldl_cons, course, hgrown, hcourse]
      exact ⟨hafter, rfl⟩

end State

theorem map_event_entriesFrom (number : Nat) (groups : List (List Event)) :
    (entriesFrom number groups).map Entry.event = groups.flatten := by
  induction groups generalizing number with
  | nil => rfl
  | cons events groups ih =>
      have hevents : (events.map (Entry.mk number)).map Entry.event = events := by
        rw [List.map_map]
        exact List.map_id _
      rw [entriesFrom_cons, List.map_append, hevents, ih, List.flatten_cons]

theorem Trace.inBounds_of_count_eq_zero {t : Trace} (h : t.count .bounds = 0) :
    InBounds (t.toList.map Entry.event) := by
  intro f hf hkind
  obtain ⟨e, he, hevent⟩ := List.mem_map.mp hf
  have hfault : (e.line, f) ∈ t.faults := by
    refine List.mem_filterMap.mpr ⟨e, he, ?_⟩
    rw [Entry.fault?, hevent]
    rfl
  exact List.countP_eq_zero.mp h _ hfault (decide_eq_true hkind)

/-- A run that counts no fault of bounds is in bounds in every line. -/
theorem Machine.inBounds_course {cells : Nat} {source : String}
    (h : (run cells source).trace.count .bounds = 0) :
    ∀ events ∈ (State.zero cells).course (Text.lines source.toList), InBounds events := by
  have hall := Trace.inBounds_of_count_eq_zero h
  rw [toList_trace_run, map_event_entriesFrom] at hall
  exact fun events hevents f hf => hall f (List.mem_flatten_of_mem hevents hf)

/-- **More memory changes nothing.**  Let a program without pushes and pops run on a machine with
`m` cells and leave no fault of bounds.  On a machine with `n` cells, at least as many, it ends with
the same registers and leaves the same trace; the first `m` cells hold the same values, and all
others hold zero. -/
theorem more_memory_runs_alike {m n : Nat} (hmn : m ≤ n) (source : String)
    (hspare : SparesStack (Text.lines source.toList))
    (hbounds : (Machine.run m source).trace.count .bounds = 0) :
    let small := Machine.run m source
    let large := Machine.run n source
    large.state.registers = small.state.registers ∧ large.trace = small.trace ∧
    (∀ i < m, large.state.memory.cells[i]? = small.state.memory.cells[i]?) ∧
    ∀ i, m ≤ i → i < n → large.state.memory.cells[i]? = some 0 := by
  intro small large
  obtain ⟨k, rfl⟩ := Nat.exists_eq_add_of_le hmn
  have hzero : State.zero (m + k) = (State.zero m).grow k :=
    congrArg (State.mk .zero) (Memory.zero_grow m k).symm
  obtain ⟨hafter, hcourse⟩ :=
    State.after_course_grow k hspare (Machine.inBounds_course hbounds)
  have hstate : large.state = small.state.grow k := by
    rw [Machine.state_run, Machine.state_run, hzero, hafter]
  have htrace : large.trace = small.trace := by
    apply Array.ext'
    rw [Machine.toList_trace_run, Machine.toList_trace_run, hzero, hcourse]
  have hsize : small.state.memory.size = m :=
    ((Machine.fresh m).continues_runFrom 1 _).cells_eq.trans (Memory.size_zero m)
  refine ⟨by rw [hstate]; rfl, htrace, fun i hi => ?_, fun i hle hlt => ?_⟩
  · rw [hstate]
    exact Memory.getElem?_cells_grow_of_lt (hsize.symm ▸ hi)
  · rw [hstate]
    exact Memory.getElem?_cells_grow_of_le (hsize.symm ▸ hle) (hsize.symm ▸ hlt)

/-- Cells are reached through registers, and one source is no number.  On six cells the run is that
on four. -/
theorem more_memory_runs_alike_six_cells :
    let source := "mov eax, 3\nmov [eax], 7\nadd ebx, [eax]\nsub ebx, x\nmov [1], ebx"
    let small := Machine.run 4 source
    let large := Machine.run 6 source
    4 ≤ 6 ∧ SparesStack (Text.lines source.toList) ∧ small.trace.count .bounds = 0 ∧
    small.trace.count .parse = 1 ∧ large.trace = small.trace ∧
    large.state.memory.cells[3]? = some 7 ∧ large.state.memory.cells[4]? = some 0 := by
  intro source small large
  have hspare : SparesStack (Text.lines source.toList) := by decide +kernel
  have hbounds : small.trace.count .bounds = 0 := by decide +kernel
  have hparse : small.trace.count .parse = 1 := by decide +kernel
  have hcell : small.state.memory.cells[3]? = some 7 := by decide +kernel
  obtain ⟨-, htrace, hfirst, hothers⟩ :=
    more_memory_runs_alike (by decide : 4 ≤ 6) source hspare hbounds
  exact ⟨by decide, hspare, hbounds, hparse, htrace, (hfirst 3 (by decide)).trans hcell,
    hothers 4 (by decide) (by decide)⟩

end RegisterMachine
