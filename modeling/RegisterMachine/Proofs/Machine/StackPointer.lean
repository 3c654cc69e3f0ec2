import RegisterMachine.Proofs.Machine.Course
import RegisterMachine.Proofs.Machine.Footprint
import RegisterMachine.Proofs.Machine.Stack

/-!
# Proofs — Machine — Stack pointer

In a program that never names the stack pointer as a destination, only pushes and pops move it, four
cells at a time, and only as far as there are slots.  So it stays within a range that is known from
the number of cells alone (`State.EspInRange`), whether or not pushes and pops are paired, and it
tells by itself which of them are refused (`stack_pointer_in_range`).

The range is not symmetric.  A push is refused below minus the number of cells, before it has moved
the stack pointer, and a pop is refused where it stands, after the one before it has moved it past
the last cell by up to three.
-/

namespace RegisterMachine

/-- Among the events is the fault of a stack pointer that reaches no cell. -/
def StackFaulted (events : List Event) : Prop :=
  ∃ sp cells, .fault (.stackOutOfBounds sp cells) ∈ events

theorem stackFaulted_append_fault (events : List Event) (sp : Int64) (cells : Nat) :
    StackFaulted (events ++ [.fault (.stackOutOfBounds sp cells)]) :=
  ⟨sp, cells, List.mem_append_right _ List.mem_cons_self⟩

theorem not_stackFaulted_append_effect {events : List Event} (h : ¬ StackFaulted events)
    (e : Effect) : ¬ StackFaulted (events ++ [.effect e]) := by
  rintro ⟨sp, cells, hmem⟩
  rcases List.mem_append.mp hmem with hmem | hmem
  · exact h ⟨sp, cells, hmem⟩
  · cases List.mem_singleton.mp hmem

namespace State

/-- The stack pointer is a multiple of four, and lies from minus the number of cells up to three
above it. -/
structure EspInRange (s : State) : Prop where
  dvd : 4 ∣ (s.registers.get .esp).toInt
  neg_size_le : -(s.memory.size : Int) ≤ (s.registers.get .esp).toInt
  le_size_add : (s.registers.get .esp).toInt ≤ s.memory.size + 3

variable {s : State} {i : Instruction}

/-! ### Pushes and pops -/

namespace EspInRange

variable (h : s.EspInRange) (hcells : 8 * s.memory.size ≤ Text.int64Max)

include h hcells

theorem toInt_sub :
    (s.registers.get .esp - stackSlot).toInt = (s.registers.get .esp).toInt - 4 := by
  have hmax : Text.int64Max = 2 ^ 63 - 1 := rfl
  have := h.neg_size_le
  exact toInt_sub_stackSlot (by omega)

theorem toInt_add :
    (s.registers.get .esp + stackSlot).toInt = (s.registers.get .esp).toInt + 4 := by
  have hmax : Text.int64Max = 2 ^ 63 - 1 := rfl
  have := h.le_size_add
  exact toInt_add_stackSlot (by omega)

/-- A push is refused if the next slot lies below the range, and moves the stack pointer there if it
does not. -/
theorem push_cases (v : Int64) :
    ((s.registers.get .esp).toInt - 4 < -s.memory.size ∧
      s.push v =
        (s, .fault (.stackOutOfBounds (s.registers.get .esp - stackSlot) s.memory.size))) ∨
    (-s.memory.size ≤ (s.registers.get .esp).toInt - 4 ∧ ∃ s' e,
      s.push v = (s', .effect e) ∧ s'.memory.size = s.memory.size ∧
        s'.registers.get .esp = s.registers.get .esp - stackSlot) := by
  have hfits : s.memory.size ≤ Text.int64Max := by omega
  have hsub := h.toInt_sub hcells
  have hle := h.le_size_add
  cases hcell : View.stack.cell? s.memory.size (s.registers.get .esp - stackSlot).toInt with
  | none =>
      have hrefused := push_of_error (Memory.cellIn_of_none hfits hcell) v
      rw [View.cell?_stack_eq_none_iff] at hcell
      exact .inl ⟨by omega, hrefused⟩
  | some c =>
      have hrange := View.cell?_stack_eq_some_iff.mp hcell
      refine .inr ⟨by omega, _, _, push_of_ok (Memory.cellIn_of_some hfits hcell) v, ?_, ?_⟩
      · exact Memory.size_set ..
      · exact RegisterBank.get_set_self ..

/-- A pop is refused if the stack pointer has passed the last slot, and moves it up if it has
not. -/
theorem pop_cases {r : Register} (hr : r ≠ .esp) :
    ((s.memory.size : Int) ≤ (s.registers.get .esp).toInt ∧
      s.pop r = (s, .fault (.stackOutOfBounds (s.registers.get .esp) s.memory.size))) ∨
    ((s.registers.get .esp).toInt < s.memory.size ∧ ∃ s' e,
      s.pop r = (s', .effect e) ∧ s'.memory.size = s.memory.size ∧
        s'.registers.get .esp = s.registers.get .esp + stackSlot) := by
  have hfits : s.memory.size ≤ Text.int64Max := by omega
  have hle := h.neg_size_le
  cases hcell : View.stack.cell? s.memory.size (s.registers.get .esp).toInt with
  | none =>
      have hload := Memory.loadIn_of_error (Memory.cellIn_of_none hfits hcell)
      rw [View.cell?_stack_eq_none_iff] at hcell
      exact .inl ⟨by omega, pop_of_error hload⟩
  | some c =>
      have hload := Memory.loadIn_of_ok (Memory.cellIn_of_some hfits hcell)
      have hrange := View.cell?_stack_eq_some_iff.mp hcell
      refine .inr ⟨by omega, _, _, pop_of_ok hload, rfl, ?_⟩
      rw [RegisterBank.get_set_self, RegisterBank.get_set_of_ne _ hr]

theorem push (v : Int64) : (s.push v).1.EspInRange := by
  rcases h.push_cases hcells v with ⟨-, heq⟩ | ⟨hroom, s', e, heq, hsize, hesp⟩
  · rw [heq]
    exact h
  · have hsub := h.toInt_sub hcells
    obtain ⟨hdvd, hlower, hupper⟩ := h
    rw [← hesp] at hsub
    rw [heq]
    show s'.EspInRange
    exact ⟨by omega, by omega, by omega⟩

theorem pop {r : Register} (hr : r ≠ .esp) : (s.pop r).1.EspInRange := by
  rcases h.pop_cases hcells hr with ⟨-, heq⟩ | ⟨hroom, s', e, heq, hsize, hesp⟩
  · rw [heq]
    exact h
  · have hadd := h.toInt_add hcells
    obtain ⟨hdvd, hlower, hupper⟩ := h
    rw [← hesp] at hadd
    rw [heq]
    show s'.EspInRange
    exact ⟨by omega, by omega, by omega⟩

/-- A push leaves the fault of the stack pointer exactly if the next slot is below the range; it
then changes nothing, and otherwise it moves the stack pointer. -/
theorem execute_push {src : Operand} (hsrc : ¬ StackFaulted (s.fetch src).2) :
    (StackFaulted (s.execute (.push src)).2 ↔
      (s.registers.get .esp).toInt - 4 < -s.memory.size) ∧
    (StackFaulted (s.execute (.push src)).2 → (s.execute (.push src)).1 = s) ∧
    (¬ StackFaulted (s.execute (.push src)).2 →
      (s.execute (.push src)).1.registers.get .esp = s.registers.get .esp - stackSlot) := by
  rw [State.execute_push]
  rcases h.push_cases hcells (s.fetch src).1 with ⟨hfull, heq⟩ | ⟨hroom, s', e, heq, -, hesp⟩
  · rw [heq]
    have hfaulted := stackFaulted_append_fault (s.fetch src).2
      (s.registers.get .esp - stackSlot) s.memory.size
    exact ⟨iff_of_true hfaulted hfull, fun _ => rfl, fun hnot => absurd hfaulted hnot⟩
  · rw [heq]
    have hnot := not_stackFaulted_append_effect hsrc e
    exact ⟨iff_of_false hnot (Int.not_lt.mpr hroom), fun h => absurd h hnot, fun _ => hesp⟩

/-- A pop leaves the fault of the stack pointer exactly if that has passed the last slot; it then
changes nothing, and otherwise it moves the stack pointer. -/
theorem execute_pop {r : Register} (hr : r ≠ .esp) :
    (StackFaulted (s.execute (.pop r)).2 ↔
      (s.memory.size : Int) ≤ (s.registers.get .esp).toInt) ∧
    (StackFaulted (s.execute (.pop r)).2 → (s.execute (.pop r)).1 = s) ∧
    (¬ StackFaulted (s.execute (.pop r)).2 →
      (s.execute (.pop r)).1.registers.get .esp = s.registers.get .esp + stackSlot) := by
  rw [State.execute_pop]
  rcases h.pop_cases hcells hr with ⟨hpast, heq⟩ | ⟨hroom, s', e, heq, -, hesp⟩
  · rw [heq]
    have hfaulted := stackFaulted_append_fault [] (s.registers.get .esp) s.memory.size
    exact ⟨iff_of_true hfaulted hpast, fun _ => rfl, fun hnot => absurd hfaulted hnot⟩
  · rw [heq]
    have hnone : ¬ StackFaulted [] := fun ⟨_, _, hmem⟩ => List.not_mem_nil hmem
    have hnot := not_stackFaulted_append_effect hnone e
    exact ⟨iff_of_false hnot (Int.not_le.mpr hroom), fun h => absurd h hnot, fun _ => hesp⟩

end EspInRange

/-! ### One line, and all of them -/

/-- Only pushes and pops write to the stack pointer without naming it. -/
theorem esp_notMem_writes (s : State) (hi : i.destination? ≠ some (.register .esp))
    (hpush : i.opcode ≠ .push) (hpop : i.opcode ≠ .pop) : .register .esp ∉ s.writes i := by
  cases i with
  | mov dst src =>
      cases dst with
      | register r => simpa [writes, Instruction.destination?, eq_comm] using hi
      | memory a => exact Memory.register_notMem_placesIn _ _ _ _
  | add r src | sub r src => simpa [writes, Instruction.destination?, eq_comm] using hi
  | push src => exact absurd rfl hpush
  | pop r => exact absurd rfl hpop

theorem ne_esp_of_pop {r : Register}
    (hi : (Instruction.pop r).destination? ≠ some (.register .esp)) : r ≠ .esp :=
  fun hr => hi (by rw [Instruction.destination?, hr])

/-- **One instruction.**  The stack pointer stays in range if it is no destination. -/
theorem EspInRange.execute (h : s.EspInRange) (hcells : 8 * s.memory.size ≤ Text.int64Max)
    (hi : i.destination? ≠ some (.register .esp)) : (s.execute i).1.EspInRange := by
  cases i with
  | push src =>
      rw [State.execute_push]
      exact h.push hcells _
  | pop r =>
      rw [State.execute_pop]
      exact h.pop hcells (ne_esp_of_pop hi)
  | mov dst src | add r src | sub r src =>
      -- neither the stack pointer nor what it is measured by changes
      have hesp := get_execute (s.esp_notMem_writes hi nofun nofun)
      have hsize := s.size_execute
      obtain ⟨hdvd, hlower, hupper⟩ := h
      exact ⟨by rwa [hesp], by rwa [hesp, hsize], by rwa [hesp, hsize]⟩

end State

/-- No line of the source is an instruction that has the stack pointer for its destination. -/
def SparesEsp (lines : List (List Char)) : Prop :=
  ∀ line ∈ lines, ∀ i ∈ Statement.instructionOn? line, i.destination? ≠ some (.register .esp)

instance : DecidablePred SparesEsp := fun lines =>
  inferInstanceAs (Decidable (∀ line ∈ lines, ∀ i ∈ Statement.instructionOn? line,
    i.destination? ≠ some (.register .esp)))

namespace State

theorem size_runLine (s : State) (line : List Char) :
    (s.runLine line).1.memory.size = s.memory.size := by
  rw [runLine]
  split
  · exact (s.replays_perform _).size_memory
  · rfl

theorem size_after (s : State) (lines : List (List Char)) :
    (s.after lines).memory.size = s.memory.size := by
  induction lines generalizing s with
  | nil => rfl
  | cons line lines ih => exact (ih (s.runLine line).1).trans (s.size_runLine line)

namespace EspInRange

variable {s : State}

theorem zero (cells : Nat) : (State.zero cells).EspInRange := by
  have hesp : ((State.zero cells).registers.get .esp).toInt = 0 := by
    rw [State.zero, RegisterBank.get_zero]
    rfl
  constructor <;> rw [hesp] <;> omega

/-- **All lines, one after the other.** -/
theorem after (h : s.EspInRange) (hcells : 8 * s.memory.size ≤ Text.int64Max)
    {lines : List (List Char)} (hspare : SparesEsp lines) : (s.after lines).EspInRange := by
  induction lines generalizing s with
  | nil => exact h
  | cons line lines ih =>
      have hline : (s.runLine line).1.EspInRange := by
        cases hi : Statement.instructionOn? line with
        | none =>
            rw [s.runLine_of_none hi]
            exact h
        | some i =>
            rw [s.runLine_of_some hi]
            exact h.execute hcells (hspare _ List.mem_cons_self i hi)
      refine ih hline ?_ fun line hline => hspare line (List.mem_cons_of_mem _ hline)
      rw [s.size_runLine]
      exact hcells

end EspInRange

/-- A source that is read from a word may be at fault, but not of the stack pointer. -/
theorem not_stackFaulted_fetch (s : State) {line : List Char} {src : Operand}
    (h : Statement.instructionOn? line = some (.push src)) : ¬ StackFaulted (s.fetch src).2 := by
  obtain ⟨st, -, hinstr⟩ := Statement.instructionOn?_eq_some_iff.mp h
  obtain ⟨op, -, hspelled⟩ := Statement.spelled_of_instruction hinstr
  obtain ⟨token, -, rfl⟩ := hspelled.exists_source rfl
  rintro ⟨sp, cells, hmem⟩
  rcases s.fetch_cases (.read token) with ⟨v, -, heq⟩ | ⟨f, hf, heq⟩
  · rw [heq] at hmem
    cases hmem
  · rw [heq] at hmem
    obtain rfl := Event.fault.inj (List.mem_singleton.mp hmem)
    rcases eq_of_read_error hf with hread | ⟨address, h⟩
    · rcases Operand.eq_of_read_malformed hread with h | h <;> cases h
    · cases h

end State

namespace Machine

/-- The state of a run after the first `k` lines of the source. -/
def stateAfter (cells : Nat) (source : String) (k : Nat) : State :=
  ((fresh cells).runFrom 1 ((Text.lines source.toList).take k)).state

variable {cells : Nat} {source : String} {k : Nat} {line : List Char} {i : Instruction}

theorem stateAfter_eq :
    stateAfter cells source k = (State.zero cells).after ((Text.lines source.toList).take k) :=
  state_runFrom ..

theorem size_stateAfter : (stateAfter cells source k).memory.size = cells := by
  rw [stateAfter_eq, State.size_after]
  exact Memory.size_zero cells

theorem stateAfter_succ (hline : (Text.lines source.toList)[k]? = some line)
    (hi : Statement.instructionOn? line = some i) :
    stateAfter cells source (k + 1) = ((stateAfter cells source k).execute i).1 := by
  rw [stateAfter_eq, stateAfter_eq, State.after_take_succ _ hline, State.runLine_of_some _ hi]

theorem eventsOf_run_of_some (hline : (Text.lines source.toList)[k]? = some line)
    (hi : Statement.instructionOn? line = some i) :
    (run cells source).trace.eventsOf (1 + k) = ((stateAfter cells source k).execute i).2 := by
  rw [eventsOf_run cells source hline, ← stateAfter_eq, State.runLine_of_some _ hi]

theorem espInRange_stateAfter (hcells : 8 * cells ≤ Text.int64Max)
    (hspare : SparesEsp (Text.lines source.toList)) : (stateAfter cells source k).EspInRange := by
  have hzero : 8 * (State.zero cells).memory.size ≤ Text.int64Max :=
    (Memory.size_zero cells).symm ▸ hcells
  rw [stateAfter_eq]
  refine (State.EspInRange.zero cells).after hzero fun line h => ?_
  exact hspare line (List.mem_of_mem_take h)

end Machine

/-- **The stack pointer stays in range.**  Let a program run in which no line has the stack pointer
for its destination.  After any number of lines the stack pointer is a multiple of four, not below
minus the number of cells and at most three above it.  Where it is moved it is moved by four,
without overflow.  A push leaves the fault of the stack pointer exactly if four less than that is
below minus the number of cells, and a pop exactly if it is not below the number of cells; either
then leaves registers and memory as they are. -/
theorem stack_pointer_in_range (cells : Nat) (hcells : 8 * cells ≤ Text.int64Max) (source : String)
    (hspare : SparesEsp (Text.lines source.toList)) :
    let stateAfter := Machine.stateAfter cells source
    let esp := fun k => (stateAfter k).registers.get .esp
    let faulted := fun k => StackFaulted ((Machine.run cells source).trace.eventsOf (1 + k))
    (∀ k, 4 ∣ (esp k).toInt ∧ -cells ≤ (esp k).toInt ∧ (esp k).toInt ≤ cells + 3) ∧
    ∀ k line i, (Text.lines source.toList)[k]? = some line →
      Statement.instructionOn? line = some i →
      (i.opcode = .push →
        (esp k - stackSlot).toInt = (esp k).toInt - 4 ∧
        (faulted k ↔ (esp k).toInt - 4 < -cells) ∧
        (faulted k → stateAfter (k + 1) = stateAfter k) ∧
        (¬ faulted k → esp (k + 1) = esp k - stackSlot)) ∧
      (i.opcode = .pop →
        (esp k + stackSlot).toInt = (esp k).toInt + 4 ∧
        (faulted k ↔ cells ≤ (esp k).toInt) ∧
        (faulted k → stateAfter (k + 1) = stateAfter k) ∧
        (¬ faulted k → esp (k + 1) = esp k + stackSlot)) := by
  intro stateAfter esp faulted
  have hsize : ∀ k, (stateAfter k).memory.size = cells := fun k => Machine.size_stateAfter
  have hfits : ∀ k, 8 * (stateAfter k).memory.size ≤ Text.int64Max := fun k => by
    rw [hsize]
    exact hcells
  have hrange : ∀ k, (stateAfter k).EspInRange := fun k =>
    Machine.espInRange_stateAfter hcells hspare
  refine ⟨fun k => ?_, fun k line i hline hi => ⟨fun hop => ?_, fun hop => ?_⟩⟩
  · obtain ⟨hdvd, hlower, hupper⟩ := hrange k
    rw [hsize] at hlower hupper
    exact ⟨hdvd, hlower, hupper⟩
  · cases i with
    | push src =>
        have hpush := (hrange k).execute_push (hfits k) (State.not_stackFaulted_fetch _ hi)
        rw [← Machine.eventsOf_run_of_some hline hi, ← Machine.stateAfter_succ hline hi,
          hsize] at hpush
        exact ⟨(hrange k).toInt_sub (hfits k), hpush⟩
    | _ => cases hop
  · cases i with
    | pop r =>
        have hr := State.ne_esp_of_pop (hspare line (List.mem_of_getElem? hline) _ hi)
        have hpop := (hrange k).execute_pop (hfits k) hr
        rw [← Machine.eventsOf_run_of_some hline hi, ← Machine.stateAfter_succ hline hi,
          hsize] at hpop
        exact ⟨(hrange k).toInt_add (hfits k), hpop⟩
    | _ => cases hop

/-- Of three pops from five cells that nothing was pushed to, the third is refused, three above the
number of cells; and of the pushes from there down, the one of a word that is no number is refused,
too. -/
theorem stack_pointer_in_range_five_cells :
    let source := "pop eax\npop eax\npop ebx\npush 1\npush 2\npush 3\npush x"
    let stateAfter := Machine.stateAfter 5 source
    let events := fun k => (Machine.run 5 source).trace.eventsOf (1 + k)
    8 * 5 ≤ Text.int64Max ∧ SparesEsp (Text.lines source.toList) ∧
    ((stateAfter 2).registers.get .esp).toInt = 5 + 3 ∧
    StackFaulted (events 2) ∧ stateAfter 3 = stateAfter 2 ∧
    ((stateAfter 6).registers.get .esp).toInt = -4 ∧
    StackFaulted (events 6) ∧ stateAfter 7 = stateAfter 6 := by
  intro source stateAfter events
  have hcells : 8 * 5 ≤ Text.int64Max := by decide
  have hspare : SparesEsp (Text.lines source.toList) := by decide +kernel
  have hpast : ((stateAfter 2).registers.get .esp).toInt = 5 + 3 := by decide +kernel
  have hfull : ((stateAfter 6).registers.get .esp).toInt = -4 := by decide +kernel
  obtain ⟨-, hline⟩ := stack_pointer_in_range 5 hcells source hspare
  obtain ⟨-, hpop, hpopped, -⟩ :=
    (hline 2 "pop ebx".toList (.pop .ebx) (by decide +kernel) (by decide +kernel)).2 rfl
  obtain ⟨-, hpush, hpushed, -⟩ :=
    (hline 6 "push x".toList (.push (.malformed (.unreadableValue "x"))) (by decide +kernel)
      (by decide +kernel)).1 rfl
  have hpop' : StackFaulted (events 2) := hpop.mpr (by rw [hpast]; decide)
  have hpush' : StackFaulted (events 6) := hpush.mpr (by rw [hfull]; decide)
  exact ⟨hcells, hspare, hpast, hpop', hpopped hpop', hfull, hpush', hpushed hpush'⟩

end RegisterMachine
