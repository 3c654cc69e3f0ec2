import RegisterMachine.Proofs.Machine.Action
import RegisterMachine.Proofs.Machine.Replay

/-!
# Proofs — Machine — Stack

As long as the stack pointer is left to pushes and pops, and memory to pushes, the upper end of
memory is a stack: what is popped is what was pushed last, and there is room for a quarter as many
values as there are cells (`stack_simulates`).

`BoundedStack` is that stack by itself.  `State.Represents` ties a state to one: the stack pointer
is minus four times the number of values, and these lie four cells apart from the end of memory down
(`Memory.Stacked`).  `StackMove` says what an instruction does to a machine and to the stack beside
it, and `StackMove.exists_of_represents` that it always does; `Simulates` follows both through a
program.

That no pop finds the stack empty is a matter of counting: the values on the stack and the pops so
far are together the pushes that have taken effect (`StackMove.length_add`).
-/

namespace RegisterMachine

/-- A stack of at most `capacity` values, the one pushed last in front. -/
structure BoundedStack (capacity : Nat) where
  values : List Int64
  length_le : values.length ≤ capacity
deriving DecidableEq, Repr

namespace BoundedStack

variable {capacity : Nat}

/-- The stack that holds nothing. -/
def empty (capacity : Nat) : BoundedStack capacity :=
  ⟨[], Nat.zero_le capacity⟩

/-- The stack with one value more, if it has room. -/
def push? (b : BoundedStack capacity) (v : Int64) : Option (BoundedStack capacity) :=
  if h : b.values.length < capacity then some ⟨v :: b.values, h⟩ else none

/-- The value pushed last, and the stack without it. -/
def pop? : BoundedStack capacity → Option (Int64 × BoundedStack capacity)
  | ⟨[], _⟩      => none
  | ⟨v :: vs, h⟩ => some (v, ⟨vs, Nat.le_of_succ_le h⟩)

theorem values_of_push? {b b' : BoundedStack capacity} {v : Int64} (h : b.push? v = some b') :
    b'.values = v :: b.values := by
  rw [push?] at h
  split at h
  · rw [← Option.some.inj h]
  · cases h

theorem push?_eq_none_iff {b : BoundedStack capacity} {v : Int64} :
    b.push? v = none ↔ b.values.length = capacity := by
  have := b.length_le
  rw [push?]
  split
  · simp only [reduceCtorEq, false_iff]
    omega
  · simp only [true_iff]
    omega

theorem values_of_pop? {b b' : BoundedStack capacity} {v : Int64} (h : b.pop? = some (v, b')) :
    b.values = v :: b'.values := by
  obtain ⟨vs, hvs⟩ := b
  cases vs with
  | nil => cases h
  | cons w vs =>
      cases h
      rfl

theorem exists_pop? {b : BoundedStack capacity} (h : b.values.length ≠ 0) :
    ∃ v b', b.pop? = some (v, b') := by
  obtain ⟨vs, hvs⟩ := b
  cases vs with
  | nil => exact absurd rfl h
  | cons v vs => exact ⟨v, _, rfl⟩

/-- What was pushed last is popped first, and leaves the stack as it was. -/
theorem pop?_of_push? {b b' : BoundedStack capacity} {v : Int64} (h : b.push? v = some b') :
    b'.pop? = some (v, b) := by
  rw [push?] at h
  split at h
  · rw [← Option.some.inj h]
    rfl
  · cases h

end BoundedStack

/-! ### The stack in memory -/

/-- The values lie four cells apart from the end of memory down, the one in front lowest. -/
inductive Memory.Stacked (m : Memory) : List Int64 → Prop where
  | nil : Stacked m []
  | cons {v : Int64} {vs : List Int64} (i : Fin m.size) (hi : i.val + 4 * (vs.length + 1) = m.size)
      (hv : m.get i = v) (h : Stacked m vs) : Stacked m (v :: vs)

namespace Memory.Stacked

variable {m : Memory} {vs : List Int64} {i : Fin m.size}

/-- The values fit. -/
theorem le_size (h : m.Stacked vs) : 4 * vs.length ≤ m.size := by
  cases h with
  | nil => exact Nat.zero_le _
  | cons i hi _ _ =>
      rw [List.length_cons]
      omega

/-- A write below the values leaves them where they are. -/
theorem set (h : m.Stacked vs) (hi : i.val + 4 * vs.length < m.size) (v : Int64) :
    (m.set i v).Stacked vs := by
  induction h with
  | nil => exact .nil
  | cons j hj hv h ih =>
      rw [List.length_cons] at hi
      have hne : i.val ≠ j.val := by omega
      have hj' : j.val < (m.set i v).size := (size_set m i v).symm ▸ j.isLt
      refine .cons ⟨j.val, hj'⟩ (hj.trans (size_set m i v).symm) ?_ (ih (by omega))
      rw [get_set, if_neg hne]
      exact hv

/-- A write to the next cell puts a value in front. -/
theorem push (h : m.Stacked vs) (hi : i.val + 4 * (vs.length + 1) = m.size) (v : Int64) :
    (m.set i v).Stacked (v :: vs) := by
  have hi' : i.val < (m.set i v).size := (size_set m i v).symm ▸ i.isLt
  refine .cons ⟨i.val, hi'⟩ (hi.trans (size_set m i v).symm) ?_ (h.set (by omega) v)
  rw [get_set, if_pos rfl]

end Memory.Stacked

/-! ### The stack pointer -/

theorem toInt_sub_stackSlot {sp : Int64} (h : -Text.int64Max ≤ sp.toInt - 4) :
    (sp - stackSlot).toInt = sp.toInt - 4 := by
  have hslot : stackSlot.toInt = 4 := by decide
  have hmax : Text.int64Max = 2 ^ 63 - 1 := rfl
  have := sp.toInt_lt
  rw [Int64.toInt_sub, hslot]
  apply Int.bmod_eq_of_le <;> omega

theorem toInt_add_stackSlot {sp : Int64} (h : sp.toInt + 4 ≤ Text.int64Max) :
    (sp + stackSlot).toInt = sp.toInt + 4 := by
  have hslot : stackSlot.toInt = 4 := by decide
  have hmax : Text.int64Max = 2 ^ 63 - 1 := rfl
  have := sp.le_toInt
  rw [Int64.toInt_add, hslot]
  apply Int.bmod_eq_of_le <;> omega

namespace State

variable {capacity : Nat} {s s' : State} {b b' : BoundedStack capacity} {v : Int64}

/-- The stack pointer is minus four times the number of values, and these are in memory. -/
structure Represents (s : State) (b : BoundedStack capacity) : Prop where
  esp : (s.registers.get .esp).toInt = -4 * b.values.length
  stacked : s.memory.Stacked b.values

namespace Represents

/-- Only the stack pointer and memory matter. -/
theorem congr (h : s.Represents b) (hesp : s'.registers.get .esp = s.registers.get .esp)
    (hmemory : s'.memory = s.memory) : s'.Represents b :=
  ⟨by rw [hesp, h.esp], by rw [hmemory]; exact h.stacked⟩

/-- Where the next push goes: one slot below the values, without overflow. -/
theorem toInt_next (h : s.Represents b) (hcells : 8 * s.memory.size ≤ Text.int64Max) :
    (s.registers.get .esp - stackSlot).toInt = -4 * (b.values.length + 1) := by
  have hfits := h.stacked.le_size
  have hmax : Text.int64Max = 2 ^ 63 - 1 := rfl
  have hesp := h.esp
  rw [toInt_sub_stackSlot (by omega)]
  omega

/-- A push on a stack with room takes effect. -/
theorem push (h : s.Represents b) (hcells : 8 * s.memory.size ≤ Text.int64Max)
    (hcapacity : capacity = s.memory.size / 4) (hpush : b.push? v = some b') :
    (s.push v).2 = .effect (.push v (s.registers.get .esp - stackSlot)) ∧
      (s.push v).1.Represents b' := by
  have hvalues := BoundedStack.values_of_push? hpush
  have hroom := b'.length_le
  have hnext := h.toInt_next hcells
  have hmax : Text.int64Max = 2 ^ 63 - 1 := rfl
  rw [hvalues, List.length_cons] at hroom
  obtain ⟨i, hi⟩ : ∃ i : Fin s.memory.size, i.val + 4 * (b.values.length + 1) = s.memory.size :=
    ⟨⟨s.memory.size - 4 * (b.values.length + 1), by omega⟩, Nat.sub_add_cancel (by omega)⟩
  have hindex : s.memory.stackIndex (s.registers.get .esp - stackSlot) = .ok i :=
    (Memory.stackIndex_eq_ok_iff _ (by omega) _ _).mpr (.inr (by omega))
  simp only [State.push, hindex, true_and]
  constructor
  · rw [RegisterBank.get_set_self, hnext, hvalues]
    rfl
  · rw [hvalues]
    exact h.stacked.push hi v

/-- A push on a full stack is refused. -/
theorem push_of_full (h : s.Represents b) (hcells : 8 * s.memory.size ≤ Text.int64Max)
    (hcapacity : capacity = s.memory.size / 4) (hpush : b.push? v = none) :
    s.push v =
      (s, .fault (.stackOutOfBounds (s.registers.get .esp - stackSlot) s.memory.size)) := by
  have hfull := BoundedStack.push?_eq_none_iff.mp hpush
  have hnext := h.toInt_next hcells
  have hmax : Text.int64Max = 2 ^ 63 - 1 := rfl
  rw [State.push]
  split
  · next i hi =>
      -- the cell would lie before the first
      rw [Memory.stackIndex_eq_ok_iff _ (by omega)] at hi
      omega
  · next f hf => rw [Memory.eq_of_stackIndex_error hf]

/-- A pop from a stack that holds a value takes effect. -/
theorem pop (h : s.Represents b) (hcells : 8 * s.memory.size ≤ Text.int64Max)
    (hpop : b.pop? = some (v, b')) {r : Register} (hr : r ≠ .esp) :
    (s.pop r).2 = .effect (.pop r v) ∧ (s.pop r).1.registers.get r = v ∧
      (s.pop r).1.Represents b' := by
  obtain ⟨hesp, hstacked⟩ := h
  have hmax : Text.int64Max = 2 ^ 63 - 1 := rfl
  rw [BoundedStack.values_of_pop? hpop] at hesp hstacked
  rw [List.length_cons] at hesp
  cases hstacked with
  | cons i hi hv hrest =>
      have hindex : s.memory.stackIndex (s.registers.get .esp) = .ok i :=
        (Memory.stackIndex_eq_ok_iff _ (by omega) _ _).mpr (.inr (by omega))
      have hload : s.memory.stackLoad (s.registers.get .esp) = .ok v := by
        rw [Memory.stackLoad, hindex, ← hv]
      simp only [State.pop, hload, RegisterBank.get_set_of_ne _ hr, true_and]
      refine ⟨?_, ?_, hrest⟩
      · rw [RegisterBank.get_set_of_ne _ hr.symm, RegisterBank.get_set_self]
      · rw [RegisterBank.get_set_self, toInt_add_stackSlot (by omega)]
        omega

end Represents

theorem execute_push (s : State) (src : Operand) :
    s.execute (.push src) =
      ((s.push (s.fetch src).1).1, (s.fetch src).2 ++ [(s.push (s.fetch src).1).2]) :=
  s.execute_eq (.push src)

theorem execute_pop (s : State) (r : Register) :
    s.execute (.pop r) = ((s.pop r).1, [(s.pop r).2]) :=
  s.execute_eq (.pop r)

end State

/-! ### One instruction -/

/-- A push, or an instruction that writes to a register other than the stack pointer. -/
def Instruction.SparesStack : Instruction → Prop
  | .push _                                            => True
  | .mov (.memory _) _                                 => False
  | .mov (.register r) _ | .add r _ | .sub r _ | .pop r => r ≠ .esp

instance : DecidablePred Instruction.SparesStack
  | .push _                                            => isTrue trivial
  | .mov (.memory _) _                                 => isFalse id
  | .mov (.register r) _ | .add r _ | .sub r _ | .pop r => inferInstanceAs (Decidable (r ≠ .esp))

/-- Carrying out an instruction puts events on the trace and nothing else. -/
def Machine.Logs (m : Machine) (line : Nat) (i : Instruction) (events : List Event) : Prop :=
  (m.execute line i).trace = m.trace ++ events.map (Entry.mk line)

/-- What becomes of a stack when a machine carries out an instruction on a line beside it. -/
inductive StackMove {capacity : Nat} (m : Machine) (line : Nat) (b : BoundedStack capacity) :
    Instruction → BoundedStack capacity → Prop where
  /-- A push with room puts the value that it reads in front. -/
  | pushed {src : Operand} {b' : BoundedStack capacity}
      (hpush : b.push? (m.state.fetch src).1 = some b')
      (hlogs : m.Logs line (.push src) ((m.state.fetch src).2 ++
        [.effect (.push (m.state.fetch src).1 (m.state.registers.get .esp - stackSlot))])) :
      StackMove m line b (.push src) b'
  /-- A push without room is a fault, and leaves registers and memory as they are. -/
  | refused {src : Operand}
      (hpush : b.push? (m.state.fetch src).1 = none)
      (hlogs : m.Logs line (.push src) ((m.state.fetch src).2 ++
        [.fault (.stackOutOfBounds (m.state.registers.get .esp - stackSlot) m.cells)]))
      (hstate : (m.execute line (.push src)).state = m.state) :
      StackMove m line b (.push src) b
  /-- A pop takes the value in front into its register. -/
  | popped {r : Register} {v : Int64} {b' : BoundedStack capacity}
      (hpop : b.pop? = some (v, b'))
      (hlogs : m.Logs line (.pop r) [.effect (.pop r v)])
      (hr : (m.execute line (.pop r)).state.registers.get r = v) :
      StackMove m line b (.pop r) b'
  /-- Any other instruction leaves the stack alone. -/
  | apart {i : Instruction} (hpush : i.opcode ≠ .push) (hpop : i.opcode ≠ .pop) :
      StackMove m line b i b

/-- A machine carries out instructions, each on its line, beside a stack that it represents at all
times. -/
inductive Simulates {capacity : Nat} :
    Machine → BoundedStack capacity → List (Nat × Instruction) → Prop where
  | done {m : Machine} {b : BoundedStack capacity} (h : m.state.Represents b) : Simulates m b []
  | more {m : Machine} {b b' : BoundedStack capacity} {line : Nat} {i : Instruction}
      {rest : List (Nat × Instruction)} (h : m.state.Represents b) (hmove : StackMove m line b i b')
      (hrest : Simulates (m.execute line i) b' rest) : Simulates m b ((line, i) :: rest)

namespace Machine

theorem state_execute (m : Machine) (line : Nat) (i : Instruction) :
    (m.execute line i).state = (m.state.execute i).1 :=
  rfl

theorem logs_of_eq {m : Machine} {line : Nat} {i : Instruction} {events : List Event}
    (h : (m.state.execute i).2 = events) : m.Logs line i events := by
  rw [← h]
  rfl

theorem cells_execute (m : Machine) (line : Nat) (i : Instruction) :
    (m.execute line i).cells = m.cells :=
  (m.state.replays_execute i).size_memory

end Machine

/-- **One instruction.**  A machine that represents a stack moves along with it; only a pop needs a
value to be there. -/
theorem StackMove.exists_of_represents {capacity : Nat} {m : Machine} {b : BoundedStack capacity}
    (h : m.state.Represents b) (hcells : 8 * m.cells ≤ Text.int64Max)
    (hcapacity : capacity = m.cells / 4) {i : Instruction} (hi : i.SparesStack)
    (hpop : i.opcode = .pop → b.values.length ≠ 0) (line : Nat) :
    ∃ b', StackMove m line b i b' ∧ (m.execute line i).state.Represents b' := by
  cases i with
  | mov dst src =>
      cases dst with
      | register r => exact ⟨b, .apart nofun nofun, h.congr (RegisterBank.get_set_of_ne _ hi _) rfl⟩
      | memory a => exact hi.elim
  | add r src | sub r src =>
      exact ⟨b, .apart nofun nofun, h.congr (RegisterBank.get_set_of_ne _ hi _) rfl⟩
  | push src =>
      cases hpush : b.push? (m.state.fetch src).1 with
      | some b' =>
          obtain ⟨hevent, hstate⟩ := h.push hcells hcapacity hpush
          refine ⟨b', .pushed hpush (Machine.logs_of_eq ?_), hstate⟩
          rw [State.execute_push, hevent]
      | none =>
          have heq := h.push_of_full hcells hcapacity hpush
          refine ⟨b, .refused hpush (Machine.logs_of_eq ?_) ?_, ?_⟩
          · rw [State.execute_push, heq]
            rfl
          · rw [Machine.state_execute, State.execute_push, heq]
          · rw [Machine.state_execute, State.execute_push, heq]
            exact h
  | pop r =>
      obtain ⟨v, b', hb'⟩ := BoundedStack.exists_pop? (hpop rfl)
      obtain ⟨hevent, hr, hstate⟩ := h.pop hcells hb' hi
      refine ⟨b', .popped hb' (Machine.logs_of_eq ?_) hr, hstate⟩
      rw [State.execute_pop, hevent]

/-! ### Counting -/

/-- How many instructions of a program are pops. -/
def pops (program : List (Nat × Instruction)) : Nat :=
  program.countP fun p => p.2.opcode = .pop

/-- How many pushes on a trace have taken effect. -/
def Trace.pushes (t : Trace) : Nat :=
  t.effects.countP fun e => e.opcode = .push

theorem Machine.Logs.pushes_eq {m : Machine} {line : Nat} {i : Instruction} {events : List Event}
    (h : m.Logs line i events) :
    (m.execute line i).trace.pushes =
      m.trace.pushes + (State.effects events).countP fun e => e.opcode = .push := by
  have heffects : (m.execute line i).trace.effects = m.trace.effects ++ State.effects events := by
    rw [h, Trace.effects, Array.toList_appendList, List.filterMap_append, List.filterMap_map]
    rfl
  rw [Trace.pushes, heffects, List.countP_append, ← Trace.pushes]

/-- The effect of an instruction, if it has one, is that of its opcode. -/
theorem State.effects_execute_cases (s : State) (i : Instruction) :
    effects (s.execute i).2 = [] ∨ ∃ e, effects (s.execute i).2 = [e] ∧ e.opcode = i.opcode := by
  have hfetched : effects (s.fetched i).2 = [] := by
    rcases s.fetched_cases i with ⟨v, h⟩ | ⟨src, f, -, -, h⟩ <;> rw [h] <;> rfl
  rw [execute_eq, effects, List.filterMap_append]
  show effects _ ++ _ = _ ∨ ∃ e, effects _ ++ _ = _ ∧ _
  rw [hfetched, List.nil_append]
  rcases s.act_cases i (s.fetched i).1 with ⟨f, h, -⟩ | ⟨s', e, h, he⟩
  · rw [h]
    exact .inl rfl
  · rw [h]
    exact .inr ⟨e, rfl, he⟩

theorem Machine.pushes_execute_of_ne (m : Machine) (line : Nat) {i : Instruction}
    (hi : i.opcode ≠ .push) : (m.execute line i).trace.pushes = m.trace.pushes := by
  rw [(logs_of_eq rfl).pushes_eq]
  rcases m.state.effects_execute_cases i with h | ⟨e, h, he⟩
  · rw [h]
    rfl
  · rw [h, List.countP_singleton, he, if_neg (by simpa using hi), Nat.add_zero]

/-- A move keeps count: a push that takes effect adds a value, and a pop takes one away. -/
theorem StackMove.length_add {capacity : Nat} {m : Machine} {line : Nat}
    {b b' : BoundedStack capacity} {i : Instruction} (h : StackMove m line b i b') :
    b'.values.length + pops [(line, i)] + m.trace.pushes =
      b.values.length + (m.execute line i).trace.pushes := by
  cases h with
  | pushed hpush hlogs =>
      rw [BoundedStack.values_of_push? hpush, hlogs.pushes_eq, State.effects_fetch]
      simp [pops, Instruction.opcode, Event.effect?, Effect.opcode]
      omega
  | refused _ hlogs _ =>
      rw [hlogs.pushes_eq, State.effects_fetch]
      simp [pops, Instruction.opcode, Event.effect?]
  | @popped r v b' hpop _ _ =>
      have hop : (Instruction.pop r).opcode ≠ .push := nofun
      rw [BoundedStack.values_of_pop? hpop, m.pushes_execute_of_ne line hop]
      simp [pops, Instruction.opcode]
  | apart hpush hpop =>
      rw [m.pushes_execute_of_ne line hpush]
      simp [pops, hpop]

/-! ### A program -/

/-- Carries out instructions in order, each on its line. -/
def Machine.executeAll (m : Machine) (program : List (Nat × Instruction)) : Machine :=
  program.foldl (fun m p => m.execute p.1 p.2) m

theorem simulates_of_represents {capacity : Nat} {m : Machine} {b : BoundedStack capacity}
    (h : m.state.Represents b) (hcells : 8 * m.cells ≤ Text.int64Max)
    (hcapacity : capacity = m.cells / 4) {program : List (Nat × Instruction)}
    (hspare : ∀ p ∈ program, p.2.SparesStack)
    (hpops : ∀ k ≤ program.length, pops (program.take k) + m.trace.pushes ≤
      b.values.length + (m.executeAll (program.take k)).trace.pushes) :
    Simulates m b program := by
  induction program generalizing m b with
  | nil => exact .done h
  | cons p rest ih =>
      obtain ⟨line, i⟩ := p
      have hcells' := m.cells_execute line i
      -- what the hypothesis says of the programs that begin with this instruction
      have hcount : ∀ k ≤ rest.length, pops [(line, i)] + pops (rest.take k) + m.trace.pushes ≤
          b.values.length + ((m.execute line i).executeAll (rest.take k)).trace.pushes := by
        intro k hk
        have := hpops (k + 1) (Nat.succ_le_succ hk)
        rwa [List.take_succ_cons, ← List.singleton_append, pops, List.countP_append] at this
      have hpop : i.opcode = .pop → b.values.length ≠ 0 := by
        intro hi hempty
        have hnow := hcount 0 (Nat.zero_le _)
        have hone : pops [(line, i)] = 1 := by simp [pops, hi]
        have hsame := m.pushes_execute_of_ne line (i := i) (by rw [hi]; nofun)
        simp only [List.take_zero, Machine.executeAll, List.foldl_nil] at hnow
        omega
      obtain ⟨b', hmove, hrepresents⟩ := StackMove.exists_of_represents h hcells hcapacity
        (hspare _ List.mem_cons_self) hpop line
      refine .more h hmove (ih hrepresents ?_ ?_ ?_ ?_)
      · rw [hcells']
        exact hcells
      · rw [hcells']
        exact hcapacity
      · exact fun p hp => hspare p (List.mem_cons_of_mem _ hp)
      · intro k hk
        have := hcount k hk
        have hlength : b'.values.length + pops [(line, i)] + m.trace.pushes =
            b.values.length + (m.execute line i).trace.pushes := hmove.length_add
        omega

/-- **The stack is a bounded stack.**  Let a machine that has been reset carry out pushes, and
instructions that write to a register other than the stack pointer, and let no more be popped at any
time than has been pushed with effect.  Then the machine simulates a stack with room for a quarter
as many values as it has cells. -/
theorem stack_simulates (m : Machine) (hcells : 8 * m.cells ≤ Text.int64Max)
    (program : List (Nat × Instruction)) (hspare : ∀ p ∈ program, p.2.SparesStack)
    (hpops : ∀ k ≤ program.length,
      pops (program.take k) ≤ (m.reset.executeAll (program.take k)).trace.pushes) :
    Simulates m.reset (.empty (m.cells / 4)) program := by
  have hsize := m.cells_reset
  refine simulates_of_represents ⟨?_, .nil⟩ ?_ ?_ hspare ?_
  · rw [Machine.reset_eq]
    show (RegisterBank.zero.get .esp).toInt = _
    rw [RegisterBank.get_zero]
    rfl
  · rw [hsize]
    exact hcells
  · rw [hsize]
  · intro k hk
    have := hpops k hk
    have hnone : m.reset.trace.pushes = 0 := by
      rw [Machine.reset_eq]
      rfl
    omega

/-- Ten cells hold two values.  The second is that of a source that cannot be read, and the third
does not fit. -/
theorem stack_simulates_ten_cells :
    let m := Machine.fresh 10
    let program : List (Nat × Instruction) :=
      [(1, .push (.immediate 7)), (2, .push (.memory (.absolute 10))), (3, .push (.register .esp)),
        (4, .pop .eax), (5, .add .eax (.memory (.register .esp))), (6, .pop .ebx)]
    Simulates m.reset (.empty (m.cells / 4)) program ∧
    (m.reset.executeAll program).trace.toList =
      [⟨1, .effect (.push 7 (-4))⟩,
        ⟨2, .fault (.addressOutOfBounds 10 10)⟩, ⟨2, .effect (.push 0 (-8))⟩,
        ⟨3, .fault (.stackOutOfBounds (-12) 10)⟩,
        ⟨4, .effect (.pop .eax 0)⟩,
        ⟨5, .fault (.addressOutOfBounds (-4) 10)⟩, ⟨5, .effect (.add .eax 0 0)⟩,
        ⟨6, .effect (.pop .ebx 7)⟩] := by
  intro m program
  refine ⟨stack_simulates m (by decide) program ?_ ?_, ?_⟩
  · decide
  · decide
  · decide

end RegisterMachine
