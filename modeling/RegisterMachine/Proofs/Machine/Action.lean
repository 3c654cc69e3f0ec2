import RegisterMachine.Machine
import RegisterMachine.Proofs.Machine.Faults

/-!
# Proofs — Machine — Action

What one instruction does, said once.  It fetches the value of its source, which leaves a fault if
the source cannot be read, and then it acts with that value (`State.execute_eq`).  An act is refused
and changes nothing, or it has an effect (`State.act_cases`); a source is read, or is a fault and
counts as zero (`State.fetch_cases`).
-/

namespace RegisterMachine

/-- A fault with which memory refuses the act of an instruction: a cell that is not there, or a slot
of the stack that is not. -/
def Fault.Refuses (op : Opcode) : Fault → Prop
  | addressOutOfBounds .. => op = .mov
  | stackOutOfBounds ..   => op = .push ∨ op = .pop
  | _                     => False

/-- A fault of reading a source: a word that is none, or an address that memory does not have. -/
def Fault.IsUnread : Fault → Prop
  | unreadableValue _ | invalidReference _ | addressOutOfBounds .. => True
  | _                                                              => False

namespace State

/-- The value of the source of an instruction, and the fault if it cannot be read.  Without a source
there is nothing to read, and the value does not matter. -/
def fetched (s : State) (i : Instruction) : Int64 × List Event :=
  match i.source? with
  | some src => s.fetch src
  | none     => (0, [])

/-- What an instruction does with the value of its source. -/
def act (s : State) (i : Instruction) (v : Int64) : State × Event :=
  match i with
  | .mov dst _ => s.assign v dst
  | .add dst _ => s.add dst v
  | .sub dst _ => s.sub dst v
  | .push _    => s.push v
  | .pop dst   => s.pop dst

/-- **An instruction fetches and acts.** -/
theorem execute_eq (s : State) (i : Instruction) :
    s.execute i =
      ((s.act i (s.fetched i).1).1, (s.fetched i).2 ++ [(s.act i (s.fetched i).1).2]) := by
  cases i <;> rfl

theorem fetch_cases (s : State) (src : Operand) :
    (∃ v, s.read src = .ok v ∧ s.fetch src = (v, [])) ∨
    (∃ f, s.read src = .error f ∧ s.fetch src = (0, [.fault f])) := by
  rw [fetch]
  cases s.read src with
  | ok v => exact .inl ⟨v, rfl, rfl⟩
  | error f => exact .inr ⟨f, rfl, rfl⟩

/-- A source that cannot be read is malformed, or there is no cell at its address. -/
theorem eq_of_read_error {s : State} {src : Operand} {f : Fault} (h : s.read src = .error f) :
    src = .malformed f ∨ ∃ address, f = .addressOutOfBounds address s.memory.size := by
  cases src with
  | register r | immediate v => cases h
  | memory a => exact .inr ⟨_, Memory.eq_of_load_error h⟩
  | malformed f' => exact .inl (congrArg Operand.malformed (Except.error.inj h))

/-- Fetching leaves no fault, or the source cannot be read. -/
theorem fetched_cases (s : State) (i : Instruction) :
    (∃ v, s.fetched i = (v, [])) ∨
    (∃ src f, i.source? = some src ∧ s.read src = .error f ∧ s.fetched i = (0, [.fault f])) := by
  rw [fetched]
  cases hsrc : i.source? with
  | none => exact .inl ⟨0, rfl⟩
  | some src =>
      rcases s.fetch_cases src with ⟨v, -, h⟩ | ⟨f, hf, h⟩
      · exact .inl ⟨v, h⟩
      · exact .inr ⟨src, f, rfl, hf, h⟩

theorem assign_cases (s : State) (v : Int64) (dst : Destination) :
    (∃ address, s.assign v dst = (s, .fault (.addressOutOfBounds address s.memory.size))) ∨
    (∃ s' e, s.assign v dst = (s', .effect e) ∧ e.opcode = .mov) := by
  cases dst with
  | register r => exact .inr ⟨_, _, rfl, rfl⟩
  | memory a =>
      rw [assign]
      split
      · exact .inr ⟨_, _, rfl, rfl⟩
      · next f hf =>
          rw [Memory.eq_of_index_error hf]
          exact .inl ⟨_, rfl⟩

theorem push_cases (s : State) (v : Int64) :
    (∃ sp, s.push v = (s, .fault (.stackOutOfBounds sp s.memory.size))) ∨
    (∃ s' e, s.push v = (s', .effect e) ∧ e.opcode = .push) := by
  rw [push]
  split
  · exact .inr ⟨_, _, rfl, rfl⟩
  · next f hf =>
      rw [Memory.eq_of_stackIndex_error hf]
      exact .inl ⟨_, rfl⟩

theorem pop_cases (s : State) (r : Register) :
    (∃ sp, s.pop r = (s, .fault (.stackOutOfBounds sp s.memory.size))) ∨
    (∃ s' e, s.pop r = (s', .effect e) ∧ e.opcode = .pop) := by
  rw [pop]
  split
  · exact .inr ⟨_, _, rfl, rfl⟩
  · next f hf =>
      rw [Memory.eq_of_stackLoad_error hf]
      exact .inl ⟨_, rfl⟩

/-- **An act is refused and changes nothing, or it has an effect.** -/
theorem act_cases (s : State) (i : Instruction) (v : Int64) :
    (∃ f, s.act i v = (s, .fault f) ∧ f.Refuses i.opcode) ∨
    (∃ s' e, s.act i v = (s', .effect e) ∧ e.opcode = i.opcode) := by
  cases i with
  | mov dst src =>
      rcases s.assign_cases v dst with ⟨address, h⟩ | h
      · exact .inl ⟨_, h, rfl⟩
      · exact .inr h
  | add dst src | sub dst src => exact .inr ⟨_, _, rfl, rfl⟩
  | push src =>
      rcases s.push_cases v with ⟨sp, h⟩ | h
      · exact .inl ⟨_, h, .inl rfl⟩
      · exact .inr h
  | pop dst =>
      rcases s.pop_cases dst with ⟨sp, h⟩ | h
      · exact .inl ⟨_, h, .inr rfl⟩
      · exact .inr h

end State

end RegisterMachine
