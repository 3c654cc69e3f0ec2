import RegisterMachine.Memory
import RegisterMachine.Statement
import RegisterMachine.Trace

/-!
# The machine

Registers and memory, and how the instructions change them.  An instruction first reads its source;
a source that cannot be read is a fault and counts as zero.  It then acts at its destination or on
the stack, which either takes effect or is a fault that changes nothing.  So an instruction has one
event, and one fault more in front of it if its source could not be read (`State.execute`).

`Machine` is a state together with the trace of what has led to it.
-/

namespace RegisterMachine

/-- How many cells a machine has, and how many of them are shown. -/
structure MachineSize where
  cells : Nat := 1024
  window : Nat := 64
deriving DecidableEq, Repr

/-- How far a push or a pop moves the stack pointer. -/
def stackSlot : Int64 := 4

/-- Registers and memory. -/
structure State where
  registers : RegisterBank
  memory : Memory
deriving DecidableEq, Repr

namespace State

/-- All registers and all `cells` cells hold zero. -/
def zero (cells : Nat) : State :=
  ⟨.zero, .zero cells⟩

/-- Zero is put into all registers and all cells. -/
def reset (s : State) : State :=
  ⟨s.registers.reset, s.memory.reset⟩

/-- The address that a memory reference stands for. -/
def address (s : State) : Address → Int64
  | .register r => s.registers.get r
  | .absolute n => n

/-- The value of an operand. -/
def read (s : State) : Operand → Except Fault Int64
  | .register r  => .ok (s.registers.get r)
  | .immediate v => .ok v
  | .memory a    => s.memory.load (s.address a)
  | .malformed f => .error f

/-- The value of a source, and the fault if it cannot be read and counts as zero. -/
def fetch (s : State) (src : Operand) : Int64 × List Event :=
  match s.read src with
  | .ok v    => (v, [])
  | .error f => (0, [.fault f])

/-- Writes a value to a destination. -/
def assign (s : State) (v : Int64) : Destination → State × Event
  | .register r => ({ s with registers := s.registers.set r v }, .effect (.setRegister r v))
  | .memory a   =>
    match s.memory.index (s.address a) with
    | .ok i    => ({ s with memory := s.memory.set i v }, .effect (.setMemory i v))
    | .error f => (s, .fault f)

/-- Adds a value to a register. -/
def add (s : State) (r : Register) (v : Int64) : State × Event :=
  let result := s.registers.get r + v
  ({ s with registers := s.registers.set r result }, .effect (.add r v result))

/-- Subtracts a value from a register. -/
def sub (s : State) (r : Register) (v : Int64) : State × Event :=
  let result := s.registers.get r - v
  ({ s with registers := s.registers.set r result }, .effect (.sub r v result))

/-- Puts a value on the stack: the stack pointer moves down, and the value goes where it then
points. -/
def push (s : State) (v : Int64) : State × Event :=
  let sp := s.registers.get .esp - stackSlot
  match s.memory.stackIndex sp with
  | .ok i    => (⟨s.registers.set .esp sp, s.memory.set i v⟩, .effect (.push v sp))
  | .error f => (s, .fault f)

/-- Takes a value off the stack.  The stack pointer moves up after the register is written, so a
pop into the stack pointer itself leaves the value moved up. -/
def pop (s : State) (r : Register) : State × Event :=
  match s.memory.stackLoad (s.registers.get .esp) with
  | .ok v    =>
    let registers := s.registers.set r v
    ({ s with registers := registers.set .esp (registers.get .esp + stackSlot) },
      .effect (.pop r v))
  | .error f => (s, .fault f)

/-- Carries out an instruction. -/
def execute (s : State) : Instruction → State × List Event
  | .mov dst src =>
    let (v, faults) := s.fetch src
    let (s, event) := s.assign v dst
    (s, faults ++ [event])
  | .add dst src =>
    let (v, faults) := s.fetch src
    let (s, event) := s.add dst v
    (s, faults ++ [event])
  | .sub dst src =>
    let (v, faults) := s.fetch src
    let (s, event) := s.sub dst v
    (s, faults ++ [event])
  | .push src    =>
    let (v, faults) := s.fetch src
    let (s, event) := s.push v
    (s, faults ++ [event])
  | .pop dst     =>
    let (s, event) := s.pop dst
    (s, [event])

/-- Carries out a statement; one that is no instruction is a fault. -/
def perform (s : State) (st : Statement) : State × List Event :=
  match st.instruction with
  | .ok i    => s.execute i
  | .error f => (s, [.fault f])

end State

/-- A state and the trace of the run that led to it. -/
structure Machine where
  state : State
  trace : Trace
deriving DecidableEq, Repr

namespace Machine

/-- A machine that has run nothing. -/
def fresh (cells : Nat) : Machine :=
  ⟨.zero cells, #[]⟩

/-- A new machine, if there is room for its cells. -/
def new? (cells : Nat) : Option Machine :=
  (Memory.new? cells).map fun memory => ⟨⟨.zero, memory⟩, #[]⟩

/-- The number of cells. -/
def cells (m : Machine) : Nat :=
  m.state.memory.size

/-- The machine back at its start. -/
def reset (m : Machine) : Machine :=
  ⟨m.state.reset, m.trace.clear⟩

/-- Goes on to a new state and puts events of a line on the trace. -/
def proceed (trace : Trace) (line : Nat) (outcome : State × List Event) : Machine :=
  ⟨outcome.1, trace ++ outcome.2.map (Entry.mk line)⟩

/-- Carries out the instruction that stands on a line. -/
def execute (m : Machine) (line : Nat) (i : Instruction) : Machine :=
  let ⟨state, trace⟩ := m
  proceed trace line (state.execute i)

/-- Carries out the statement that stands on a line. -/
def step (m : Machine) (line : Nat) (st : Statement) : Machine :=
  let ⟨state, trace⟩ := m
  proceed trace line (state.perform st)

theorem new?_of_hasRoom {cells : Nat} (h : Memory.HasRoom cells) :
    new? cells = some (fresh cells) := by
  rw [new?, Memory.new?_of_hasRoom h]
  rfl

theorem new?_of_not_hasRoom {cells : Nat} (h : ¬ Memory.HasRoom cells) : new? cells = none := by
  rw [new?, Memory.new?_of_not_hasRoom h]
  rfl

/-- **A machine that is reset is a fresh one.**  Nothing of a run is left but the number of
cells. -/
theorem reset_eq (m : Machine) : m.reset = fresh m.cells := by
  rw [reset, State.reset, RegisterBank.reset_eq, Memory.reset_eq, Trace.clear_eq]
  rfl

@[simp] theorem cells_reset (m : Machine) : m.reset.cells = m.cells := by
  rw [reset_eq]
  exact Memory.size_zero m.cells

end Machine

end RegisterMachine
