import RegisterMachine.Instruction

/-!
# Traces

What a run leaves behind: for every line that holds a statement, what it did and what was wrong
with it.  The text of an entry is what a reader sees of it.
-/

namespace RegisterMachine

open Text (decimal)

/-- A change of the machine's state. -/
inductive Effect where
  | setRegister (r : Register) (value : Int64)
  | setMemory (cell : Nat) (value : Int64)
  | add (r : Register) (operand result : Int64)
  | sub (r : Register) (operand result : Int64)
  | push (value sp : Int64)
  | pop (r : Register) (value : Int64)
deriving DecidableEq, Repr

/-- The text of an effect. -/
def Effect.text : Effect → String
  | setRegister r value  => "MOV: Set " ++ r.name ++ " = " ++ decimal value
  | setMemory cell value => "MOV: Set memory[" ++ toString cell ++ "] = " ++ decimal value
  | add r operand result =>
    "ADD: " ++ r.name ++ " += " ++ decimal operand ++ " (" ++ r.name ++ " = " ++ decimal result
      ++ ")"
  | sub r operand result =>
    "SUB: " ++ r.name ++ " -= " ++ decimal operand ++ " (" ++ r.name ++ " = " ++ decimal result
      ++ ")"
  | push value sp        => "PUSH: " ++ decimal value ++ " to stack at ESP=" ++ decimal sp
  | pop r value          => "POP: " ++ r.name ++ " = " ++ decimal value

/-- The instruction that has an effect of this form. -/
def Effect.opcode : Effect → Opcode
  | setRegister .. | setMemory .. => .mov
  | add ..                        => .add
  | sub ..                        => .sub
  | push ..                       => .push
  | pop ..                        => .pop

/-- What happened: a change of state, or a fault. -/
inductive Event where
  | effect (e : Effect)
  | fault (f : Fault)
deriving DecidableEq, Repr

/-- The fault of an event that is one. -/
def Event.fault? : Event → Option Fault
  | .fault f  => some f
  | .effect _ => none

/-- The effect of an event that is one. -/
def Event.effect? : Event → Option Effect
  | .effect e => some e
  | .fault _  => none

/-- An event and the source line, counted from one, that it belongs to. -/
structure Entry where
  line : Nat
  event : Event
deriving DecidableEq, Repr

namespace Entry

/-- The entry records a fault. -/
def isFault (e : Entry) : Bool :=
  e.event.fault?.isSome

/-- The line of an entry, and the fault if it records one. -/
def fault? (e : Entry) : Option (Nat × Fault) :=
  e.event.fault?.map (e.line, ·)

/-- The text of an entry. -/
def text (e : Entry) : String :=
  match e.event with
  | .effect effect => effect.text
  | .fault f       => "Error: " ++ f.message ++ " (line " ++ toString e.line ++ ")"

end Entry

/-- The entries of a run, in order. -/
abbrev Trace := Array Entry

namespace Trace

/-- A trace with all entries taken off it. -/
def clear (t : Trace) : Trace :=
  t.take 0

/-- The faults on a trace, with their lines. -/
def faults (t : Trace) : List (Nat × Fault) :=
  t.toList.filterMap Entry.fault?

/-- How many faults of a kind are on a trace. -/
def count (t : Trace) (kind : FaultKind) : Nat :=
  t.faults.countP fun f => f.2.kind = kind

/-- The texts of all entries. -/
def texts (t : Trace) : List String :=
  t.toList.map Entry.text

theorem clear_eq (t : Trace) : t.clear = #[] := by
  simp [clear]

end Trace

end RegisterMachine
