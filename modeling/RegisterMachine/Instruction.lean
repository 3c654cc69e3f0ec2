import RegisterMachine.Operand

/-!
# Instructions

The five instructions.  Which operands an instruction takes is checked in a fixed order: first
their number, then the destination; a source is taken as it is, even if it cannot be read.
-/

namespace RegisterMachine

/-- The name of an instruction. -/
inductive Opcode where
  | mov
  | add
  | sub
  | push
  | pop
deriving DecidableEq, Repr

namespace Opcode

/-- All instructions. -/
def all : List Opcode :=
  [mov, add, sub, push, pop]

/-- The name in source text. -/
def mnemonic : Opcode → String
  | mov  => "mov"
  | add  => "add"
  | sub  => "sub"
  | push => "push"
  | pop  => "pop"

/-- The name in messages. -/
def name : Opcode → String
  | mov  => "MOV"
  | add  => "ADD"
  | sub  => "SUB"
  | push => "PUSH"
  | pop  => "POP"

/-- The number of operands. -/
def arity : Opcode → Nat
  | mov | add | sub => 2
  | push | pop      => 1

/-- The instruction of that exact name. -/
def ofMnemonic? (s : String) : Option Opcode :=
  all.find? fun op => op.mnemonic == s

theorem mnemonic_inj {a b : Opcode} (h : a.mnemonic = b.mnemonic) : a = b := by
  cases a <;> cases b <;> first | rfl | exact absurd h (by decide)

theorem ofMnemonic?_eq_some_iff {s : String} {op : Opcode} :
    ofMnemonic? s = some op ↔ s = op.mnemonic := by
  constructor
  · intro h
    have := List.find?_some h
    exact (eq_of_beq this).symm
  · rintro rfl
    cases op <;> decide

end Opcode

/-- An instruction with its operands. -/
inductive Instruction where
  | mov (dst : Destination) (src : Operand)
  | add (dst : Register) (src : Operand)
  | sub (dst : Register) (src : Operand)
  | push (src : Operand)
  | pop (dst : Register)
deriving DecidableEq, Repr

namespace Instruction

/-- The name of an instruction. -/
def opcode : Instruction → Opcode
  | mov ..  => .mov
  | add ..  => .add
  | sub ..  => .sub
  | push .. => .push
  | pop ..  => .pop

/-- The place that an instruction names to write to. -/
def destination? : Instruction → Option Destination
  | mov dst _ => some dst
  | add dst _ => some (.register dst)
  | sub dst _ => some (.register dst)
  | push _    => none
  | pop dst   => some (.register dst)

/-- The operand that an instruction reads. -/
def source? : Instruction → Option Operand
  | mov _ src => some src
  | add _ src => some src
  | sub _ src => some src
  | push src  => some src
  | pop _     => none

/-- The instruction with that name and those operands. -/
def ofOperands : Opcode → List String → Except Fault Instruction
  | .mov,  [dst, src] => (Destination.read dst).map (.mov · (Operand.read src))
  | .add,  [dst, src] => (Destination.readRegister dst).map (.add · (Operand.read src))
  | .sub,  [dst, src] => (Destination.readRegister dst).map (.sub · (Operand.read src))
  | .push, [src]      => .ok (.push (Operand.read src))
  | .pop,  [dst]      => (Destination.readRegister dst).map .pop
  | op,    operands   => .error (.wrongArity op.name op.arity operands.length)

theorem ofOperands_of_length_ne {op : Opcode} {operands : List String}
    (h : operands.length ≠ op.arity) :
    ofOperands op operands = .error (.wrongArity op.name op.arity operands.length) := by
  cases op <;> match operands with
    | []               => rfl
    | [_]              => first | rfl | exact absurd rfl h
    | [_, _]           => first | rfl | exact absurd rfl h
    | _ :: _ :: _ :: _ => rfl

end Instruction

end RegisterMachine
