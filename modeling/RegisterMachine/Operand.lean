import RegisterMachine.Register
import RegisterMachine.Fault

/-!
# Operands

What an instruction reads from and writes to.  A token is a register by its name, a memory
reference if it is bracketed, and otherwise a number, decimal or hexadecimal.  A token that is none
of these is an operand all the same, one whose reading is a fault; only as a destination is it
refused.
-/

namespace RegisterMachine

/-- What stands in the brackets of a memory reference. -/
inductive Address where
  /-- The address is the value of a register. -/
  | register (r : Register)
  /-- The address itself. -/
  | absolute (address : Int64)
deriving DecidableEq, Repr

/-- Something that can be read. -/
inductive Operand where
  | register (r : Register)
  | memory (a : Address)
  | immediate (v : Int64)
  /-- Nothing that can be read, and why. -/
  | malformed (f : Fault)
deriving DecidableEq, Repr

/-- Something that can be written. -/
inductive Destination where
  | register (r : Register)
  | memory (a : Address)
deriving DecidableEq, Repr

namespace Address

/-- The address that stands in brackets: a register or a decimal number. -/
def read? (inner : String) : Option Address :=
  match Register.ofName? inner with
  | some r => some (.register r)
  | none   => (Text.signed? inner.toList).map .absolute

/-- A memory reference as it is written, brackets included. -/
def text : Address → String
  | register r => "[" ++ r.name ++ "]"
  | absolute n => "[" ++ Text.decimal n ++ "]"

end Address

/-- The text between a bracket that opens a token and one that closes it. -/
def bracketed? : List Char → Option (List Char)
  | '[' :: cs => if cs.getLast? = some ']' then some cs.dropLast else none
  | _         => none

/-- A number in a token: hexadecimal behind `0x`, else decimal with an optional sign. -/
def number? : List Char → Option Int64
  | '0' :: 'x' :: digits => Text.hexadecimal? digits
  | cs                   => Text.signed? cs

namespace Operand

/-- The operand that a token stands for. -/
def read (token : String) : Operand :=
  match Register.ofName? token with
  | some r => .register r
  | none   =>
    match bracketed? token.toList with
    | some inner =>
      match Address.read? (String.ofList inner) with
      | some a => .memory a
      | none   => .malformed (.invalidReference token)
    | none =>
      match number? token.toList with
      | some v => .immediate v
      | none   => .malformed (.unreadableValue token)

end Operand

namespace Destination

/-- The destination that a token stands for.  A number is no place to write to, and neither is a
token that cannot be read; of the latter, a bad memory reference is reported as such. -/
def read (token : String) : Except Fault Destination :=
  match Operand.read token with
  | .register r                           => .ok (.register r)
  | .memory a                             => .ok (.memory a)
  | .malformed (.invalidReference token') => .error (.invalidReference token')
  | .malformed _ | .immediate _           => .error (.invalidDestination token)

/-- A destination of the instructions that write to registers only. -/
def readRegister (token : String) : Except Fault Register :=
  match Register.ofName? token with
  | some r => .ok r
  | none   => .error (.invalidDestinationRegister token)

end Destination

end RegisterMachine
