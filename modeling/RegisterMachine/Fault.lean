import RegisterMachine.Text.Numeral

/-!
# Faults

Everything that can be wrong with a program or keep it from being read: a line, an operand, an
access to memory, a file.  A fault never stops a run; it is put on the trace.
-/

namespace RegisterMachine

open Text (decimal)

/-- What is wrong. -/
inductive Fault where
  /-- The token is no register, no memory reference and no number. -/
  | unreadableValue (token : String)
  /-- The token is bracketed, and what the brackets hold is no address. -/
  | invalidReference (token : String)
  /-- An instruction was given `actual` operands and takes `expected`. -/
  | wrongArity (instruction : String) (expected actual : Nat)
  /-- The token names no place that can be written. -/
  | invalidDestination (token : String)
  /-- The token names no register, and only a register can be written here. -/
  | invalidDestinationRegister (token : String)
  /-- No instruction has this name. -/
  | unknownInstruction (opcode : String)
  /-- Memory has `cells` cells, and `address` is the address of none. -/
  | addressOutOfBounds (address : Int64) (cells : Nat)
  /-- Memory has `cells` cells, and the stack pointer `sp` reaches none. -/
  | stackOutOfBounds (sp : Int64) (cells : Nat)
  /-- The source file at `path` cannot be read. -/
  | unreadableFile (path reason : String)
deriving DecidableEq, Repr

/-- What part of the work a fault belongs to. -/
inductive FaultKind where
  | parse
  | arity
  | target
  | unknownOpcode
  | bounds
  | io
deriving DecidableEq, Repr

/-- All kinds, in the order in which they are counted. -/
def FaultKind.all : List FaultKind :=
  [.parse, .arity, .target, .unknownOpcode, .bounds, .io]

/-- The name of a kind. -/
def FaultKind.name : FaultKind → String
  | .parse         => "parse"
  | .arity         => "arity"
  | .target        => "target"
  | .unknownOpcode => "unknown-opcode"
  | .bounds        => "bounds"
  | .io            => "io"

/-- A number of operands in words. -/
def operandCount (n : Nat) : String :=
  if n = 1 then "1 operand" else toString n ++ " operands"

namespace Fault

/-- The kind of a fault. -/
def kind : Fault → FaultKind
  | unreadableValue _ | invalidReference _              => .parse
  | wrongArity ..                                       => .arity
  | invalidDestination _ | invalidDestinationRegister _ => .target
  | unknownInstruction _                                => .unknownOpcode
  | addressOutOfBounds .. | stackOutOfBounds ..         => .bounds
  | unreadableFile ..                                   => .io

/-- The text of a fault. -/
def message : Fault → String
  | unreadableValue token            => "Can't parse value " ++ token
  | invalidReference token           => "Invalid memory reference " ++ token
  | wrongArity instruction expected actual =>
    instruction ++ " requires " ++ operandCount expected ++ ", got " ++ toString actual
  | invalidDestination token         => "Invalid destination " ++ token
  | invalidDestinationRegister token => "Invalid destination register " ++ token
  | unknownInstruction opcode        => "Unknown instruction " ++ opcode
  | addressOutOfBounds address cells =>
    "Memory address " ++ decimal address ++ " out of bounds (0.." ++ toString cells ++ ")"
  | stackOutOfBounds sp cells        =>
    "Stack pointer " ++ decimal sp ++ " outside stack window (-" ++ toString cells ++ ".."
      ++ toString cells ++ ")"
  | unreadableFile path reason       => "cannot read " ++ path ++ ": " ++ reason

end Fault

end RegisterMachine
