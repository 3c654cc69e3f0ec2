import RegisterMachine.Wire.Shape
import RegisterMachine.Report

/-!
# Wire — Messages

What a client asks and what a server answers, and the shapes in which both are sent.
-/

namespace RegisterMachine

open Wire (Shape Format)

/-- The shape of a report: registers, memory and trace, each a list. -/
def Report.shape : Shape :=
  .pair (.list (.pair .text .signed)) (.pair (.list .signed) (.list .text))

/-- How reports are written. -/
def Report.format : Format Report where
  shape := Report.shape
  toValue r := (r.registers, r.memory, r.log)
  ofValue v := ⟨v.1, v.2.1, v.2.2⟩
  ofValue_toValue _ := rfl
  toValue_ofValue _ := rfl

/-- What a client asks for. -/
inductive Request where
  /-- A run of the program on a fresh machine. -/
  | execute (program : String)
  /-- The state of a fresh machine. -/
  | reset
deriving DecidableEq, Repr

/-- How requests are written. -/
def Request.format : Format Request where
  shape := .choice .text .unit
  toValue
    | .execute program => .inl program
    | .reset           => .inr ()
  ofValue
    | .inl program => .execute program
    | .inr ()      => .reset
  ofValue_toValue r := by cases r <;> rfl
  toValue_ofValue v := by cases v <;> rfl

/-- What a server answers. -/
inductive Response where
  /-- The report of the run. -/
  | snapshot (report : Report)
  /-- There was no run, and why. -/
  | rejected (reason : String)
deriving DecidableEq, Repr

/-- How responses are written. -/
def Response.format : Format Response where
  shape := .choice Report.shape .text
  toValue
    | .snapshot report => .inl (Report.format.toValue report)
    | .rejected reason => .inr reason
  ofValue
    | .inl v      => .snapshot (Report.format.ofValue v)
    | .inr reason => .rejected reason
  ofValue_toValue r := by cases r <;> rfl
  toValue_ofValue v := by cases v <;> rfl

end RegisterMachine
