import RegisterMachine.Text.Blank

/-!
# Journal — Levels

How grave a message of the journal is, and how the names of the levels are read.
-/

namespace RegisterMachine

/-- The level of a message, from the least to the most grave. -/
inductive Level where
  | debug
  | info
  | warn
  | error
deriving DecidableEq, Repr

/-- No level has this name. -/
structure UnknownLevel where
  name : String
deriving DecidableEq, Repr

/-- The text of the error. -/
def UnknownLevel.message (e : UnknownLevel) : String :=
  "unknown log level '" ++ e.name ++ "'"

namespace Level

/-- The place of a level among the levels. -/
def rank : Level → Nat
  | debug => 0
  | info  => 1
  | warn  => 2
  | error => 3

/-- The level at a place; everything past the last is the last. -/
def ofRank : Nat → Level
  | 0 => debug
  | 1 => info
  | 2 => warn
  | _ => error

/-- The name of a level in the journal. -/
def name : Level → String
  | debug => "DEBUG"
  | info  => "INFO"
  | warn  => "WARN"
  | error => "ERROR"

/-- The level of that name.  Case does not matter, and neither do blanks around the name. -/
def read (s : String) : Except UnknownLevel Level :=
  match String.ofList ((Text.trim s.toList).map Char.toLower) with
  | "debug"            => .ok debug
  | "info"             => .ok info
  | "warn" | "warning" => .ok warn
  | "error"            => .ok error
  | other              => .error ⟨other⟩

/-- The level that a setting asks for, or the present one if there is no setting. -/
def overriddenBy (present : Level) : Option String → Except UnknownLevel Level
  | some s => read s
  | none   => .ok present

/-- A message of level `l` is written where `minimum` is asked for. -/
def allows (minimum l : Level) : Bool :=
  minimum.rank ≤ l.rank

theorem ofRank_rank (l : Level) : ofRank l.rank = l := by
  cases l <;> rfl

end Level

end RegisterMachine
