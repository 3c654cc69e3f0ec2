import RegisterMachine.Journal.Level
import RegisterMachine.Text.Padding

/-!
# Journal — Notes

What the program says about its own work, apart from its results.  A computation that has
something to say is a `Noted` value: the result and the notes taken on the way.  `Journal.write` is
the text of notes, filtered by level, with a time stamp and colours if these are wanted.
-/

namespace RegisterMachine

/-- A message with its level. -/
structure Note where
  level : Level
  text : String
deriving DecidableEq, Repr

/-- A result and the notes taken on the way to it. -/
structure Noted (α : Type) where
  value : α
  notes : List Note := []

/-- Takes another step and keeps the notes of both. -/
def Noted.andThen {α β : Type} (x : Noted α) (f : α → Noted β) : Noted β :=
  let y := f x.value
  ⟨y.value, x.notes ++ y.notes⟩

/-- Changes the result. -/
def Noted.map {α β : Type} (f : α → β) (x : Noted α) : Noted β :=
  ⟨f x.value, x.notes⟩

/-- How notes are written. -/
structure Journal where
  /-- Notes below this level are left out. -/
  minimum : Level := .info
  /-- The text of the time, in front of each note. -/
  stamp : Option String := none
  colored : Bool := false
deriving DecidableEq, Repr

namespace Journal

/-- The terminal's escape to its plain style. -/
def plainStyle : String := "\x1b[0m"

/-- The escapes that set the style of a level: grave ones are bold, and each but the ordinary one
has a colour. -/
def style : Level → String
  | .debug => plainStyle ++ "\x1b[36m"
  | .info  => plainStyle
  | .warn  => plainStyle ++ "\x1b[1m\x1b[33m"
  | .error => plainStyle ++ "\x1b[1m\x1b[31m"

/-- The column of level names. -/
def levelColumn : Text.Field := { width := 5 }

/-- The text of one note. -/
def line (j : Journal) (n : Note) : String :=
  let time := match j.stamp with
    | some t => t ++ " "
    | none   => ""
  let plain := time ++ "[" ++ levelColumn.write n.level.name ++ "] " ++ n.text ++ "\n"
  if j.colored then style n.level ++ plain ++ plainStyle else plain

/-- The text of notes, without those below the minimum. -/
def write (j : Journal) (notes : List Note) : String :=
  String.join ((notes.filter fun n => j.minimum.allows n.level).map j.line)

end Journal

end RegisterMachine
