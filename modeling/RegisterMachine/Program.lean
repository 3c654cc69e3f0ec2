import RegisterMachine.Text.Lines
import RegisterMachine.Machine

/-!
# Programs

A program is a source text.  Its lines are carried out in order, each under its number in the text;
lines without a statement count but do nothing.

* `Machine.runFrom_append`: a run over two stretches of lines is a run over the first and, from
  where it ends, over the second.
-/

namespace RegisterMachine.Machine

/-- Carries out a line of source text. -/
def stepLine (m : Machine) (number : Nat) (line : List Char) : Machine :=
  match Statement.ofLine? line with
  | some st => m.step number st
  | none    => m

/-- Carries out lines in order; the first has the given number. -/
def runFrom (m : Machine) (number : Nat) : List (List Char) → Machine
  | []            => m
  | line :: lines => runFrom (m.stepLine number line) (number + 1) lines

/-- Runs a program on a fresh machine. -/
def run (cells : Nat) (source : String) : Machine :=
  (fresh cells).runFrom 1 (Text.lines source.toList)

theorem runFrom_append (m : Machine) (number : Nat) (ls ls' : List (List Char)) :
    m.runFrom number (ls ++ ls') = (m.runFrom number ls).runFrom (number + ls.length) ls' := by
  induction ls generalizing m number with
  | nil => rfl
  | cons l ls ih =>
    simp only [List.cons_append, runFrom, ih, List.length_cons]
    congr 1
    omega

end RegisterMachine.Machine
