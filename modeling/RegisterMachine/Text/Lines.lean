/-!
# Text — Lines

The lines of a text.  A line feed ends a line, and a carriage return right before it belongs to the
ending; any other carriage return is part of its line.  What follows the last line feed is a line
if it is not empty.

* `lines_eq`: the lines are the pieces between line feeds, each without the carriage return at its
  end, and the last piece as it stands, unless it is empty.
-/

namespace RegisterMachine.Text

/-- A line without the carriage return of its ending. -/
def chomp (line : List Char) : List Char :=
  if line.getLast? = some '\r' then line.dropLast else line

/-- The line that a line feed ends, of which the characters before the line feed are `back`, read
backwards. -/
def endLine : List Char → List Char
  | '\r' :: back => back.reverse
  | back         => back.reverse

/-- Cuts a text into lines.  It follows the lines `out`, the last of them first, and the characters
`back`, read backwards, of a line that has not ended. -/
def linesOnto (back : List Char) (out : List (List Char)) : List Char → List (List Char)
  | []      => (if back.isEmpty then out else back.reverse :: out).reverse
  | c :: cs =>
    if c = '\n' then linesOnto [] (endLine back :: out) cs else linesOnto (c :: back) out cs

/-- The lines of a text, without their endings. -/
def lines (cs : List Char) : List (List Char) :=
  linesOnto [] [] cs

/-- The lines that pieces between line feeds make up. -/
def ofPieces (pieces : List (List Char)) : List (List Char) :=
  pieces.dropLast.map chomp ++ (pieces.getLast?.toList.filter fun l => !l.isEmpty)

theorem endLine_eq (back : List Char) : endLine back = chomp back.reverse := by
  unfold endLine
  split
  · simp [chomp]
  · next h =>
    cases back with
    | nil => rfl
    | cons c cs =>
      have hc : c ≠ '\r' := fun hc => h cs (by rw [hc])
      simp [chomp, hc]

theorem linesOnto_eq (back : List Char) (out : List (List Char)) (cs : List Char) :
    linesOnto back out cs = out.reverse ++ ofPieces (cs.splitOnPPrepend (· == '\n') back) := by
  induction cs generalizing back out with
  | nil => cases back <;> simp [linesOnto, ofPieces]
  | cons c cs ih =>
    have hne := List.splitOnP_ne_nil (· == '\n') cs
    by_cases h : c = '\n'
    · simp [linesOnto, h, ih, endLine_eq, ofPieces, List.splitOnPPrepend_cons_eq_if,
        List.dropLast_cons_of_ne_nil hne, List.getLast?_cons_of_ne_nil hne]
    · simp [linesOnto, h, ih, List.splitOnPPrepend_cons_eq_if]

theorem lines_eq (cs : List Char) : lines cs = ofPieces (cs.splitOn '\n') := by
  simp [lines, linesOnto_eq, List.splitOn_eq_splitOnP]

example : lines "a\r\nb\r\r\n\nc\r".toList = ["a", "b\r", "", "c\r"].map String.toList := by
  decide +kernel

example : lines "".toList = [] ∧ lines "a\n".toList = ["a".toList] := by decide +kernel

end RegisterMachine.Text
