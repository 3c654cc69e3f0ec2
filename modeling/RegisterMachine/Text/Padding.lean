/-!
# Text — Padding

A text laid out in a field: cut to a length if one is given, then filled up to a width on the side
that the alignment leaves free.
-/

namespace RegisterMachine.Text

/-- Where a text stands in a field that is wider than the text. -/
inductive Alignment where
  | left
  | center
  | right
deriving DecidableEq, Repr

/-- A field of `width` characters; `limit` is the most that is kept of the text. -/
structure Field where
  width : Nat := 0
  alignment : Alignment := .left
  fill : Char := ' '
  limit : Option Nat := none
deriving DecidableEq, Repr

/-- How much of `free` room stands in front of the text; a centred text has the larger half behind
it. -/
def Alignment.front : Alignment → Nat → Nat
  | .left,   _    => 0
  | .center, free => free / 2
  | .right,  free => free

/-- The text laid out in the field.  A text longer than the width is not cut by it. -/
def Field.layOut (f : Field) (cs : List Char) : List Char :=
  let kept := match f.limit with
    | some n => cs.take n
    | none   => cs
  let free := f.width - kept.length
  let front := f.alignment.front free
  List.replicate front f.fill ++ kept ++ List.replicate (free - front) f.fill

/-- The text laid out in the field, as a string. -/
def Field.write (f : Field) (s : String) : String :=
  String.ofList (f.layOut s.toList)

end RegisterMachine.Text
