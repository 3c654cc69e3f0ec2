/-!
# Message templates

A template is a text with fields.  An opening brace starts a field, whose name runs up to the next
colon or closing brace; a doubled brace stands for itself.  A field may be named by a position, and
such a name, all digits, is made an identifier by an underscore in front of it.

`Template.read` cuts a text into pieces and loses nothing: `Template.text_read` is the round trip.
-/

namespace RegisterMachine

/-- A stretch of a template. -/
inductive Template.Piece where
  /-- A character that means itself: literal text, and what follows a field's name. -/
  | char (c : Char)
  /-- A doubled brace. -/
  | escaped (brace : Char)
  /-- An opening brace and the field's name. -/
  | field (name : List Char)
deriving DecidableEq, Repr

namespace Template

/-- The character belongs to a field's name. -/
def isNameChar (c : Char) : Bool :=
  c != '\x7d' && c != ':'

/-- Cuts a text into pieces. -/
def read (cs : List Char) : List Piece :=
  match cs with
  | []                     => []
  | '\x7b' :: '\x7b' :: cs => .escaped '\x7b' :: read cs
  | '\x7d' :: '\x7d' :: cs => .escaped '\x7d' :: read cs
  | c :: cs                =>
    if c = '\x7b' then .field (cs.takeWhile isNameChar) :: read (cs.dropWhile isNameChar)
    else .char c :: read cs
termination_by cs.length
decreasing_by
  all_goals simp only [List.length_cons]
  · omega
  · omega
  · have := (List.dropWhile_suffix isNameChar (l := cs)).length_le
    omega
  · omega

/-- The characters of a piece. -/
def Piece.text : Piece → List Char
  | .char c        => [c]
  | .escaped brace => [brace, brace]
  | .field name    => '\x7b' :: name

/-- The characters of a template. -/
def text (ps : List Piece) : List Char :=
  ps.flatMap Piece.text

/-- The name is a position: one or more decimal digits. -/
def isPosition (name : List Char) : Bool :=
  !name.isEmpty && name.all fun c => decide ('0' ≤ c ∧ c ≤ '9')

/-- A field named by a position gets a name that is an identifier; all else stays. -/
def Piece.identify : Piece → Piece
  | .field name => .field (if isPosition name then '_' :: name else name)
  | p           => p

/-- The template with every field named by an identifier. -/
def identify (ps : List Piece) : List Piece :=
  ps.map Piece.identify

/-- The name of a field that has one. -/
def Piece.name? : Piece → Option (List Char)
  | .field name => if name.isEmpty then none else some name
  | _           => none

/-- The names of the fields, each once, in order of first occurrence. -/
def names (ps : List Piece) : List (List Char) :=
  (ps.filterMap Piece.name?).eraseDups

/-- A template's text with positions made identifiers, and the names it then refers to. -/
def resolve (template : String) : String × List String :=
  let ps := identify (read template.toList)
  (String.ofList (text ps), (names ps).map String.ofList)

theorem text_read (cs : List Char) : text (read cs) = cs := by
  fun_induction read cs with
  | case1 => rfl
  | case2 cs ih => simpa [text, Piece.text] using ih
  | case3 cs ih => simpa [text, Piece.text] using ih
  | case4 c ih _ _ =>
    simp only [text, List.flatMap_cons, Piece.text, List.cons_append] at *
    simp [*, List.takeWhile_append_dropWhile]
  | case5 c cs _ _ _ ih => simpa [text, Piece.text] using ih

end Template

end RegisterMachine
