import RegisterMachine.Text.Blank
import RegisterMachine.Text.Lowercase
import RegisterMachine.Instruction

/-!
# Statements

A line of source text cut into words.  A semicolon starts a comment; commas and blanks separate
words, in any number and mixture.  The first word names an instruction, in letters of either case,
and the others are its operands, as they stand.

* `Statement.words_eq`: how a line falls into words.
-/

namespace RegisterMachine

/-- The words of a line: the name of an instruction, in lower case, and its operands. -/
structure Statement where
  opcode : String
  operands : List String
deriving DecidableEq, Repr

namespace Statement

/-- The character stands between words. -/
def isSeparator (c : Char) : Bool :=
  c == ',' || Text.isBlank c

/-- A line without its comment. -/
def code (line : List Char) : List Char :=
  line.takeWhile (· != ';')

/-- Ends a word, of which the characters are read backwards, behind other words, the last of them
first.  No characters are no word. -/
def endWord (back : List Char) (out : List (List Char)) : List (List Char) :=
  if back.isEmpty then out else back.reverse :: out

/-- Cuts a line into words.  It follows the words `out`, the last of them first, and the characters
`back`, read backwards, of a word that has not ended. -/
def wordsOnto (back : List Char) (out : List (List Char)) : List Char → List (List Char)
  | []      => (endWord back out).reverse
  | c :: cs =>
    if c = ';' then (endWord back out).reverse
    else if isSeparator c then wordsOnto [] (endWord back out) cs
    else wordsOnto (c :: back) out cs

/-- The words of a line. -/
def words (line : List Char) : List (List Char) :=
  wordsOnto [] [] line

theorem wordsOnto_eq (back : List Char) (out : List (List Char)) (line : List Char) :
    wordsOnto back out line =
      out.reverse
        ++ ((code line).splitOnPPrepend isSeparator back).filter fun w => !w.isEmpty := by
  induction line generalizing back out with
  | nil => cases back <;> simp [wordsOnto, endWord, code]
  | cons c cs ih =>
    by_cases hc : c = ';'
    · cases back <;> simp [wordsOnto, endWord, code, hc]
    · have hcode : code (c :: cs) = c :: code cs := by simp [code, hc]
      by_cases hs : isSeparator c
      · cases back <;>
          simp [wordsOnto, endWord, hc, hs, ih, hcode, List.splitOnPPrepend_cons_pos hs]
      · simp [wordsOnto, hc, hs, ih, hcode, List.splitOnPPrepend_cons_eq_if]

/-- The words are the stretches between separators, up to the comment, that are not empty. -/
theorem words_eq (line : List Char) :
    words line = ((code line).splitOnP isSeparator).filter fun w => !w.isEmpty := by
  simp [words, wordsOnto_eq]

/-- The statement on a line; a line without words has none. -/
def ofLine? (line : List Char) : Option Statement :=
  match words line with
  | []                 => none
  | opcode :: operands =>
    some ⟨String.ofList (Text.lowercase opcode), operands.map String.ofList⟩

/-- The instruction that a statement stands for. -/
def instruction (s : Statement) : Except Fault Instruction :=
  match Opcode.ofMnemonic? s.opcode with
  | some op => Instruction.ofOperands op s.operands
  | none    => .error (.unknownInstruction s.opcode)

end Statement

end RegisterMachine
