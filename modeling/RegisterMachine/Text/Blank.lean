import RegisterMachine.Text.CodeRange

/-!
# Text — Blank characters

The characters that separate words: those with the Unicode property White_Space.  There are 25 of
them, and the ASCII ones are the space and the five controls from tab to carriage return.
-/

namespace RegisterMachine.Text

/-- The code points with the White_Space property. -/
def blankRanges : List CodeRange :=
  [⟨0x09, 0x0d⟩, ⟨0x20, 0x20⟩, ⟨0x85, 0x85⟩, ⟨0xa0, 0xa0⟩, ⟨0x1680, 0x1680⟩, ⟨0x2000, 0x200a⟩,
   ⟨0x2028, 0x2029⟩, ⟨0x202f, 0x202f⟩, ⟨0x205f, 0x205f⟩, ⟨0x3000, 0x3000⟩]

/-- The character has the White_Space property. -/
def isBlank (c : Char) : Bool :=
  CodeRange.covers blankRanges c.toNat

/-- The text without the blanks at its two ends. -/
def trim (cs : List Char) : List Char :=
  ((cs.dropWhile isBlank).reverse.dropWhile isBlank).reverse

theorem blankRanges_sorted : CodeRange.sorted blankRanges = true := by decide

example : (blankRanges.map fun r => r.last - r.first + 1).sum = 25 := by decide

example : isBlank ' ' = true ∧ isBlank '\u2003' = true ∧ isBlank '\u200b' = false := by decide

end RegisterMachine.Text
