import RegisterMachine.Text.CaseTable

/-!
# Text — Lower case

The lower case of a text, by the rules of the Unicode standard.  A character is mapped by itself,
except the capital sigma, whose lower case is `ς` at the end of a word and `σ` elsewhere; a word
ends where cased letters stop, case-ignorable characters set aside.  The capital `İ` is the one
character whose lower case is two characters.

* `lowercase_eq`: the lower case is, character by character, the mapping that its two sides call
  for.
-/

namespace RegisterMachine.Text

/-- The run that moves the code point, in a table sorted by first code point. -/
def CaseRun.find? : List CaseRun → Nat → Option CaseRun
  | [],      _    => none
  | r :: rs, code =>
    if code < r.first then none
    else if code ≤ r.last ∧ (code - r.first) % r.step = 0 then some r
    else find? rs code

/-- The lower case of a character with no regard to its neighbours. -/
def lowerChar (c : Char) : List Char :=
  if c = 'İ' then ['i', '\u0307']
  else
    match CaseRun.find? lowerRuns c.toNat with
    | some r => [Char.ofNat (c.toNat + r.shift).toNat]
    | none   => [c]

/-- Letters and the like: the character has a case and is not ignored in the search for one. -/
def isCased (c : Char) : Bool :=
  CodeRange.covers casedRanges c.toNat

/-- Apostrophes, combining marks and the like: the character does not end a word. -/
def isCaseIgnorable (c : Char) : Bool :=
  CodeRange.covers ignorableRanges c.toNat

/-- Read outward from a character, the first character that is not ignored is cased. -/
def meetsCased (side : List Char) : Bool :=
  match side.dropWhile isCaseIgnorable with
  | []     => false
  | c :: _ => isCased c

/-- The lower case of `c` with `after` behind it, where `cased` says whether the search backwards
from `c` meets a cased character. -/
def lowerBetween (cased : Bool) (c : Char) (after : List Char) : List Char :=
  if c = 'Σ' then
    if cased && !meetsCased after then ['ς'] else ['σ']
  else lowerChar c

/-- What the search backwards meets, one character further on. -/
def casedPast (cased : Bool) (c : Char) : Bool :=
  if isCaseIgnorable c then cased else isCased c

/-- Lower-cases a text onto `out`, which is read backwards. -/
def lowerOnto (cased : Bool) (out : List Char) : List Char → List Char
  | []         => out.reverse
  | c :: after =>
    lowerOnto (casedPast cased c) ((lowerBetween cased c after).reverse ++ out) after

/-- The lower case of a text. -/
def lowercase (cs : List Char) : List Char :=
  lowerOnto false [] cs

/-- The lower case of a text that follows `before`, which is read backwards. -/
def lowerAfter (before : List Char) : List Char → List Char
  | []         => []
  | c :: after => lowerBetween (meetsCased before) c after ++ lowerAfter (c :: before) after

theorem meetsCased_cons (c : Char) (cs : List Char) :
    meetsCased (c :: cs) = casedPast (meetsCased cs) c := by
  by_cases h : isCaseIgnorable c <;> simp [meetsCased, casedPast, h]

theorem lowerOnto_eq (before out cs : List Char) :
    lowerOnto (meetsCased before) out cs = out.reverse ++ lowerAfter before cs := by
  induction cs generalizing before out with
  | nil => simp [lowerOnto, lowerAfter]
  | cons c after ih => simp [lowerOnto, lowerAfter, ← meetsCased_cons, ih]

theorem lowercase_eq (cs : List Char) : lowercase cs = lowerAfter [] cs :=
  lowerOnto_eq [] [] cs

example : lowercase "ΟΔΟΣ".toList = "οδος".toList := by decide +kernel

example : lowercase "Σ İΣ'".toList = "σ i\u0307ς'".toList := by decide +kernel

end RegisterMachine.Text
