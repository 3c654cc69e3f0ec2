import RegisterMachine.Statement
import RegisterMachine.Text.Lines

/-!
# Proofs — Text — Sizes

How many bytes a text has, and how much longer a text can get when it is cut up, lower-cased or
written in decimal.  The bounds are coarse.  What they have to show is that the size of whatever is
made from a text is bounded by the size of that text.

* `utf8ByteSize_ofList_le`, `length_toList_le`: characters and bytes.
* `utf8ByteSize_toString_le`: a number below `ceiling` takes at most 84 bytes.
* `piecesSize_lines_le`, `piecesSize_words_le`: the pieces that a text is cut into and the
  characters in them are together no more than its characters and one.
-/

namespace RegisterMachine.Text

/-! ### Characters and bytes -/

theorem utf8ByteSize_ofList_le (cs : List Char) :
    (String.ofList cs).utf8ByteSize ≤ 4 * cs.length := by
  induction cs with
  | nil => exact Nat.le_refl 0
  | cons c cs ih =>
      have hc := c.utf8Size_le_four
      rw [String.ofList_cons, String.utf8ByteSize_append, String.utf8ByteSize_singleton,
        List.length_cons]
      omega

theorem length_le_utf8ByteSize_ofList (cs : List Char) :
    cs.length ≤ (String.ofList cs).utf8ByteSize := by
  induction cs with
  | nil => exact Nat.le_refl 0
  | cons c cs ih =>
      have hc := c.utf8Size_pos
      rw [String.ofList_cons, String.utf8ByteSize_append, String.utf8ByteSize_singleton,
        List.length_cons]
      omega

theorem length_toList_le (x : String) : x.toList.length ≤ x.utf8ByteSize := by
  have h := length_le_utf8ByteSize_ofList x.toList
  rwa [String.ofList_toList] at h

/-! ### Numbers -/

/-- A number that is greater than everything counted in a session: one and twenty-one zeros. -/
def ceiling : Nat := 1000000000000000000000

/-- A number below the ceiling has at most 21 digits, which are counted as four bytes each. -/
theorem utf8ByteSize_toString_le {n : Nat} (h : n < ceiling) :
    (toString n).utf8ByteSize ≤ 84 := by
  have hdigits : (Nat.toDigits 10 n).length ≤ 21 :=
    (Nat.length_toDigits_le_iff (by decide) (by decide)).mpr h
  have hbytes := utf8ByteSize_ofList_le (Nat.toDigits 10 n)
  rw [Nat.toString_eq_ofList_toDigits]
  omega

theorem utf8ByteSize_decimal_le (v : Int64) : (decimal v).utf8ByteSize ≤ 85 := by
  have hlow := v.le_toInt
  have hhigh := v.toInt_lt
  -- a negative number is a sign and the digits of its absolute value
  rw [decimal, Int.toString_eq_repr, Int.repr_eq_if]
  split
  · have hnat : v.toInt.toNat < ceiling := by
      rw [ceiling]
      omega
    exact Nat.le_succ_of_le (utf8ByteSize_toString_le hnat)
  · have hnat : (-v.toInt).toNat < ceiling := by
      rw [ceiling]
      omega
    have hsign : "-".utf8ByteSize = 1 := rfl
    have hsize : (-v.toInt).toNat.repr.utf8ByteSize ≤ 84 := utf8ByteSize_toString_le hnat
    rw [String.utf8ByteSize_append, hsign]
    omega

/-! ### Lower case -/

theorem length_lowerBetween_le (cased : Bool) (c : Char) (after : List Char) :
    (lowerBetween cased c after).length ≤ 2 := by
  rw [lowerBetween, lowerChar]
  repeat' split
  all_goals exact Nat.le_of_ble_eq_true rfl

theorem length_lowerAfter_le (before cs : List Char) :
    (lowerAfter before cs).length ≤ 2 * cs.length := by
  induction cs generalizing before with
  | nil => exact Nat.le_refl 0
  | cons c after ih =>
      have hc := length_lowerBetween_le (meetsCased before) c after
      have hafter := ih (c :: before)
      rw [lowerAfter, List.length_append, List.length_cons]
      omega

/-- Lower case is at most twice as long. -/
theorem length_lowercase_le (cs : List Char) : (lowercase cs).length ≤ 2 * cs.length := by
  rw [lowercase_eq]
  exact length_lowerAfter_le [] cs

/-! ### Lines and words -/

/-- The number of pieces and of the characters in them. -/
def piecesSize (pieces : List (List Char)) : Nat :=
  pieces.length + pieces.flatten.length

@[simp] theorem piecesSize_nil : piecesSize [] = 0 :=
  rfl

@[simp] theorem piecesSize_cons (piece : List Char) (pieces : List (List Char)) :
    piecesSize (piece :: pieces) = piece.length + 1 + piecesSize pieces := by
  rw [piecesSize, piecesSize, List.length_cons, List.flatten_cons, List.length_append]
  omega

@[simp] theorem piecesSize_reverse (pieces : List (List Char)) :
    piecesSize pieces.reverse = piecesSize pieces := by
  rw [piecesSize, piecesSize, List.length_reverse,
    pieces.reverse_perm.flatten.length_eq]

theorem length_le_piecesSize (pieces : List (List Char)) : pieces.length ≤ piecesSize pieces :=
  Nat.le_add_right _ _

theorem length_le_piecesSize_of_mem {piece : List Char} {pieces : List (List Char)}
    (h : piece ∈ pieces) : piece.length ≤ piecesSize pieces :=
  Nat.le_add_left_of_le (List.sublist_flatten_of_mem h).length_le

theorem length_endLine_le (back : List Char) : (endLine back).length ≤ back.length := by
  rw [endLine_eq, chomp]
  split
  · rw [List.length_dropLast, List.length_reverse]
    exact Nat.sub_le _ 1
  · exact Nat.le_of_eq List.length_reverse

theorem piecesSize_linesOnto_le (back : List Char) (out : List (List Char)) (cs : List Char) :
    piecesSize (linesOnto back out cs) ≤ piecesSize out + back.length + cs.length + 1 := by
  induction cs generalizing back out with
  | nil =>
      rw [linesOnto, piecesSize_reverse]
      split
      · omega
      · rw [piecesSize_cons, List.length_reverse]
        omega
  | cons c cs ih =>
      rw [linesOnto, List.length_cons]
      split
      -- the line that has been read is one of the pieces now
      · have hend := length_endLine_le back
        have hrest := ih [] (endLine back :: out)
        rw [piecesSize_cons, List.length_nil] at hrest
        omega
      · have hrest := ih (c :: back) out
        rw [List.length_cons] at hrest
        omega

theorem piecesSize_lines_le (cs : List Char) : piecesSize (lines cs) ≤ cs.length + 1 := by
  have h := piecesSize_linesOnto_le [] [] cs
  rw [piecesSize_nil, List.length_nil, Nat.zero_add] at h
  exact h

end RegisterMachine.Text

namespace RegisterMachine.Statement

open Text

theorem piecesSize_endWord_le (back : List Char) (out : List (List Char)) :
    piecesSize (endWord back out) ≤ piecesSize out + back.length + 1 := by
  rw [endWord]
  split
  · omega
  · rw [piecesSize_cons, List.length_reverse]
    omega

theorem piecesSize_wordsOnto_le (back : List Char) (out : List (List Char)) (line : List Char) :
    piecesSize (wordsOnto back out line) ≤ piecesSize out + back.length + line.length + 1 := by
  induction line generalizing back out with
  | nil =>
      rw [wordsOnto, piecesSize_reverse]
      exact piecesSize_endWord_le back out
  | cons c cs ih =>
      have hend := piecesSize_endWord_le back out
      rw [wordsOnto, List.length_cons]
      split
      · rw [piecesSize_reverse]
        omega
      · split
        · have hrest := ih [] (endWord back out)
          rw [List.length_nil] at hrest
          omega
        · have hrest := ih (c :: back) out
          rw [List.length_cons] at hrest
          omega

theorem piecesSize_words_le (line : List Char) : piecesSize (words line) ≤ line.length + 1 := by
  have h := piecesSize_wordsOnto_le [] [] line
  rw [piecesSize_nil, List.length_nil, Nat.zero_add] at h
  exact h

end RegisterMachine.Statement
