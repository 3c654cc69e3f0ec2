/-!
# Text — Code ranges

Properties of characters are given by the standard as sorted tables of closed ranges of code
points.  `CodeRange.covers` is membership in such a table; it stops at the first range that starts
after the code point, so a look-up of a small code point is short.

* `CodeRange.covers_iff`: on a sorted table, the look-up finds exactly the code points that lie in
  one of its ranges.
-/

namespace RegisterMachine.Text

/-- The code points from `first` to `last`, both included. -/
structure CodeRange where
  first : Nat
  last : Nat
deriving DecidableEq, Repr

namespace CodeRange

/-- The code point lies in the range. -/
def Contains (r : CodeRange) (code : Nat) : Prop :=
  r.first ≤ code ∧ code ≤ r.last

instance (r : CodeRange) (code : Nat) : Decidable (r.Contains code) :=
  inferInstanceAs (Decidable (_ ∧ _))

/-- Membership in a table sorted by first code point. -/
def covers : List CodeRange → Nat → Bool
  | [],      _    => false
  | r :: rs, code =>
    if code < r.first then false
    else if code ≤ r.last then true
    else covers rs code

/-- The ranges are in ascending order of their first code points. -/
def sorted : List CodeRange → Bool
  | []           => true
  | [_]          => true
  | r :: s :: rs => decide (r.first ≤ s.first) && sorted (s :: rs)

theorem sorted_tail {r : CodeRange} {rs : List CodeRange} (h : sorted (r :: rs) = true) :
    sorted rs = true := by
  cases rs with
  | nil => rfl
  | cons s rs => exact (Bool.and_eq_true_iff.mp h).2

theorem first_le_of_sorted {r : CodeRange} {rs : List CodeRange} (h : sorted (r :: rs) = true) :
    ∀ s ∈ rs, r.first ≤ s.first := by
  induction rs generalizing r with
  | nil => simp
  | cons s rs ih =>
    have hrs : r.first ≤ s.first := of_decide_eq_true (Bool.and_eq_true_iff.mp h).1
    intro t ht
    rcases List.mem_cons.mp ht with rfl | ht
    · exact hrs
    · exact Nat.le_trans hrs (ih (sorted_tail h) t ht)

theorem covers_iff {rs : List CodeRange} (h : sorted rs = true) (code : Nat) :
    covers rs code = true ↔ ∃ r ∈ rs, r.Contains code := by
  induction rs with
  | nil => simp [covers]
  | cons r rs ih =>
    have hr := first_le_of_sorted h
    have hs := sorted_tail h
    unfold covers
    split
    · next hlt =>
      simp only [Bool.false_eq_true, List.mem_cons, exists_eq_or_imp, false_iff, not_or,
        not_exists, not_and]
      refine ⟨fun hc => ?_, fun s hmem hc => ?_⟩
      · exact absurd hc.1 (by omega)
      · have := hr s hmem
        exact absurd hc.1 (by omega)
    · next hge =>
      split
      · next hle =>
        simp only [List.mem_cons, exists_eq_or_imp, true_iff]
        exact .inl ⟨by omega, hle⟩
      · next hgt =>
        rw [ih hs]
        simp only [List.mem_cons, exists_eq_or_imp]
        exact ⟨.inr, fun hc => hc.resolve_left fun hc => hgt hc.2⟩

end CodeRange

end RegisterMachine.Text
