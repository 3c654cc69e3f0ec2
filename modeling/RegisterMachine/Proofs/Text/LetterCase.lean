import RegisterMachine.Text.Lowercase

/-!
# Proofs — Text — Letter case

What lower-casing does to the 128 characters of ASCII, and where else ASCII can come from.

* `lowercase_map_toLower`: the case of ASCII letters has no influence on the lower case of a text,
  not even on the form of a sigma far behind them.
* `lowercase_eq_iff`: a text whose lower case is made up of ASCII letters other than `k` is made up
  of those letters, in either case.  The letter `k` is left out for the Kelvin sign, which is the
  only character beyond ASCII whose lower case is one of ASCII.
-/

namespace RegisterMachine.Text

/-! ### The characters of ASCII -/

theorem forall_ascii {p : Char → Prop} (h : ∀ n < 128, p (Char.ofNat n)) {c : Char}
    (hc : c.toNat < 128) : p c :=
  Char.ofNat_toNat c ▸ h c.toNat hc

/-- Only capitals of ASCII are moved. -/
theorem toLower_of_le {c : Char} (hc : 128 ≤ c.toNat) : c.toLower = c := by
  have hnot : ¬ (c.val ≥ 'A'.val ∧ c.val ≤ 'Z'.val) := by
    rintro ⟨-, hle⟩
    have hz : c.toNat ≤ 90 := hle
    omega
  exact dif_neg hnot

/-- What does not tell apart the two cases of an ASCII letter. -/
theorem apply_toLower {α : Type} (f : Char → α)
    (h : ∀ n < 128, f (Char.ofNat n).toLower = f (Char.ofNat n)) (c : Char) :
    f c.toLower = f c := by
  by_cases hc : c.toNat < 128
  · exact forall_ascii (p := fun c => f c.toLower = f c) h hc
  · rw [toLower_of_le (Nat.le_of_not_lt hc)]

theorem lt_of_toLower_lt {c : Char} (h : c.toLower.toNat < 128) : c.toNat < 128 := by
  by_cases hc : c.toNat < 128
  · exact hc
  · rwa [toLower_of_le (Nat.le_of_not_lt hc)] at h

/-! ### Letters of either case -/

theorem isCased_toLower (c : Char) : isCased c.toLower = isCased c :=
  apply_toLower isCased (by decide +kernel) c

theorem isCaseIgnorable_toLower (c : Char) : isCaseIgnorable c.toLower = isCaseIgnorable c :=
  apply_toLower isCaseIgnorable (by decide +kernel) c

theorem lowerChar_toLower (c : Char) : lowerChar c.toLower = lowerChar c :=
  apply_toLower lowerChar (by decide +kernel) c

theorem toLower_eq_sigma_iff (c : Char) : c.toLower = 'Σ' ↔ c = 'Σ' := by
  have h := apply_toLower (fun c => decide (c = 'Σ')) (by decide +kernel) c
  exact decide_eq_decide.mp h

theorem casedPast_toLower (cased : Bool) (c : Char) :
    casedPast cased c.toLower = casedPast cased c := by
  rw [casedPast, casedPast, isCaseIgnorable_toLower, isCased_toLower]

theorem meetsCased_map_toLower (side : List Char) :
    meetsCased (side.map Char.toLower) = meetsCased side := by
  induction side with
  | nil => rfl
  | cons c side ih => rw [List.map_cons, meetsCased_cons, meetsCased_cons, ih, casedPast_toLower]

theorem lowerBetween_map_toLower (cased : Bool) (c : Char) (after : List Char) :
    lowerBetween cased c.toLower (after.map Char.toLower) = lowerBetween cased c after := by
  simp only [lowerBetween, toLower_eq_sigma_iff, meetsCased_map_toLower, lowerChar_toLower]

theorem lowerAfter_map_toLower (before cs : List Char) :
    lowerAfter (before.map Char.toLower) (cs.map Char.toLower) = lowerAfter before cs := by
  induction cs generalizing before with
  | nil => rfl
  | cons c after ih =>
      rw [List.map_cons, lowerAfter, lowerAfter, meetsCased_map_toLower, lowerBetween_map_toLower,
        ← List.map_cons, ih]

/-- **The case of ASCII letters makes no difference to the lower case of a text.** -/
theorem lowercase_map_toLower (cs : List Char) : lowercase (cs.map Char.toLower) = lowercase cs := by
  rw [lowercase_eq, lowercase_eq]
  exact lowerAfter_map_toLower [] cs

/-! ### Letters that only ASCII leads to -/

theorem lowerBetween_of_lt {c : Char} (hc : c.toNat < 128) (cased : Bool) (after : List Char) :
    lowerBetween cased c after = [c.toLower] := by
  have hchar : lowerChar c = [c.toLower] :=
    forall_ascii (p := fun c => lowerChar c = [c.toLower]) (by decide +kernel) hc
  have hsigma : c ≠ 'Σ' := by
    rintro rfl
    exact absurd hc (by decide)
  rw [lowerBetween, if_neg hsigma, hchar]

theorem lowerAfter_of_lt {cs : List Char} (h : ∀ c ∈ cs, c.toNat < 128) (before : List Char) :
    lowerAfter before cs = cs.map Char.toLower := by
  induction cs generalizing before with
  | nil => rfl
  | cons c after ih =>
      obtain ⟨hc, hafter⟩ := List.forall_mem_cons.mp h
      rw [lowerAfter, lowerBetween_of_lt hc, ih hafter, List.map_cons, List.singleton_append]

/-- A small letter of ASCII other than `k`. -/
def IsPlain (c : Char) : Prop :=
  c.isLower = true ∧ c ≠ 'k'

instance (c : Char) : Decidable (IsPlain c) :=
  inferInstanceAs (Decidable (_ ∧ _))

theorem IsPlain.toNat_lt {c : Char} (h : IsPlain c) : 0 < c.toNat ∧ c.toNat < 128 := by
  have hlower : (decide (c.val ≥ 'a'.val) && decide (c.val ≤ 'z'.val)) = true := h.1
  obtain ⟨hleft, hright⟩ := (Bool.and_eq_true _ _).mp hlower
  have ha : 97 ≤ c.toNat := of_decide_eq_true hleft
  have hz : c.toNat ≤ 122 := of_decide_eq_true hright
  omega

theorem CaseRun.of_find?_eq_some {rs : List CaseRun} {code : Nat} {r : CaseRun}
    (h : find? rs code = some r) : r ∈ rs ∧ r.first ≤ code ∧ code ≤ r.last := by
  induction rs with
  | nil => cases h
  | cons s rs ih =>
      rw [find?] at h
      split at h
      · cases h
      · next hfirst =>
          split at h
          · next hlast =>
              obtain rfl := Option.some.inj h
              exact ⟨List.mem_cons_self, Nat.le_of_not_lt hfirst, hlast.1⟩
          · obtain ⟨hmem, hrange⟩ := ih h
            exact ⟨List.mem_cons_of_mem _ hmem, hrange⟩

/-- A number that is no code point makes the character zero. -/
theorem toNat_ofNat_cases (n : Nat) :
    (Char.ofNat n).toNat = n ∨ (Char.ofNat n).toNat = 0 := by
  by_cases h : n.isValidChar
  · have hvalid : Char.ofNat n = Char.ofNatAux n h := dif_pos h
    exact .inl (congrArg Char.toNat hvalid)
  · have hzero : Char.ofNat n = '\x00' := dif_neg h
    exact .inr (congrArg Char.toNat hzero)

/-- The runs beyond ASCII stay beyond ASCII, except the Kelvin sign. -/
theorem le_shift_of_mem_lowerRuns :
    ∀ r ∈ lowerRuns, r.last < 128 ∨ 128 ≤ r.first + r.shift ∨
      r = ⟨0x212a, 0x212a, 1, -8383⟩ := by
  decide +kernel

/-- Beyond ASCII no character has a plain letter for its lower case. -/
theorem not_isPlain_of_lowerChar {c d : Char} (hc : 128 ≤ c.toNat) (h : lowerChar c = [d]) :
    ¬ IsPlain d := by
  intro hd
  obtain ⟨hpos, hlt⟩ := hd.toNat_lt
  rw [lowerChar] at h
  split at h
  · cases h
  · split at h
    · next r hr =>
        obtain ⟨hmem, hfirst, hlast⟩ := CaseRun.of_find?_eq_some hr
        obtain rfl := List.singleton_inj.mp h
        rcases le_shift_of_mem_lowerRuns r hmem with hr | hr | rfl
        · omega
        · rcases toNat_ofNat_cases (c.toNat + r.shift).toNat with hcode | hcode <;> omega
        · have hkelvin : c.toNat = 0x212a := Nat.le_antisymm hlast hfirst
          rw [hkelvin] at hd
          exact absurd hd (by decide)
    · obtain rfl := List.singleton_inj.mp h
      omega

theorem lowerBetween_of_isPlain {cased : Bool} {c : Char} {after : List Char}
    (h : ∀ d ∈ lowerBetween cased c after, IsPlain d) :
    lowerBetween cased c after = [c.toLower] := by
  by_cases hc : c.toNat < 128
  · exact lowerBetween_of_lt hc cased after
  · -- beyond ASCII, one of the characters is not plain
    exfalso
    rw [lowerBetween] at h
    split at h
    · split at h
      · exact absurd (h 'ς' List.mem_cons_self) (by decide)
      · exact absurd (h 'σ' List.mem_cons_self) (by decide)
    · by_cases hdotted : c = 'İ'
      · rw [lowerChar, if_pos hdotted] at h
        exact absurd (h '\u0307' (List.mem_cons_of_mem _ List.mem_cons_self)) (by decide)
      · obtain ⟨d, hd⟩ : ∃ d, lowerChar c = [d] := by
          rw [lowerChar, if_neg hdotted]
          split
          · exact ⟨_, rfl⟩
          · exact ⟨_, rfl⟩
        rw [hd] at h
        exact not_isPlain_of_lowerChar (Nat.le_of_not_lt hc) hd (h d List.mem_cons_self)

theorem map_toLower_of_lowerAfter {before cs letters : List Char} (h : lowerAfter before cs = letters)
    (hletters : ∀ d ∈ letters, IsPlain d) : cs.map Char.toLower = letters := by
  induction cs generalizing before letters with
  | nil => exact h
  | cons c after ih =>
      rw [lowerAfter] at h
      subst h
      obtain ⟨hc, hafter⟩ := List.forall_mem_append.mp hletters
      rw [lowerBetween_of_isPlain hc, List.map_cons, ih rfl hafter, List.singleton_append]

/-- **Plain letters are the lower case of those letters only**, in either case. -/
theorem lowercase_eq_iff {cs letters : List Char} (h : ∀ d ∈ letters, IsPlain d) :
    lowercase cs = letters ↔ cs.map Char.toLower = letters := by
  rw [lowercase_eq]
  constructor
  · exact fun hcs => map_toLower_of_lowerAfter hcs h
  · rintro rfl
    refine lowerAfter_of_lt (fun c hc => ?_) []
    exact lt_of_toLower_lt (h c.toLower (List.mem_map_of_mem hc)).toNat_lt.2

/-- The Kelvin sign. -/
example : lowercase ['\u212a'] = ['k'] := by decide +kernel

end RegisterMachine.Text
