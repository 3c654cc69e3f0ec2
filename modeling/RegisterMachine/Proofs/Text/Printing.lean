import RegisterMachine.Proofs.Text.Numerals
import RegisterMachine.Proofs.Text.Words

/-!
# Proofs — Text — Printing

Numbers as they are printed.  What is printed is a numeral of the number (`denotes_toDigits`,
`decimal_decimal`, `denotes_bits`), and a numeral is a numeral of one number only
(`Denotes.unique`), so different numbers are printed differently: in decimal (`repr_inj`,
`decimal_inj`), and as their sixteen hexadecimal digits (`bits_inj`).  A numeral is a word, without
blanks, commas and semicolons (`Denotes.isWord`, `Decimal.isWord`).
-/

namespace RegisterMachine.Text

variable {base n d : Nat} {c : Char} {cs : List Char}

/-! ### Rows of digits -/

theorem isDigit_digitChar (hbase : base ≤ 16) (hd : d < base) :
    IsDigit base (Nat.digitChar d) d := by
  have hplace : ∀ d < 16, "0123456789abcdef".toList[d]? = some (Nat.digitChar d).toLower := by
    decide
  exact ⟨hd, hplace d (Nat.lt_of_lt_of_le hd hbase)⟩

theorem denotes_singleton (hc : IsDigit base c d) : Denotes base [c] d :=
  ⟨List.cons_ne_nil c [], [d], .cons hc .nil, Nat.ofDigits_singleton.symm⟩

/-- One more digit at the end. -/
theorem Denotes.concat (h : Denotes base cs n) (hc : IsDigit base c d) :
    Denotes base (cs ++ [c]) (d + base * n) := by
  obtain ⟨-, ds, hds, rfl⟩ := h
  refine ⟨List.concat_ne_nil c cs, ds ++ [d], List.rel_append hds (.cons hc .nil), ?_⟩
  rw [List.reverse_append, List.reverse_singleton, List.singleton_append, Nat.ofDigits_cons]

/-- Zeros in front. -/
theorem Denotes.replicate_append (hbase : 0 < base) (h : Denotes base cs n) (k : Nat) :
    Denotes base (List.replicate k '0' ++ cs) n := by
  obtain ⟨hne, ds, hds, rfl⟩ := h
  have hzero : IsDigit base '0' 0 := ⟨hbase, rfl⟩
  have hzeros : List.Forall₂ (IsDigit base) (List.replicate k '0') (List.replicate k 0) := by
    induction k with
    | zero => exact .nil
    | succ k ih => exact .cons hzero ih
  refine ⟨List.append_ne_nil_of_right_ne_nil _ hne, _, List.rel_append hzeros hds, ?_⟩
  rw [List.reverse_append, List.reverse_replicate, Nat.ofDigits_append, Nat.ofDigits_replicate_zero,
    Nat.mul_zero, Nat.add_zero]

/-- A row of digits denotes one number. -/
theorem Denotes.unique {m : Nat} (hbase : base ≤ 16) (h : Denotes base cs n)
    (h' : Denotes base cs m) : n = m := by
  have hn := (natural?_eq_some_iff hbase).mpr ⟨h, Nat.le_max_left n m⟩
  have hm := (natural?_eq_some_iff hbase).mpr ⟨h', Nat.le_max_right n m⟩
  exact Option.some.inj (hn.symm.trans hm)

/-- **The digits that are printed denote the number.** -/
theorem denotes_toDigits (hone : 1 < base) (hbase : base ≤ 16) (n : Nat) :
    Denotes base (Nat.toDigits base n) n := by
  induction n using Nat.strongRecOn with
  | ind n ih =>
      rw [Nat.toDigits_eq_if hone]
      split
      · next hn => exact denotes_singleton (isDigit_digitChar hbase hn)
      · next hn =>
          have hpos : 0 < n := by omega
          have hlast := Nat.mod_lt n (Nat.zero_lt_of_lt hone)
          have hdigits := (ih (n / base) (Nat.div_lt_self hpos hone)).concat
            (isDigit_digitChar hbase hlast)
          rwa [Nat.mod_add_div] at hdigits

/-! ### Printed numbers -/

theorem denotes_toString (n : Nat) : Denotes 10 (toString n).toList n := by
  rw [Nat.toString_eq_ofList_toDigits, String.toList_ofList]
  exact denotes_toDigits (by decide) (by decide) n

@[simp] theorem repr_inj {n m : Nat} : n.repr = m.repr ↔ n = m := by
  constructor
  · intro h
    have hn := denotes_toString n
    rw [Nat.toString_eq_repr, h, ← Nat.toString_eq_repr] at hn
    exact hn.unique (by decide) (denotes_toString m)
  · exact fun h => h ▸ rfl

theorem denotes_zeroFilled (hone : 1 < base) (hbase : base ≤ 16) (width n : Nat) :
    Denotes base (zeroFilled base width n).toList n := by
  rw [zeroFilled, String.toList_ofList]
  exact (denotes_toDigits hone hbase n).replicate_append (Nat.zero_lt_of_lt hone) _

theorem denotes_bits (v : Int64) : Denotes 16 (bits v).toList v.toUInt64.toNat :=
  denotes_zeroFilled (by decide) (by decide) 16 _

theorem decimal_decimal (v : Int64) : Decimal (decimal v).toList v.toInt := by
  rw [decimal, Int.toString_eq_repr, Int.repr_eq_if]
  split
  · next hv =>
      have hdigits := Decimal.plain (denotes_toString v.toInt.toNat)
      rwa [Int.toNat_of_nonneg hv] at hdigits
  · next hv =>
      have hdigits := Decimal.minus (denotes_toString (-v.toInt).toNat)
      rw [Int.toNat_of_nonneg (by omega), Int.neg_neg] at hdigits
      rwa [String.toList_append]

@[simp] theorem decimal_inj {v w : Int64} : decimal v = decimal w ↔ v = w := by
  constructor
  · intro h
    have hv := signed?_eq_some_iff.mpr (decimal_decimal v)
    have hw := signed?_eq_some_iff.mpr (decimal_decimal w)
    rw [h] at hv
    exact Option.some.inj (hv.symm.trans hw)
  · exact fun h => h ▸ rfl

@[simp] theorem bits_inj {v w : Int64} : bits v = bits w ↔ v = w := by
  constructor
  · intro h
    have hw := denotes_bits w
    rw [← h] at hw
    have hnat : v.toUInt64 = w.toUInt64 :=
      UInt64.toNat_inj.mp ((denotes_bits v).unique (by decide) hw)
    rw [← v.toInt64_toUInt64, hnat, w.toInt64_toUInt64]
  · exact fun h => h ▸ rfl

/-- The bits of all numbers have the same width. -/
theorem length_bits (v : Int64) : (bits v).toList.length = 16 := by
  have hlt : v.toUInt64.toNat < 16 ^ 16 := v.toUInt64.toNat_lt
  have hdigits := (Nat.length_toDigits_le_iff (by decide) (by decide)).mpr hlt
  rw [bits, zeroFilled, String.toList_ofList, List.length_leftpad]
  exact Nat.max_eq_left hdigits

end RegisterMachine.Text

/-! ### Numerals are words -/

namespace RegisterMachine

open Statement (inWord IsWord)

variable {base n : Nat} {cs : List Char}

theorem Text.IsDigit.inWord {d : Nat} {c : Char} (h : IsDigit base c d) (hbase : base ≤ 16) :
    inWord c = true := by
  have hascii : ∀ c : Char, c.toNat < 128 → ∀ d < 16, IsDigit 16 c d → Statement.inWord c = true :=
    fun _ => forall_ascii (p := fun c => ∀ d < 16, IsDigit 16 c d → Statement.inWord c = true)
      (by decide +kernel)
  have hd := Nat.lt_of_lt_of_le h.1 hbase
  exact hascii c h.toNat_lt d hd ⟨hd, h.2⟩

theorem Text.Denotes.isWord (h : Denotes base cs n) (hbase : base ≤ 16) : IsWord cs := by
  refine ⟨h.1, fun c hc => ?_⟩
  obtain ⟨d, hd⟩ := h.exists_isDigit c hc
  exact hd.inWord hbase

theorem Text.Decimal.isWord {z : Int} (h : Decimal cs z) : IsWord cs := by
  cases h with
  | plain h => exact h.isWord (by decide)
  | plus h | minus h =>
      refine ⟨List.cons_ne_nil _ _, List.forall_mem_cons.mpr ⟨by decide, ?_⟩⟩
      exact (h.isWord (by decide)).2

end RegisterMachine
