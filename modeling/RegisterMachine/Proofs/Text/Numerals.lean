import Mathlib.Data.Bool.AllAny
import Mathlib.Data.List.Forall2
import Mathlib.Data.Nat.Digits.Defs
import RegisterMachine.Proofs.Text.LetterCase
import RegisterMachine.Text.Numeral

/-!
# Proofs — Text — Numerals

What the readers of numerals accept, and which number it is.  A row of digits denotes the sum of the
digits times the powers of the base (`Denotes`), and the reader gives this number, or nothing if it
is above the limit; that it gives up on the way makes no difference, since a number that is too
great stays so with every further digit (`natural?_eq_some_iff`).

* `signed?_eq_some_iff`: a decimal numeral of a signed 64-bit number may have either sign, and
  any number of zeros in front.
* `hexadecimal?_eq_some_iff`: hexadecimal digits have no sign.
-/

namespace RegisterMachine.Text

/-! ### Digits -/

/-- The character is the digit `d`: this is its place in the row of all digits.  Letters may have
either case. -/
def IsDigit (base : Nat) (c : Char) (d : Nat) : Prop :=
  d < base ∧ "0123456789abcdef".toList[d]? = some c.toLower

instance (base : Nat) (c : Char) (d : Nat) : Decidable (IsDigit base c d) :=
  inferInstanceAs (Decidable (_ ∧ _))

theorem IsDigit.toNat_lt {base d : Nat} {c : Char} (h : IsDigit base c d) : c.toNat < 128 := by
  have hmem : c.toLower ∈ "0123456789abcdef".toList := List.mem_of_getElem? h.2
  have hascii : ∀ c ∈ "0123456789abcdef".toList, c.toNat < 128 :=
    List.all_iff_forall_prop.mp (by decide)
  exact lt_of_toLower_lt (hascii _ hmem)

theorem digit?_of_le {c : Char} (hc : 128 ≤ c.toNat) (base : Nat) : digit? base c = none := by
  have hbelow : ∀ d : Char, d.toNat < 128 → ¬ c ≤ d := by
    intro d hd hle
    have hcd : c.toNat ≤ d.toNat := hle
    omega
  have hnine := hbelow '9' (by decide)
  have hsmall := hbelow 'z' (by decide)
  have hgreat := hbelow 'Z' (by decide)
  simp [digit?, hnine, hsmall, hgreat]

theorem digit?_sixteen_of_lt {c : Char} (hc : c.toNat < 128) :
    ∀ d < 16, digit? 16 c = some d ↔ IsDigit 16 c d :=
  forall_ascii (p := fun c => ∀ d < 16, digit? 16 c = some d ↔ IsDigit 16 c d)
    (by decide +kernel) hc

/-- A smaller base has the digits that are smaller. -/
theorem digit?_eq_some_iff_sixteen {base : Nat} (hbase : base ≤ 16) (c : Char) (d : Nat) :
    digit? base c = some d ↔ d < base ∧ digit? 16 c = some d := by
  simp only [digit?, Option.ite_none_right_eq_some, Option.some.injEq]
  split_ifs <;> omega

theorem digit?_eq_some_iff {base : Nat} (hbase : base ≤ 16) {c : Char} {d : Nat} :
    digit? base c = some d ↔ IsDigit base c d := by
  rw [digit?_eq_some_iff_sixteen hbase]
  by_cases hc : c.toNat < 128
  · constructor
    · rintro ⟨hd, h⟩
      exact ⟨hd, ((digit?_sixteen_of_lt hc d (by omega)).mp h).2⟩
    · rintro ⟨hd, h⟩
      exact ⟨hd, (digit?_sixteen_of_lt hc d (by omega)).mpr ⟨by omega, h⟩⟩
  · rw [digit?_of_le (Nat.le_of_not_lt hc)]
    constructor
    · exact fun h => nomatch h.2
    · exact fun h => absurd (IsDigit.toNat_lt h) hc

/-! ### Rows of digits -/

/-- The characters are digits, the most significant of them first, and denote the number. -/
def Denotes (base : Nat) (cs : List Char) (n : Nat) : Prop :=
  cs ≠ [] ∧ ∃ ds, List.Forall₂ (IsDigit base) cs ds ∧ n = Nat.ofDigits base ds.reverse

theorem Denotes.exists_isDigit {base n : Nat} {cs : List Char} (h : Denotes base cs n) :
    ∀ c ∈ cs, ∃ d, IsDigit base c d := by
  obtain ⟨-, ds, hds, -⟩ := h
  induction hds with
  | nil => exact nofun
  | cons hd _ ih => exact List.forall_mem_cons.mpr ⟨⟨_, hd⟩, ih⟩

/-- One more digit. -/
def appendDigit (base acc d : Nat) : Nat :=
  acc * base + d

theorem le_foldl_appendDigit {base : Nat} (hbase : 0 < base) (ds : List Nat) (acc : Nat) :
    acc ≤ ds.foldl (appendDigit base) acc := by
  induction ds generalizing acc with
  | nil => exact Nat.le_refl acc
  | cons d ds ih =>
      calc
        acc ≤ acc * base := Nat.le_mul_of_pos_right acc hbase
        _ ≤ appendDigit base acc d := Nat.le_add_right _ d
        _ ≤ _ := ih _

theorem foldl_appendDigit_eq (base : Nat) (ds : List Nat) :
    ds.foldl (appendDigit base) 0 = Nat.ofDigits base ds.reverse := by
  have happend : appendDigit base = fun acc d => (d : Nat) + base * acc := by
    funext acc d
    rw [appendDigit, Nat.mul_comm, Nat.add_comm]
  rw [Nat.ofDigits_eq_foldr, List.foldr_reverse, happend]
  rfl

theorem readDigits_eq_some_iff {base : Nat} (hbase : base ≤ 16) {limit acc n : Nat}
    (hacc : acc ≤ limit) {cs : List Char} :
    readDigits base limit acc cs = some n ↔
      ∃ ds, List.Forall₂ (IsDigit base) cs ds ∧ ds.foldl (appendDigit base) acc = n ∧
        n ≤ limit := by
  induction cs generalizing acc with
  | nil =>
      simp only [readDigits, Option.some.injEq, List.forall₂_nil_left_iff, exists_eq_left,
        List.foldl_nil]
      exact ⟨fun h => ⟨h, h ▸ hacc⟩, fun h => h.1⟩
  | cons c cs ih =>
      simp only [List.forall₂_cons_left_iff]
      rw [readDigits]
      split
      · next hc =>
          refine ⟨nofun, ?_⟩
          rintro ⟨_, ⟨d, ds, hd, -, rfl⟩, -⟩
          rw [(digit?_eq_some_iff hbase).mpr hd] at hc
          cases hc
      · next d hc =>
          have hd := (digit?_eq_some_iff hbase).mp hc
          have hunique : ∀ d', IsDigit base c d' → d' = d := fun d' hd' =>
            Option.some.inj (((digit?_eq_some_iff hbase).mpr hd').symm.trans hc)
          split
          · next hle =>
              rw [ih hle]
              constructor
              · rintro ⟨ds, hds, hn⟩
                exact ⟨d :: ds, ⟨d, ds, hd, hds, rfl⟩, hn⟩
              · rintro ⟨_, ⟨d', ds, hd', hds, rfl⟩, hn⟩
                obtain rfl := hunique d' hd'
                exact ⟨ds, hds, hn⟩
          · next hlt =>
              -- what is read already is too great, and will not become smaller
              refine ⟨nofun, ?_⟩
              rintro ⟨_, ⟨d', ds, hd', -, rfl⟩, rfl, hn⟩
              obtain rfl := hunique d' hd'
              have hpos : 0 < base := Nat.lt_of_le_of_lt (Nat.zero_le d') hd.1
              have hgrows := le_foldl_appendDigit hpos ds (appendDigit base acc d')
              exact absurd (Nat.le_trans hgrows hn) hlt

/-- **Digits are read with the number that they denote.** -/
theorem natural?_eq_some_iff {base : Nat} (hbase : base ≤ 16) {limit n : Nat} {cs : List Char} :
    natural? base limit cs = some n ↔ Denotes base cs n ∧ n ≤ limit := by
  cases cs with
  | nil => exact ⟨nofun, fun h => absurd rfl h.1.1⟩
  | cons c cs =>
      rw [natural?, readDigits_eq_some_iff hbase (Nat.zero_le limit)]
      simp only [foldl_appendDigit_eq]
      constructor
      · rintro ⟨ds, hds, rfl, hn⟩
        exact ⟨⟨nofun, ds, hds, rfl⟩, hn⟩
      · rintro ⟨⟨-, ds, hds, rfl⟩, hn⟩
        exact ⟨ds, hds, rfl, hn⟩

/-! ### Signed numbers -/

theorem map_ofNat_natural?_eq_some_iff {base : Nat} (hbase : base ≤ 16) {cs : List Char}
    {v : Int64} :
    (natural? base int64Max cs).map Int64.ofNat = some v ↔
      ∃ n : Nat, Denotes base cs n ∧ v.toInt = n := by
  have htoInt : ∀ n ≤ int64Max, (Int64.ofNat n).toInt = n := fun n hn =>
    Int64.toInt_ofNat_of_lt (Nat.lt_succ_of_le hn)
  simp only [Option.map_eq_some_iff, natural?_eq_some_iff hbase]
  constructor
  · rintro ⟨n, ⟨hn, hle⟩, rfl⟩
    exact ⟨n, hn, htoInt n hle⟩
  · rintro ⟨n, hn, hv⟩
    have hle : n ≤ int64Max := by
      have hlt := v.toInt_lt
      rw [int64Max]
      omega
    exact ⟨n, ⟨hn, hle⟩, Int64.toInt_inj.mp ((htoInt n hle).trans hv.symm)⟩

theorem map_neg_ofNat_natural?_eq_some_iff {cs : List Char} {v : Int64} :
    (natural? 10 (int64Max + 1) cs).map (fun n => -Int64.ofNat n) = some v ↔
      ∃ n : Nat, Denotes 10 cs n ∧ v.toInt = -n := by
  have htoInt : ∀ n ≤ int64Max + 1, (-Int64.ofNat n).toInt = -n := by
    intro n hn
    rw [int64Max] at hn
    rw [← Int64.ofInt_eq_ofNat, ← Int64.ofInt_neg]
    exact Int64.toInt_ofInt_of_le (by omega) (by omega)
  have hbase : 10 ≤ 16 := by decide
  simp only [Option.map_eq_some_iff, natural?_eq_some_iff hbase]
  constructor
  · rintro ⟨n, ⟨hn, hle⟩, rfl⟩
    exact ⟨n, hn, htoInt n hle⟩
  · rintro ⟨n, hn, hv⟩
    have hle : n ≤ int64Max + 1 := by
      have hlow := v.le_toInt
      rw [int64Max]
      omega
    exact ⟨n, ⟨hn, hle⟩, Int64.toInt_inj.mp ((htoInt n hle).trans hv.symm)⟩

/-- A decimal numeral: one digit or more, behind a sign or none. -/
inductive Decimal : List Char → Int → Prop where
  | plain {cs : List Char} {n : Nat} (h : Denotes 10 cs n) : Decimal cs n
  | plus {cs : List Char} {n : Nat} (h : Denotes 10 cs n) : Decimal ('+' :: cs) n
  | minus {cs : List Char} {n : Nat} (h : Denotes 10 cs n) : Decimal ('-' :: cs) (-n)

/-- A numeral that does not begin with a sign begins with a digit. -/
theorem not_denotes_cons {base n : Nat} {c : Char} (h : ∀ d < base, ¬ IsDigit base c d)
    (cs : List Char) : ¬ Denotes base (c :: cs) n := by
  intro hn
  obtain ⟨d, hd⟩ := hn.exists_isDigit c List.mem_cons_self
  exact h d hd.1 hd

theorem decimal_plus_iff {cs : List Char} {z : Int} :
    Decimal ('+' :: cs) z ↔ ∃ n : Nat, Denotes 10 cs n ∧ z = n := by
  constructor
  · intro h
    cases h with
    | plain h => exact absurd h (not_denotes_cons (by decide) cs)
    | plus h => exact ⟨_, h, rfl⟩
  · rintro ⟨n, h, rfl⟩
    exact .plus h

theorem decimal_minus_iff {cs : List Char} {z : Int} :
    Decimal ('-' :: cs) z ↔ ∃ n : Nat, Denotes 10 cs n ∧ z = -n := by
  constructor
  · intro h
    cases h with
    | plain h => exact absurd h (not_denotes_cons (by decide) cs)
    | minus h => exact ⟨_, h, rfl⟩
  · rintro ⟨n, h, rfl⟩
    exact .minus h

theorem decimal_iff_of_head {cs : List Char} {z : Int} (hplus : ∀ cs', cs ≠ '+' :: cs')
    (hminus : ∀ cs', cs ≠ '-' :: cs') : Decimal cs z ↔ ∃ n : Nat, Denotes 10 cs n ∧ z = n := by
  constructor
  · intro h
    cases h with
    | plain h => exact ⟨_, h, rfl⟩
    | plus => exact absurd rfl (hplus _)
    | minus => exact absurd rfl (hminus _)
  · rintro ⟨n, h, rfl⟩
    exact .plain h

/-- **Decimal numerals are read exactly**, over all of the signed 64-bit numbers. -/
theorem signed?_eq_some_iff {cs : List Char} {v : Int64} :
    signed? cs = some v ↔ Decimal cs v.toInt := by
  rw [signed?.eq_def]
  split
  · rw [map_ofNat_natural?_eq_some_iff (by decide), decimal_plus_iff]
  · rw [map_neg_ofNat_natural?_eq_some_iff, decimal_minus_iff]
  · next hplus hminus =>
      rw [map_ofNat_natural?_eq_some_iff (by decide), decimal_iff_of_head hplus hminus]

/-- **Hexadecimal digits are read exactly.** -/
theorem hexadecimal?_eq_some_iff {cs : List Char} {v : Int64} :
    hexadecimal? cs = some v ↔ ∃ n : Nat, Denotes 16 cs n ∧ v.toInt = n :=
  map_ofNat_natural?_eq_some_iff (by decide)

end RegisterMachine.Text
