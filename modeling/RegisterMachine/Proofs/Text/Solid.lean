import Mathlib.Data.Bool.AllAny
import RegisterMachine.Proofs.Text.LetterCase
import RegisterMachine.Proofs.Text.Printing

/-!
# Proofs — Text — Solid text

A text is solid if it has no blanks in it.  The words of a line are solid, and stay so in lower case
(`isBlank_lowercase`), and printed numbers are solid too.  Solid texts that are joined by
single spaces can be told apart again (`eq_of_intercalate_eq`), and what they are joined to has no
line breaks (`notMem_intercalate`).
-/

namespace RegisterMachine.Text

/-- There are no blanks in the text. -/
def IsSolid (s : String) : Prop :=
  ∀ c ∈ s.toList, isBlank c = false

-- over the characters of the text, and not over all characters
instance (s : String) : Decidable (IsSolid s) :=
  List.decidableBAll _ s.toList

theorem isSolid_ofList {cs : List Char} :
    IsSolid (String.ofList cs) ↔ ∀ c ∈ cs, isBlank c = false := by
  rw [IsSolid, String.toList_ofList]

@[simp] theorem isSolid_append {s t : String} : IsSolid (s ++ t) ↔ IsSolid s ∧ IsSolid t := by
  rw [IsSolid, String.toList_append, List.forall_mem_append]
  rfl

theorem IsSolid.notMem {s : String} (h : IsSolid s) {c : Char} (hc : isBlank c = true) :
    c ∉ s.toList := by
  intro hmem
  simp [h c hmem] at hc

theorem IsSolid.notMem_newline {s : String} (h : IsSolid s) : '\n' ∉ s.toList :=
  h.notMem (by decide)

/-! ### Words and numbers -/

theorem isBlank_of_isWord {cs : List Char} (h : Statement.IsWord cs) :
    ∀ c ∈ cs, isBlank c = false := by
  intro c hc
  have hsep := (Statement.inWord_iff.mp (h.2 c hc)).2
  rw [Statement.isSeparator, Bool.or_eq_false_iff] at hsep
  exact hsep.2

@[simp] theorem isSolid_repr (n : Nat) : IsSolid n.repr :=
  isBlank_of_isWord ((denotes_toString n).isWord (by decide))

@[simp] theorem isSolid_zeroFilled (width n : Nat) : IsSolid (zeroFilled 10 width n) :=
  isBlank_of_isWord ((denotes_zeroFilled (by decide) (by decide) width n).isWord (by decide))

@[simp] theorem isSolid_bits (v : Int64) : IsSolid (bits v) :=
  isBlank_of_isWord ((denotes_bits v).isWord (by decide))

@[simp] theorem isSolid_decimal (v : Int64) : IsSolid (decimal v) :=
  isBlank_of_isWord (decimal_decimal v).isWord

/-! ### Lower case -/

/-- No run of the case table leads to a blank. -/
theorem shift_of_mem_lowerRuns : ∀ r ∈ lowerRuns, ∀ b ∈ blankRanges,
    (r.last + r.shift : Int) < b.first ∨ (b.last : Int) < r.first + r.shift := by
  decide +kernel

theorem isBlank_ofNat {r : CaseRun} (hr : r ∈ lowerRuns) {code : Nat} (hfirst : r.first ≤ code)
    (hlast : code ≤ r.last) : isBlank (Char.ofNat (code + r.shift).toNat) = false := by
  rw [isBlank, Bool.eq_false_iff]
  intro hblank
  obtain ⟨b, hb, hcode⟩ := (CodeRange.covers_iff blankRanges_sorted _).mp hblank
  obtain ⟨hlow, hhigh⟩ := hcode
  -- a number that is no code point makes the character zero, which is no blank either
  have hpos : 0 < b.first := (by decide : ∀ b ∈ blankRanges, 0 < b.first) b hb
  have hshift := shift_of_mem_lowerRuns r hr b hb
  rcases toNat_ofNat_cases (code + r.shift).toNat with h | h <;> omega

theorem isBlank_lowerChar {c : Char} (hc : isBlank c = false) :
    ∀ d ∈ lowerChar c, isBlank d = false := by
  rw [lowerChar]
  split
  · exact List.all_iff_forall_prop.mp (by decide)
  · split
    · next r hr =>
        obtain ⟨hmem, hfirst, hlast⟩ := CaseRun.of_find?_eq_some hr
        exact List.forall_mem_singleton.mpr (isBlank_ofNat hmem hfirst hlast)
    · exact List.forall_mem_singleton.mpr hc

theorem isBlank_lowerBetween {cased : Bool} {c : Char} {after : List Char}
    (hc : isBlank c = false) : ∀ d ∈ lowerBetween cased c after, isBlank d = false := by
  rw [lowerBetween]
  split
  · split <;> exact List.forall_mem_singleton.mpr (by decide)
  · exact isBlank_lowerChar hc

theorem isBlank_lowerAfter {cs : List Char} (h : ∀ c ∈ cs, isBlank c = false)
    (before : List Char) : ∀ d ∈ lowerAfter before cs, isBlank d = false := by
  induction cs generalizing before with
  | nil => exact nofun
  | cons c after ih =>
      obtain ⟨hc, hafter⟩ := List.forall_mem_cons.mp h
      rw [lowerAfter]
      exact List.forall_mem_append.mpr ⟨isBlank_lowerBetween hc, ih hafter _⟩

/-- **Lower case has no blanks** where there were none. -/
theorem isBlank_lowercase {cs : List Char} (h : ∀ c ∈ cs, isBlank c = false) :
    ∀ d ∈ lowercase cs, isBlank d = false := by
  rw [lowercase_eq]
  exact isBlank_lowerAfter h []

/-! ### Solid texts joined by spaces -/

theorem forall_mem_intercalate {p : Char → Prop} (hspace : p ' ') {ws : List String}
    (h : ∀ w ∈ ws, ∀ c ∈ w.toList, p c) : ∀ c ∈ (" ".intercalate ws).toList, p c := by
  induction ws with
  | nil => exact nofun
  | cons w ws ih =>
      obtain ⟨hw, hws⟩ := List.forall_mem_cons.mp h
      cases ws with
      | nil => rwa [String.intercalate_singleton]
      | cons w' ws =>
          rw [String.intercalate_cons_cons, String.toList_append, String.toList_append]
          refine List.forall_mem_append.mpr ⟨List.forall_mem_append.mpr ⟨hw, ?_⟩, ih hws⟩
          exact List.forall_mem_singleton.mpr hspace

theorem notMem_intercalate {ws : List String} (h : ∀ w ∈ ws, IsSolid w) :
    '\n' ∉ (" ".intercalate ws).toList := by
  intro hmem
  refine forall_mem_intercalate (p := (· ≠ '\n')) (by decide) ?_ '\n' hmem rfl
  rintro w hw c hc rfl
  exact (h w hw).notMem_newline hc

theorem splitOn_intercalate {ws : List String} (hne : ws ≠ []) (h : ∀ w ∈ ws, IsSolid w) :
    (" ".intercalate ws).toList.splitOn ' ' = ws.map String.toList := by
  rw [String.toList_intercalate]
  refine List.splitOn_intercalate ' ' ?_ (by simpa using hne)
  intro cs hcs hspace
  obtain ⟨w, hw, rfl⟩ := List.mem_map.mp hcs
  exact (h w hw).notMem (by decide) hspace

/-- **What was joined can be told apart.** -/
theorem eq_of_intercalate_eq {ws ws' : List String} (hne : ws ≠ []) (hne' : ws' ≠ [])
    (h : ∀ w ∈ ws, IsSolid w) (h' : ∀ w ∈ ws', IsSolid w)
    (heq : " ".intercalate ws = " ".intercalate ws') : ws = ws' := by
  have hsplit := splitOn_intercalate hne h
  rw [heq, splitOn_intercalate hne' h'] at hsplit
  exact (List.map_injective_iff.mpr fun _ _ => String.toList_inj.mp) hsplit.symm

end RegisterMachine.Text

namespace RegisterMachine.Statement

theorem Tokens.isWord {line : List Char} {tokens : List (List Char)} (h : Tokens line tokens) :
    ∀ token ∈ tokens, IsWord token := by
  induction h with
  | blank | comment => exact nofun
  | token _ htoken _ _ ih => exact List.forall_mem_cons.mpr ⟨htoken, ih⟩

/-- **The words of a statement are solid**, its name in lower case among them. -/
theorem isSolid_of_ofLine? {line : List Char} {st : Statement} (h : ofLine? line = some st) :
    Text.IsSolid st.opcode ∧ ∀ token ∈ st.operands, Text.IsSolid token := by
  obtain ⟨first, operands, hwords, rfl⟩ := ofLine?_eq_some_iff.mp h
  have hwords' := (tokens_words line).isWord
  rw [hwords] at hwords'
  obtain ⟨hfirst, hoperands⟩ := List.forall_mem_cons.mp hwords'
  refine ⟨Text.isSolid_ofList.mpr (Text.isBlank_lowercase (Text.isBlank_of_isWord hfirst)), ?_⟩
  intro token htoken
  obtain ⟨word, hword, rfl⟩ := List.mem_map.mp htoken
  exact Text.isSolid_ofList.mpr (Text.isBlank_of_isWord (hoperands word hword))

end RegisterMachine.Statement
