import RegisterMachine.Proofs.Machine.Decoding
import RegisterMachine.Proofs.Machine.Layout
import RegisterMachine.Proofs.Text.Printing

/-!
# Proofs — Machine — Writing

Every instruction can be written in source text, except for those whose source is nothing that can
be read.  It is written as its name and its operands, with separators between them
(`Instruction.WrittenOn`): registers by name, addresses in brackets and numbers in decimal, or in
hexadecimal if they are not negative.  Whatever is written like that is decoded to the instruction
that it was written for (`instructions_expressible`).

There are two things to see.  An operand, as it is written, is read as what it is
(`Operand.Printed.read_eq`), also at the ends of the range of numbers.  And it is one word
(`Operand.Printed.isWord`): it has no character that would cut it in two or begin a comment, so that
the words of the line are those that were put there (`Statement.Spaced.words_eq`).
-/

namespace RegisterMachine

open Statement (IsWord)
open Text (Denotes)

/-! ### How instructions are written -/

/-- A destination as it is written. -/
def Destination.text : Destination → String
  | register r => r.name
  | memory a   => a.text

/-- How an operand is written.  A number that is not negative has a second form, `0x` and
hexadecimal digits, which may be capitals and have zeros in front. -/
inductive Operand.Printed : Operand → String → Prop where
  | register (r : Register) : Printed (.register r) r.name
  | memory (a : Address) : Printed (.memory a) a.text
  | decimal (v : Int64) : Printed (.immediate v) (Text.decimal v)
  | hexadecimal {v : Int64} {n : Nat} {digits : List Char} (hdigits : Denotes 16 digits n)
      (hv : v.toInt = n) : Printed (.immediate v) ("0x" ++ String.ofList digits)

/-- The operands of an instruction as they are written, in their order. -/
inductive Instruction.PrintedOperands : Instruction → List String → Prop where
  | mov (dst : Destination) {src : Operand} {token : String} (h : src.Printed token) :
      PrintedOperands (.mov dst src) [dst.text, token]
  | add (dst : Register) {src : Operand} {token : String} (h : src.Printed token) :
      PrintedOperands (.add dst src) [dst.name, token]
  | sub (dst : Register) {src : Operand} {token : String} (h : src.Printed token) :
      PrintedOperands (.sub dst src) [dst.name, token]
  | push {src : Operand} {token : String} (h : src.Printed token) :
      PrintedOperands (.push src) [token]
  | pop (dst : Register) : PrintedOperands (.pop dst) [dst.name]

/-- Tokens in a row.  Between any two of them there are separators, at least one. -/
inductive Statement.Spaced : List (List Char) → List Char → Prop where
  | last (token : List Char) : Spaced [token] token
  | cons {gap rest : List Char} {tokens : List (List Char)} (token : List Char)
      (hgap : ∀ c ∈ gap, isSeparator c = true) (hne : gap ≠ []) (h : Spaced tokens rest) :
      Spaced (token :: tokens) (token ++ (gap ++ rest))

/-- The instruction is written on the line: its name, in letters of either case, and its
operands. -/
inductive Instruction.WrittenOn (i : Instruction) : List Char → Prop where
  | intro {word : List Char} {operands : List String} {line : List Char}
      (hword : i.opcode.IsNamed word) (hoperands : i.PrintedOperands operands)
      (hline : Statement.Spaced (word :: operands.map String.toList) line) : WrittenOn i line

/-! ### Tokens in a row -/

namespace Statement

theorem Spaced.words_eq {tokens : List (List Char)} {line : List Char} (h : Spaced tokens line)
    (htokens : ∀ token ∈ tokens, IsWord token) : words line = tokens := by
  induction h with
  | last token =>
      have hend : ∀ c ∈ ([] : List Char).head?, inWord c = false := nofun
      have hwords := words_append_word (htokens token List.mem_cons_self) hend
      rwa [List.append_nil] at hwords
  | @cons gap rest tokens token hgap hne _ ih =>
      obtain ⟨htoken, htokens⟩ := List.forall_mem_cons.mp htokens
      -- the token ends where the separators begin
      have hend : ∀ c ∈ (gap ++ rest).head?, inWord c = false := by
        obtain ⟨c, gap, rfl⟩ := List.exists_cons_of_ne_nil hne
        rintro _ ⟨rfl⟩
        simp [inWord, hgap c List.mem_cons_self]
      rw [words_append_word htoken hend, words_append_gap hgap, ih htokens]

/-- Any tokens can be put in a row. -/
theorem exists_spaced (token : List Char) (tokens : List (List Char)) :
    ∃ line, Spaced (token :: tokens) line := by
  induction tokens generalizing token with
  | nil => exact ⟨_, .last token⟩
  | cons token' tokens ih =>
      obtain ⟨line, hline⟩ := ih token'
      have hcomma : ∀ c ∈ [','], isSeparator c = true := List.forall_mem_singleton.mpr (by decide)
      exact ⟨_, .cons token hcomma (by decide) hline⟩

end Statement

/-! ### Names and addresses -/

theorem Register.isWord_name (r : Register) : IsWord r.name.toList := by
  cases r <;> exact ⟨by decide, List.all_iff_forall_prop.mp (by decide)⟩

instance (op : Opcode) (word : List Char) : Decidable (op.IsNamed word) :=
  inferInstanceAs (Decidable (_ = _))

theorem Opcode.isNamed_mnemonic (op : Opcode) : op.IsNamed op.mnemonic.toList := by
  cases op <;> decide

theorem Opcode.IsNamed.isWord {op : Opcode} {word : List Char} (h : op.IsNamed word) :
    IsWord word := by
  have hletters : ∀ c ∈ op.mnemonic.toList, Statement.inWord c = true := by
    cases op <;> exact List.all_iff_forall_prop.mp (by decide)
  have hcase : word.map Char.toLower = op.mnemonic.toList.map Char.toLower :=
    Eq.trans h op.isNamed_mnemonic.symm
  refine ⟨?_, Statement.forall_inWord_of_map_toLower hletters hcase⟩
  rintro rfl
  cases op <;> exact absurd h (by decide)

theorem isWord_brackets {inner : String} (h : IsWord inner.toList) :
    IsWord ("[" ++ inner ++ "]").toList := by
  rw [toList_brackets]
  refine ⟨List.cons_ne_nil _ _, List.forall_mem_cons.mpr ⟨by decide, ?_⟩⟩
  exact List.forall_mem_append.mpr ⟨h.2, List.forall_mem_singleton.mpr (by decide)⟩

/-- What an address is written as is that address, and is one word. -/
theorem Address.text_spec (a : Address) :
    (∃ inner, a.text = "[" ++ inner ++ "]" ∧ a.Written inner) ∧ IsWord a.text.toList := by
  cases a with
  | register r => exact ⟨⟨r.name, rfl, rfl⟩, isWord_brackets r.isWord_name⟩
  | absolute n =>
      have hn := Text.decimal_decimal n
      exact ⟨⟨Text.decimal n, rfl, hn⟩, isWord_brackets hn.isWord⟩

namespace Destination

theorem written_text (d : Destination) : d.Written d.text := by
  cases d with
  | register r => exact rfl
  | memory a => exact a.text_spec.1

theorem isWord_text (d : Destination) : IsWord d.text.toList := by
  cases d with
  | register r => exact r.isWord_name
  | memory a => exact a.text_spec.2

end Destination

/-! ### Operands -/

theorem toList_hexadecimal (digits : List Char) :
    ("0x" ++ String.ofList digits).toList = '0' :: 'x' :: digits := by
  have hdigits : (String.ofList digits).toList = digits := String.toList_ofList
  rw [String.toList_append, hdigits]
  rfl

namespace Operand.Printed

variable {o : Operand} {token : String}

/-- **An operand is read as it was written.** -/
theorem read_eq (h : o.Printed token) : Operand.read token = o := by
  cases h with
  | register r => exact Operand.read_name r
  | memory a => exact Operand.read_eq_memory_iff.mpr a.text_spec.1
  | decimal v => exact Operand.read_eq_immediate_iff.mpr (.decimal (Text.decimal_decimal v))
  | hexadecimal hdigits hv =>
      rw [Operand.read_eq_immediate_iff, hv, toList_hexadecimal]
      exact .hexadecimal hdigits

/-- **An operand is written as one word.** -/
theorem isWord (h : o.Printed token) : IsWord token.toList := by
  cases h with
  | register r => exact r.isWord_name
  | memory a => exact a.text_spec.2
  | decimal v => exact (Text.decimal_decimal v).isWord
  | hexadecimal hdigits _ =>
      rw [toList_hexadecimal]
      refine ⟨List.cons_ne_nil _ _, List.forall_mem_cons.mpr ⟨by decide, ?_⟩⟩
      exact List.forall_mem_cons.mpr ⟨by decide, (hdigits.isWord (by decide)).2⟩

end Operand.Printed

/-- Every number that is not negative has a hexadecimal form. -/
theorem Operand.printed_toDigits {v : Int64} (hv : 0 ≤ v.toInt) :
    (Operand.immediate v).Printed ("0x" ++ String.ofList (Nat.toDigits 16 v.toInt.toNat)) :=
  .hexadecimal (Text.denotes_toDigits (by decide) (by decide) _) (Int.toNat_of_nonneg hv).symm

theorem Operand.exists_printed {o : Operand} (h : ∀ f, o ≠ .malformed f) :
    ∃ token, o.Printed token := by
  cases o with
  | register r => exact ⟨_, .register r⟩
  | memory a => exact ⟨_, .memory a⟩
  | immediate v => exact ⟨_, .decimal v⟩
  | malformed f => exact absurd rfl (h f)

/-! ### Instructions -/

namespace Instruction

variable {i : Instruction} {operands : List String}

theorem PrintedOperands.isWord (h : i.PrintedOperands operands) :
    ∀ token ∈ operands.map String.toList, IsWord token := by
  cases h with
  | mov dst h => simp [dst.isWord_text, h.isWord]
  | add dst h | sub dst h => simp [dst.isWord_name, h.isWord]
  | push h => simp [h.isWord]
  | pop dst => simp [dst.isWord_name]

/-- The operands of an instruction make up that instruction, behind its name. -/
theorem PrintedOperands.decodes (h : i.PrintedOperands operands) {word : List Char}
    (hword : i.opcode.IsNamed word) : Decodes word operands (.ok i) := by
  cases h with
  | mov dst h => exact h.read_eq ▸ .mov hword dst.written_text
  | add dst h => exact h.read_eq ▸ .add hword
  | sub dst h => exact h.read_eq ▸ .sub hword
  | push h => exact h.read_eq ▸ .push hword
  | pop dst => exact .pop hword

theorem exists_printedOperands (h : ∀ f, i.source? ≠ some (.malformed f)) :
    ∃ operands, i.PrintedOperands operands := by
  have hsrc : ∀ src, i.source? = some src → ∃ token, src.Printed token := by
    intro src hi
    exact Operand.exists_printed fun f hf => h f (hf ▸ hi)
  cases i with
  | mov dst src =>
      obtain ⟨token, htoken⟩ := hsrc src rfl
      exact ⟨_, .mov dst htoken⟩
  | add dst src =>
      obtain ⟨token, htoken⟩ := hsrc src rfl
      exact ⟨_, .add dst htoken⟩
  | sub dst src =>
      obtain ⟨token, htoken⟩ := hsrc src rfl
      exact ⟨_, .sub dst htoken⟩
  | push src =>
      obtain ⟨token, htoken⟩ := hsrc src rfl
      exact ⟨_, .push htoken⟩
  | pop dst => exact ⟨_, .pop dst⟩

theorem exists_writtenOn (h : ∀ f, i.source? ≠ some (.malformed f)) :
    ∃ line, i.WrittenOn line := by
  obtain ⟨operands, hoperands⟩ := exists_printedOperands h
  obtain ⟨line, hline⟩ := Statement.exists_spaced i.opcode.mnemonic.toList
    (operands.map String.toList)
  exact ⟨line, .intro i.opcode.isNamed_mnemonic hoperands hline⟩

end Instruction

/-- **Source text can express every instruction** whose source is one that can be read.  There is a
line that it is written on, and any line that it is written on holds a statement, which is decoded
to that instruction. -/
theorem instructions_expressible (i : Instruction) (h : ∀ f, i.source? ≠ some (.malformed f)) :
    (∃ line, i.WrittenOn line) ∧
    ∀ line, i.WrittenOn line →
      ∃ st, Statement.ofLine? line = some st ∧ st.instruction = .ok i := by
  refine ⟨Instruction.exists_writtenOn h, ?_⟩
  rintro line ⟨hword, hoperands, hline⟩
  have hwords := hline.words_eq (List.forall_mem_cons.mpr ⟨hword.isWord, hoperands.isWord⟩)
  refine ⟨_, Statement.ofLine?_eq_some_iff.mpr ⟨_, _, hwords, rfl⟩, ?_⟩
  have htokens : String.ofList ∘ String.toList = id := by
    ext token
    simp
  rw [List.map_map, htokens, List.map_id]
  exact Statement.instruction_eq_iff.mpr (hoperands.decodes hword)

/-- The least address, and a number in hexadecimal digits of both cases. -/
theorem instructions_expressible_least :
    (∀ f, (Instruction.mov (.memory (.absolute Int64.minValue)) (.immediate 255)).source? ≠
      some (.malformed f)) ∧
    (Instruction.mov (.memory (.absolute Int64.minValue)) (.immediate 255)).WrittenOn
      "MoV [-9223372036854775808],\t0x0fF".toList ∧
    ∃ st, Statement.ofLine? "MoV [-9223372036854775808],\t0x0fF".toList = some st ∧
      st.instruction = .ok (.mov (.memory (.absolute Int64.minValue)) (.immediate 255)) := by
  have hsource : ∀ f, (Instruction.mov (.memory (.absolute Int64.minValue))
      (.immediate 255)).source? ≠ some (.malformed f) := nofun
  have hdigits : Denotes 16 "0fF".toList 255 :=
    ⟨by decide, [0, 15, 15], .cons (by decide) (.cons (by decide) (.cons (by decide) .nil)), rfl⟩
  have hwritten : (Instruction.mov (.memory (.absolute Int64.minValue)) (.immediate 255)).WrittenOn
      "MoV [-9223372036854775808],\t0x0fF".toList := by
    have hspace : ∀ c ∈ [' '], Statement.isSeparator c = true :=
      List.all_iff_forall_prop.mp (by decide)
    have hcomma : ∀ c ∈ [',', '\t'], Statement.isSeparator c = true :=
      List.all_iff_forall_prop.mp (by decide)
    have hname : Opcode.mov.IsNamed "MoV".toList := by decide
    refine .intro hname (.mov _ (.hexadecimal hdigits rfl)) ?_
    exact .cons _ hspace (by decide) (.cons _ hcomma (by decide) (.last _))
  exact ⟨hsource, hwritten, (instructions_expressible _ hsource).2 _ hwritten⟩

end RegisterMachine
