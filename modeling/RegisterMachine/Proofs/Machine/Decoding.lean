import Mathlib.Data.Bool.AllAny
import RegisterMachine.Statement
import RegisterMachine.Proofs.Machine.Operands
import RegisterMachine.Proofs.Text.LetterCase
import RegisterMachine.Proofs.Text.Words

/-!
# Proofs — Machine — Decoding

The grammar of a line.  The first token names an instruction, in letters of either case, and the
others are its operands; which of them there must be is said by `Decodes`, together with the one
fault that is reported where they are not.  Faults have an order: an unknown name is reported
whatever follows it, a wrong number of operands whatever they are, and a bad destination whatever
the source is; a bad source is none of them.

Every line is decoded as the grammar says (`lines_decoded_by_grammar`).  The letters of the names
lie in ASCII, and no other character becomes one of them in lower case
(`Opcode.ofMnemonic?_lowercase_eq_some_iff`).
-/

namespace RegisterMachine

/-! ### The grammar -/

/-- The word is the name of the instruction, in letters of either case. -/
def Opcode.IsNamed (op : Opcode) (word : List Char) : Prop :=
  word.map Char.toLower = op.mnemonic.toList

/-- A destination as it stands in a line: the name of a register, or an address in brackets. -/
def Destination.Written (token : String) : Destination → Prop
  | register r => token = r.name
  | memory a   => ∃ inner, token = "[" ++ inner ++ "]" ∧ a.Written inner

/-- What a line is decoded to, if `first` is its first token and the others are as listed. -/
inductive Decodes (first : List Char) : List String → Except Fault Instruction → Prop where
  /-- The first token is the name of no instruction. -/
  | unknown {operands : List String} (h : ∀ op : Opcode, ¬ op.IsNamed first) :
      Decodes first operands
        (.error (.unknownInstruction (String.ofList (Text.lowercase first))))
  /-- There are too many operands, or too few. -/
  | arity {op : Opcode} {operands : List String} (hop : op.IsNamed first)
      (h : operands.length ≠ op.arity) :
      Decodes first operands (.error (.wrongArity op.name op.arity operands.length))
  /-- The place to move to is bracketed, and what the brackets hold is no address. -/
  | reference {dst src inner : String} (hop : Opcode.mov.IsNamed first)
      (hdst : dst = "[" ++ inner ++ "]") (h : ∀ a : Address, ¬ a.Written inner) :
      Decodes first [dst, src] (.error (.invalidReference dst))
  /-- The place to move to is no register, and it is not bracketed. -/
  | destination {dst src : String} (hop : Opcode.mov.IsNamed first)
      (hname : ∀ r : Register, dst ≠ r.name) (hbrackets : ∀ inner, dst ≠ "[" ++ inner ++ "]") :
      Decodes first [dst, src] (.error (.invalidDestination dst))
  /-- An instruction that writes to a register is given none. -/
  | register {op : Opcode} {dst : String} {operands : List String} (hop : op.IsNamed first)
      (hwrites : op ∈ [Opcode.add, .sub, .pop]) (hlength : (dst :: operands).length = op.arity)
      (hname : ∀ r : Register, dst ≠ r.name) :
      Decodes first (dst :: operands) (.error (.invalidDestinationRegister dst))
  | mov {dst src : String} {d : Destination} (hop : Opcode.mov.IsNamed first)
      (hdst : d.Written dst) : Decodes first [dst, src] (.ok (.mov d (Operand.read src)))
  | add {r : Register} {src : String} (hop : Opcode.add.IsNamed first) :
      Decodes first [r.name, src] (.ok (.add r (Operand.read src)))
  | sub {r : Register} {src : String} (hop : Opcode.sub.IsNamed first) :
      Decodes first [r.name, src] (.ok (.sub r (Operand.read src)))
  | push {src : String} (hop : Opcode.push.IsNamed first) :
      Decodes first [src] (.ok (.push (Operand.read src)))
  | pop {r : Register} (hop : Opcode.pop.IsNamed first) : Decodes first [r.name] (.ok (.pop r))

/-! ### Names -/

theorem Opcode.isPlain_mnemonic (op : Opcode) : ∀ c ∈ op.mnemonic.toList, Text.IsPlain c := by
  cases op <;> exact List.all_iff_forall_prop.mp (by decide)

/-- **A name is known by its letters**, whatever case they have. -/
theorem Opcode.ofMnemonic?_lowercase_eq_some_iff {op : Opcode} {word : List Char} :
    ofMnemonic? (String.ofList (Text.lowercase word)) = some op ↔ op.IsNamed word := by
  rw [ofMnemonic?_eq_some_iff, ← String.toList_inj, String.toList_ofList,
    Text.lowercase_eq_iff op.isPlain_mnemonic, IsNamed]

/-! ### Destinations -/

namespace Destination

theorem read_of_written {token : String} {d : Destination} (h : d.Written token) :
    read token = .ok d := by
  cases d with
  | register r =>
      obtain rfl := h
      rw [read, Operand.read_name]
  | memory a => rw [read, Operand.read_eq_memory_iff.mpr h]

theorem read_brackets_of_not_written {inner : String} (h : ∀ a : Address, ¬ a.Written inner) :
    read ("[" ++ inner ++ "]") = .error (.invalidReference ("[" ++ inner ++ "]")) := by
  have hnone : Address.read? inner = none := by
    rw [Option.eq_none_iff_forall_ne_some]
    exact fun a ha => h a (Address.read?_eq_some_iff.mp ha)
  rw [read, Operand.read_brackets, hnone]

theorem read_plain {token : String} (hname : ∀ r : Register, token ≠ r.name)
    (hbrackets : ∀ inner, token ≠ "[" ++ inner ++ "]") :
    read token = .error (.invalidDestination token) := by
  rw [read, Operand.read_plain hname hbrackets]
  cases number? token.toList with
  | some v => rfl
  | none => rfl

theorem readRegister_name (r : Register) : readRegister r.name = .ok r := by
  rw [readRegister, r.ofName?_name]

theorem readRegister_of_ne {token : String} (hname : ∀ r : Register, token ≠ r.name) :
    readRegister token = .error (.invalidDestinationRegister token) := by
  rw [readRegister, Register.ofName?_eq_none hname]

end Destination

/-! ### Decoding -/

/-- The instructions that write to a register have it in front. -/
theorem Instruction.ofOperands_of_readRegister_error {op : Opcode} {dst : String}
    {operands : List String} {f : Fault} (hwrites : op ∈ [Opcode.add, .sub, .pop])
    (hlength : (dst :: operands).length = op.arity) (h : Destination.readRegister dst = .error f) :
    ofOperands op (dst :: operands) = .error f := by
  cases op with
  | mov | push => exact absurd hwrites (by decide)
  | add | sub =>
      obtain ⟨src, rfl⟩ := List.length_eq_one_iff.mp (Nat.succ.inj hlength)
      rw [ofOperands, h]
      rfl
  | pop =>
      obtain rfl := List.length_eq_zero_iff.mp (Nat.succ.inj hlength)
      rw [ofOperands, h]
      rfl

namespace Statement

variable {first : List Char} {operands : List String}

/-- The statement with that first token and those operands. -/
def ofTokens (first : List Char) (operands : List String) : Statement :=
  ⟨String.ofList (Text.lowercase first), operands⟩

theorem instruction_of_isNamed {op : Opcode} (hop : op.IsNamed first) (operands : List String) :
    (ofTokens first operands).instruction = Instruction.ofOperands op operands := by
  rw [instruction, ofTokens, Opcode.ofMnemonic?_lowercase_eq_some_iff.mpr hop]

theorem instruction_of_not_isNamed (h : ∀ op : Opcode, ¬ op.IsNamed first)
    (operands : List String) :
    (ofTokens first operands).instruction =
      .error (.unknownInstruction (String.ofList (Text.lowercase first))) := by
  have hnone : Opcode.ofMnemonic? (String.ofList (Text.lowercase first)) = none := by
    rw [Option.eq_none_iff_forall_ne_some]
    exact fun op hop => h op (Opcode.ofMnemonic?_lowercase_eq_some_iff.mp hop)
  rw [instruction, ofTokens, hnone]

end Statement

namespace Decodes

variable {first : List Char} {operands : List String} {result : Except Fault Instruction}

/-- The grammar allows nothing but what the line is decoded to. -/
theorem instruction_eq (h : Decodes first operands result) :
    (Statement.ofTokens first operands).instruction = result := by
  cases h with
  | unknown h => exact Statement.instruction_of_not_isNamed h operands
  | arity hop h =>
      rw [Statement.instruction_of_isNamed hop, Instruction.ofOperands_of_length_ne h]
  | reference hop hdst h =>
      subst hdst
      rw [Statement.instruction_of_isNamed hop, Instruction.ofOperands,
        Destination.read_brackets_of_not_written h]
      rfl
  | destination hop hname hbrackets =>
      rw [Statement.instruction_of_isNamed hop, Instruction.ofOperands,
        Destination.read_plain hname hbrackets]
      rfl
  | register hop hwrites hlength hname =>
      rw [Statement.instruction_of_isNamed hop]
      exact Instruction.ofOperands_of_readRegister_error hwrites hlength
        (Destination.readRegister_of_ne hname)
  | mov hop hdst =>
      rw [Statement.instruction_of_isNamed hop, Instruction.ofOperands,
        Destination.read_of_written hdst]
      rfl
  | add hop | sub hop | pop hop =>
      rw [Statement.instruction_of_isNamed hop, Instruction.ofOperands,
        Destination.readRegister_name]
      rfl
  | push hop =>
      rw [Statement.instruction_of_isNamed hop]
      rfl

/-- Where the name is known and the number of operands is right, the operands decide. -/
theorem exists_of_length_eq {op : Opcode} (hop : op.IsNamed first)
    (hlength : operands.length = op.arity) : ∃ result, Decodes first operands result := by
  cases op with
  | mov =>
      obtain ⟨dst, src, rfl⟩ := List.length_eq_two.mp hlength
      rcases Operand.token_cases dst with ⟨r, hdst⟩ | ⟨inner, hdst⟩ | ⟨hname, hbrackets⟩
      · have hwritten : (Destination.register r).Written dst := hdst
        exact ⟨_, .mov hop hwritten⟩
      · by_cases ha : ∃ a : Address, a.Written inner
        · obtain ⟨a, ha⟩ := ha
          have hwritten : (Destination.memory a).Written dst := ⟨inner, hdst, ha⟩
          exact ⟨_, .mov hop hwritten⟩
        · exact ⟨_, .reference hop hdst (not_exists.mp ha)⟩
      · exact ⟨_, .destination hop hname hbrackets⟩
  | add =>
      obtain ⟨dst, src, rfl⟩ := List.length_eq_two.mp hlength
      by_cases hname : ∃ r : Register, dst = r.name
      · obtain ⟨r, rfl⟩ := hname
        exact ⟨_, .add hop⟩
      · exact ⟨_, .register hop (by decide) hlength (not_exists.mp hname)⟩
  | sub =>
      obtain ⟨dst, src, rfl⟩ := List.length_eq_two.mp hlength
      by_cases hname : ∃ r : Register, dst = r.name
      · obtain ⟨r, rfl⟩ := hname
        exact ⟨_, .sub hop⟩
      · exact ⟨_, .register hop (by decide) hlength (not_exists.mp hname)⟩
  | push =>
      obtain ⟨src, rfl⟩ := List.length_eq_one_iff.mp hlength
      exact ⟨_, .push hop⟩
  | pop =>
      obtain ⟨dst, rfl⟩ := List.length_eq_one_iff.mp hlength
      by_cases hname : ∃ r : Register, dst = r.name
      · obtain ⟨r, rfl⟩ := hname
        exact ⟨_, .pop hop⟩
      · exact ⟨_, .register hop (by decide) hlength (not_exists.mp hname)⟩

/-- The grammar leaves no line without a result. -/
theorem exists_result (first : List Char) (operands : List String) :
    ∃ result, Decodes first operands result := by
  by_cases hop : ∃ op : Opcode, op.IsNamed first
  · obtain ⟨op, hop⟩ := hop
    by_cases hlength : operands.length = op.arity
    · exact exists_of_length_eq hop hlength
    · exact ⟨_, .arity hop hlength⟩
  · exact ⟨_, .unknown (not_exists.mp hop)⟩

end Decodes

/-- The grammar says what a line is decoded to. -/
theorem Statement.instruction_eq_iff {first : List Char} {operands : List String}
    {result : Except Fault Instruction} :
    (ofTokens first operands).instruction = result ↔ Decodes first operands result := by
  constructor
  · intro h
    obtain ⟨result', hresult'⟩ := Decodes.exists_result first operands
    rwa [← h, hresult'.instruction_eq]
  · exact Decodes.instruction_eq

/-- **Lines are decoded by the grammar.**  Every line has its tokens, and no others.  There is
nothing on a line without tokens.  Any other line is a statement, with its first token in lower case
and the others as they stand, and it is decoded to what the grammar says, and to nothing else: an
instruction, or the one fault that comes first. -/
theorem lines_decoded_by_grammar (line : List Char) :
    ∃ tokens, (∀ tokens', Statement.Tokens line tokens' ↔ tokens' = tokens) ∧
      (Statement.ofLine? line = none ↔ tokens = []) ∧
      ∀ first operands, tokens = first :: operands →
        ∃ st, Statement.ofLine? line = some st ∧
          st.opcode = String.ofList (Text.lowercase first) ∧
          st.operands = operands.map String.ofList ∧
          ∀ result, st.instruction = result ↔
            Decodes first (operands.map String.ofList) result := by
  refine ⟨Statement.words line, fun tokens' => Statement.tokens_iff.trans eq_comm, ?_, ?_⟩
  · rw [Statement.ofLine?]
    cases Statement.words line with
    | nil => exact ⟨fun _ => rfl, fun _ => rfl⟩
    | cons first operands => exact iff_of_false (Option.some_ne_none _) (List.cons_ne_nil _ _)
  · intro first operands hwords
    exact ⟨_, Statement.ofLine?_eq_some_iff.mpr ⟨first, operands, hwords, rfl⟩, rfl, rfl,
      fun _ => Statement.instruction_eq_iff⟩

/-- The operands are counted before they are looked at, and then the destination comes first. -/
example :
    (Statement.ofTokens "Add".toList ["[x]"]).instruction = .error (.wrongArity "ADD" 2 1) ∧
      (Statement.ofTokens "Add".toList ["[x]", "0x"]).instruction =
        .error (.invalidDestinationRegister "[x]") ∧
      (Statement.ofTokens "Add".toList ["ecx", "0x"]).instruction =
        .ok (.add .ecx (.malformed (.unreadableValue "0x"))) := by
  decide +kernel

end RegisterMachine
