import RegisterMachine.Memory
import RegisterMachine.Statement

/-!
# Proofs — Machine — Faults

Where faults come from and what they name.  A fault of reading an operand or a destination names the
word that could not be read, as it stands (`Fault.token?`); a fault of memory names the address or
the stack pointer, and the number of cells.

`Instruction.Spelled` says of which words an instruction is made up, and it is all that reading
accepts (`Instruction.ofOperands_eq_ok_iff`).
-/

namespace RegisterMachine

/-- The word of a line that a fault of its operands names. -/
def Fault.token? : Fault → Option String
  | unreadableValue token | invalidReference token              => some token
  | invalidDestination token | invalidDestinationRegister token => some token
  | _                                                           => none

/-! ### Memory -/

namespace Memory

variable {m : Memory} {f : Fault}

theorem eq_of_index_error {address : Int64} (h : m.index address = .error f) :
    f = .addressOutOfBounds address m.size := by
  rw [index] at h
  split at h
  · cases h
  · exact (Except.error.inj h).symm

theorem eq_of_load_error {address : Int64} (h : m.load address = .error f) :
    f = .addressOutOfBounds address m.size := by
  rw [load] at h
  split at h
  · cases h
  · next hindex =>
      cases h
      exact eq_of_index_error hindex

theorem eq_of_stackIndex_error {sp : Int64} (h : m.stackIndex sp = .error f) :
    f = .stackOutOfBounds sp m.size := by
  rw [stackIndex] at h
  split at h
  · split at h
    · cases h
    · split at h
      · cases h
      · exact (Except.error.inj h).symm
  · exact (Except.error.inj h).symm

theorem eq_of_stackLoad_error {sp : Int64} (h : m.stackLoad sp = .error f) :
    f = .stackOutOfBounds sp m.size := by
  rw [stackLoad] at h
  split at h
  · cases h
  · next hindex =>
      cases h
      exact eq_of_stackIndex_error hindex

end Memory

/-! ### Words -/

/-- An operand that cannot be read is a fault of parsing, and names its word. -/
theorem Operand.eq_of_read_malformed {token : String} {f : Fault}
    (h : read token = .malformed f) :
    f = .invalidReference token ∨ f = .unreadableValue token := by
  rw [read] at h
  split at h
  · cases h
  · split at h
    · split at h
      · cases h
      · exact .inl (Operand.malformed.inj h).symm
    · split at h
      · cases h
      · exact .inr (Operand.malformed.inj h).symm

theorem Destination.eq_of_read_error {token : String} {f : Fault} (h : read token = .error f) :
    f = .invalidReference token ∨ f = .invalidDestination token := by
  rw [read] at h
  split at h
  · cases h
  · cases h
  · next token' hread =>
      obtain rfl := Except.error.inj h
      -- a bad reference keeps its fault, which names this word
      rcases Operand.eq_of_read_malformed hread with heq | heq
      · exact .inl heq
      · cases heq
  · exact .inr (Except.error.inj h).symm
  · exact .inr (Except.error.inj h).symm

theorem Destination.eq_of_readRegister_error {token : String} {f : Fault}
    (h : readRegister token = .error f) : f = .invalidDestinationRegister token := by
  rw [readRegister] at h
  split at h
  · cases h
  · exact (Except.error.inj h).symm

/-! ### Instructions -/

namespace Instruction

/-- The words that an instruction of that name is made up of.  Its source, if it takes one, is the
last of them. -/
inductive Spelled : Opcode → List String → Instruction → Prop where
  | mov {dst src : String} {d : Destination} (h : Destination.read dst = .ok d) :
      Spelled .mov [dst, src] (.mov d (Operand.read src))
  | add {dst src : String} {r : Register} (h : Destination.readRegister dst = .ok r) :
      Spelled .add [dst, src] (.add r (Operand.read src))
  | sub {dst src : String} {r : Register} (h : Destination.readRegister dst = .ok r) :
      Spelled .sub [dst, src] (.sub r (Operand.read src))
  | push {src : String} : Spelled .push [src] (.push (Operand.read src))
  | pop {dst : String} {r : Register} (h : Destination.readRegister dst = .ok r) :
      Spelled .pop [dst] (.pop r)

variable {op : Opcode} {operands : List String} {i : Instruction}

theorem map_eq_ok {α β : Type} {x : Except Fault α} {f : α → β} {b : β}
    (h : x.map f = .ok b) : ∃ a, x = .ok a ∧ f a = b := by
  cases x with
  | ok a => exact ⟨a, rfl, Except.ok.inj h⟩
  | error e => cases h

theorem ofOperands_eq_ok_iff : ofOperands op operands = .ok i ↔ Spelled op operands i := by
  constructor
  · intro h
    unfold ofOperands at h
    split at h
    · obtain ⟨d, hd, rfl⟩ := map_eq_ok h
      exact .mov hd
    · obtain ⟨r, hr, rfl⟩ := map_eq_ok h
      exact .add hr
    · obtain ⟨r, hr, rfl⟩ := map_eq_ok h
      exact .sub hr
    · obtain rfl := Except.ok.inj h
      exact .push
    · obtain ⟨r, hr, rfl⟩ := map_eq_ok h
      exact .pop hr
    · cases h
  · intro h
    cases h with
    | mov h | add h | sub h | pop h =>
        rw [ofOperands, h]
        rfl
    | push => rfl

theorem map_eq_error {α β : Type} {x : Except Fault α} {f : α → β} {e : Fault}
    (h : x.map f = .error e) : x = .error e := by
  cases x with
  | ok a => cases h
  | error e' => exact congrArg Except.error (Except.error.inj h)

/-- Operands that make up no instruction are too many or too few, or the first of them is no
destination. -/
theorem eq_of_ofOperands_error {f : Fault} (h : ofOperands op operands = .error f) :
    f = .wrongArity op.name op.arity operands.length ∨
    ∃ token ∈ operands, f = .invalidReference token ∨ f = .invalidDestination token ∨
      f = .invalidDestinationRegister token := by
  unfold ofOperands at h
  split at h
  · next dst src =>
      refine .inr ⟨dst, List.mem_cons_self, ?_⟩
      rcases Destination.eq_of_read_error (map_eq_error h) with h | h
      · exact .inl h
      · exact .inr (.inl h)
  · next dst src =>
      have hf := Destination.eq_of_readRegister_error (map_eq_error h)
      exact .inr ⟨dst, List.mem_cons_self, .inr (.inr hf)⟩
  · next dst src =>
      have hf := Destination.eq_of_readRegister_error (map_eq_error h)
      exact .inr ⟨dst, List.mem_cons_self, .inr (.inr hf)⟩
  · cases h
  · next dst =>
      have hf := Destination.eq_of_readRegister_error (map_eq_error h)
      exact .inr ⟨dst, List.mem_cons_self, .inr (.inr hf)⟩
  · exact .inl (Except.error.inj h).symm

namespace Spelled

theorem opcode_eq (h : Spelled op operands i) : i.opcode = op := by
  cases h <;> rfl

/-- The source of an instruction is read from one of its words. -/
theorem exists_source (h : Spelled op operands i) {src : Operand} (hsrc : i.source? = some src) :
    ∃ token ∈ operands, src = Operand.read token := by
  cases h with
  | mov | add | sub =>
      obtain rfl := Option.some.inj hsrc
      exact ⟨_, List.mem_cons_of_mem _ List.mem_cons_self, rfl⟩
  | push =>
      obtain rfl := Option.some.inj hsrc
      exact ⟨_, List.mem_cons_self, rfl⟩
  | pop => cases hsrc

end Spelled

end Instruction

/-- A statement that is an instruction names it and spells it out. -/
theorem Statement.spelled_of_instruction {st : Statement} {i : Instruction}
    (h : st.instruction = .ok i) :
    ∃ op, Opcode.ofMnemonic? st.opcode = some op ∧ Instruction.Spelled op st.operands i := by
  rw [instruction] at h
  split at h
  · next op hop => exact ⟨op, hop, Instruction.ofOperands_eq_ok_iff.mp h⟩
  · cases h

end RegisterMachine
