import Mathlib.Data.List.Forall2
import RegisterMachine.Runner
import RegisterMachine.Proofs.Machine.Action
import RegisterMachine.Proofs.Machine.Course
import RegisterMachine.Proofs.Text.Lines
import RegisterMachine.Proofs.Text.Words

/-!
# Proofs — Machine — Account

A trace accounts for every line of the source that holds a statement, and for no other
(`lines_accounted`).  The trace falls into groups, one for each line and in their order, and the
entries of a group have the number of its line.  Which groups there can be is said by `Accounts`: a
blank line has none of its own, and a statement has an effect or a fault, or the fault of a source
that could not be read and then the one or the other.

What a group has to do with its line: an effect is one of the instruction that the line names, and a
word that a fault names is an operand of the line, as it stands there (`Fault.Concerns`).
-/

namespace RegisterMachine

/-- The fault is none of files, and the word that it names is an operand of the line. -/
def Fault.Concerns (line : List Char) (f : Fault) : Prop :=
  f.kind ≠ .io ∧ ∀ token ∈ f.token?, token.toList ∈ (Statement.words line).tail

/-- The events that a line can leave. -/
inductive Accounts (line : List Char) : List Event → Prop where
  /-- A line without a statement leaves nothing. -/
  | blank (hline : Statement.ofLine? line = none) : Accounts line []
  /-- The instruction has had its effect. -/
  | effect {st : Statement} {e : Effect} (hline : Statement.ofLine? line = some st)
      (he : Opcode.ofMnemonic? st.opcode = some e.opcode) : Accounts line [.effect e]
  /-- The statement is no instruction, or the instruction was refused. -/
  | fault {st : Statement} {f : Fault} (hline : Statement.ofLine? line = some st)
      (hf : f.Concerns line) : Accounts line [.fault f]
  /-- The source could not be read and counted as zero. -/
  | unread {st : Statement} {f : Fault} {e : Effect} (hline : Statement.ofLine? line = some st)
      (hf : f.Concerns line) (hsource : f.IsUnread)
      (he : Opcode.ofMnemonic? st.opcode = some e.opcode) : Accounts line [.fault f, .effect e]
  /-- The source could not be read, and there was no cell at the destination or no slot on the
  stack. -/
  | refused {st : Statement} {op : Opcode} {f f' : Fault}
      (hline : Statement.ofLine? line = some st) (hf : f.Concerns line) (hsource : f.IsUnread)
      (hop : Opcode.ofMnemonic? st.opcode = some op) (hf' : f'.Concerns line)
      (hbounds : f'.Refuses op) : Accounts line [.fault f, .fault f']

/-! ### Faults and the words of their line -/

namespace Fault

variable {f : Fault}

/-- A fault that names no word can stand on any line. -/
theorem concerns_of_token_none (hkind : f.kind ≠ .io) (htoken : f.token? = none)
    (line : List Char) : f.Concerns line := by
  refine ⟨hkind, fun token h => ?_⟩
  rw [htoken] at h
  cases h

theorem concerns_of_token_some {token : String} {line : List Char} (hkind : f.kind ≠ .io)
    (htoken : f.token? = some token) (hmem : token.toList ∈ (Statement.words line).tail) :
    f.Concerns line := by
  refine ⟨hkind, fun token' h => ?_⟩
  obtain rfl := Option.some.inj (htoken.symm.trans h)
  exact hmem

/-- What memory refuses names an address or the stack pointer. -/
theorem Refuses.concerns {op : Opcode} (h : f.Refuses op) (line : List Char) :
    f.Concerns line := by
  cases f with
  | addressOutOfBounds | stackOutOfBounds =>
      exact concerns_of_token_none FaultKind.noConfusion rfl line
  | _ => exact h.elim

end Fault

namespace Statement

variable {line : List Char} {st : Statement}

theorem toList_mem_words (hline : ofLine? line = some st) {token : String}
    (h : token ∈ st.operands) : token.toList ∈ (words line).tail := by
  obtain ⟨opcode, operands, hwords, rfl⟩ := ofLine?_eq_some_iff.mp hline
  obtain ⟨word, hword, rfl⟩ := List.mem_map.mp h
  rwa [hwords, List.tail_cons, String.toList_ofList]

theorem concerns_of_instruction_error (hline : ofLine? line = some st) {f : Fault}
    (h : st.instruction = .error f) : f.Concerns line := by
  rw [instruction] at h
  split at h
  · rcases Instruction.eq_of_ofOperands_error h with rfl | ⟨token, htoken, rfl | rfl | rfl⟩
    · exact Fault.concerns_of_token_none FaultKind.noConfusion rfl line
    all_goals
      exact Fault.concerns_of_token_some FaultKind.noConfusion rfl (toList_mem_words hline htoken)
  · cases h
    exact Fault.concerns_of_token_none FaultKind.noConfusion rfl line

/-- A source that cannot be read has a fault of its word, or of its address. -/
theorem concerns_of_read_error (hline : ofLine? line = some st) {op : Opcode} {i : Instruction}
    (hi : Instruction.Spelled op st.operands i) {src : Operand} (hsrc : i.source? = some src)
    {s : State} {f : Fault} (h : s.read src = .error f) : f.Concerns line ∧ f.IsUnread := by
  rcases State.eq_of_read_error h with rfl | ⟨address, rfl⟩
  · obtain ⟨token, htoken, hread⟩ := hi.exists_source hsrc
    have hword := toList_mem_words hline htoken
    rcases Operand.eq_of_read_malformed hread.symm with rfl | rfl
    all_goals
      exact ⟨Fault.concerns_of_token_some FaultKind.noConfusion rfl hword, trivial⟩
  · exact ⟨Fault.concerns_of_token_none FaultKind.noConfusion rfl line, trivial⟩

end Statement

/-! ### One line, and all of them -/

/-- **One line.**  Whatever state a line finds, its events account for it. -/
theorem State.accounts_runLine (s : State) (line : List Char) :
    Accounts line (s.runLine line).2 := by
  cases hline : Statement.ofLine? line with
  | none =>
      rw [s.runLine_of_blank hline]
      exact .blank hline
  | some st =>
      cases hinstr : st.instruction with
      | error f =>
          rw [s.runLine_of_fault hline hinstr]
          exact .fault hline (Statement.concerns_of_instruction_error hline hinstr)
      | ok i =>
          obtain ⟨op, hop, hi⟩ := Statement.spelled_of_instruction hinstr
          obtain rfl := hi.opcode_eq
          rw [s.runLine_of_instruction hline hinstr, execute_eq]
          -- the source is read or not, and then the act is refused or not
          rcases s.fetched_cases i with ⟨v, hv⟩ | ⟨src, f, hsrc, hread, hv⟩
          · rw [hv]
            rcases s.act_cases i v with ⟨f, hact, hf⟩ | ⟨s', e, hact, he⟩
            · rw [hact]
              exact .fault hline (hf.concerns line)
            · rw [hact]
              exact .effect hline (he ▸ hop)
          · rw [hv]
            obtain ⟨hf, hunread⟩ := Statement.concerns_of_read_error hline hi hsrc hread
            rcases s.act_cases i 0 with ⟨f', hact, hf'⟩ | ⟨s', e, hact, he⟩
            · rw [hact]
              exact .refused hline hf hunread hop (hf'.concerns line) hf'
            · rw [hact]
              exact .unread hline hf hunread (he ▸ hop)

theorem State.accounts_course (s : State) (lines : List (List Char)) :
    List.Forall₂ Accounts lines (s.course lines) := by
  induction lines generalizing s with
  | nil => exact .nil
  | cons line lines ih => exact .cons (s.accounts_runLine line) (ih _)

/-- **Every line is accounted for once.**  The trace of a run is a row of groups, one for each line
of the source, numbered from one; each group accounts for its line; and the line of index `k` is the
one that `k` line feeds stand before. -/
theorem lines_accounted (r : Runner) (source : String) :
    ∃ groups : List (List Event),
      (r.run source).machine.trace.toList =
        (groups.zipIdx 1).flatMap (fun (events, number) => events.map (Entry.mk number)) ∧
      List.Forall₂ Accounts (Text.lines source.toList) groups ∧
      ∀ k line, (Text.lines source.toList)[k]? = some line ↔ Text.LineAt source.toList k line := by
  have hcourse := (State.zero r.machine.cells).accounts_course (Text.lines source.toList)
  refine ⟨_, ?_, hcourse, fun k line => Text.getElem?_lines_eq_some_iff⟩
  rw [Runner.machine_run]
  exact Machine.toList_trace_run r.machine.cells source

/-- A comment and a blank line count but leave nothing, and a push that finds no slot for a word
that is no number leaves two faults. -/
example :
    (Machine.run 0 "mov eax, 7\r\n; seven\n\npush x").trace.toList =
      [⟨1, .effect (.setRegister .eax 7)⟩, ⟨4, .fault (.unreadableValue "x")⟩,
        ⟨4, .fault (.stackOutOfBounds (-4) 0)⟩] := by
  decide +kernel

end RegisterMachine
