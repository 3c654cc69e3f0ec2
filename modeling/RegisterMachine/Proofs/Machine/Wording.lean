import RegisterMachine.Runner
import RegisterMachine.Proofs.Machine.Action
import RegisterMachine.Proofs.Machine.Course
import RegisterMachine.Proofs.Machine.Operands
import RegisterMachine.Proofs.Text.Solid

/-!
# Proofs — Machine — Wording

The text of an entry says all that the entry records (`rendered_entries_lose_nothing`): of an effect
everything, and of a fault everything with the number of its line.  So whoever sees a trace in words
only, sees it as it is, and can count its faults.

A text is a row of words with single spaces between them (`Entry.text_eq`), and the words that
it quotes from a program have no blanks in them (`Fault.Legible`).  Hence the text gives the words
back, and two entries of one wording are the same.  Without that, an operand with a blank could
make one fault look like another: a destination that cannot be written to, of the name
`register x`, would read like the register `x` of an instruction that wants one.
-/

namespace RegisterMachine

open Text (decimal IsSolid repr_inj)

/-! ### The words of a text -/

/-- The words of an effect. -/
def Effect.wording : Effect → List String
  | setRegister r value  => ["MOV:", "Set", r.name, "=", decimal value]
  | setMemory cell value => ["MOV:", "Set", "memory[" ++ toString cell ++ "]", "=", decimal value]
  | add r operand result =>
    ["ADD:", r.name, "+=", decimal operand, "(" ++ r.name, "=", decimal result ++ ")"]
  | sub r operand result =>
    ["SUB:", r.name, "-=", decimal operand, "(" ++ r.name, "=", decimal result ++ ")"]
  | push value sp        => ["PUSH:", decimal value, "to", "stack", "at", "ESP=" ++ decimal sp]
  | pop r value          => ["POP:", r.name, "=", decimal value]

/-- The noun that goes with a number of operands. -/
def operandNoun (n : Nat) : String :=
  if n = 1 then "operand" else "operands"

/-- The words of a fault. -/
def Fault.wording : Fault → List String
  | unreadableValue token            => ["Can't", "parse", "value", token]
  | invalidReference token           => ["Invalid", "memory", "reference", token]
  | wrongArity instruction expected actual =>
    [instruction, "requires", toString expected, operandNoun expected ++ ",", "got",
      toString actual]
  | invalidDestination token         => ["Invalid", "destination", token]
  | invalidDestinationRegister token => ["Invalid", "destination", "register", token]
  | unknownInstruction opcode        => ["Unknown", "instruction", opcode]
  | addressOutOfBounds address cells =>
    ["Memory", "address", decimal address, "out", "of", "bounds", "(0.." ++ toString cells ++ ")"]
  | stackOutOfBounds sp cells        =>
    ["Stack", "pointer", decimal sp, "outside", "stack", "window",
      "(-" ++ toString cells ++ ".." ++ toString cells ++ ")"]
  | unreadableFile path reason       => ["cannot", "read", path ++ ":", reason]

/-- The words of an entry. -/
def Entry.wording (e : Entry) : List String :=
  match e.event with
  | .effect effect => effect.wording
  | .fault f       => "Error:" :: (f.wording ++ ["(line", toString e.line ++ ")"])

theorem operandCount_eq (n : Nat) : operandCount n = toString n ++ " " ++ operandNoun n := by
  rw [operandCount, operandNoun]
  split
  · next h =>
      subst h
      rfl
  · rw [String.append_assoc]
    rfl

theorem Effect.text_eq (e : Effect) : e.text = " ".intercalate e.wording := by
  -- both sides piece by piece, then character by character
  cases e <;>
    unfold text wording <;>
    simp only [String.intercalate_cons_cons, String.intercalate_singleton,
      String.append_assoc] <;>
    apply String.toList_inj.mp <;>
    simp only [String.toList_append, String.reduceToList, List.cons_append, List.nil_append]

theorem Fault.message_eq (f : Fault) : f.message = " ".intercalate f.wording := by
  cases f <;>
    unfold message wording <;>
    simp only [operandCount_eq, String.intercalate_cons_cons,
      String.intercalate_singleton, String.append_assoc] <;>
    apply String.toList_inj.mp <;>
    simp only [String.toList_append, String.reduceToList, List.cons_append, List.nil_append]

theorem Fault.wording_ne_nil (f : Fault) : f.wording ≠ [] := by
  cases f <;> exact List.cons_ne_nil _ _

theorem Entry.wording_ne_nil (e : Entry) : e.wording ≠ [] := by
  obtain ⟨line, effect | f⟩ := e
  · cases effect <;> exact List.cons_ne_nil _ _
  · exact List.cons_ne_nil _ _

/-- **A text is its words**, with single spaces between them. -/
theorem Entry.text_eq (e : Entry) : e.text = " ".intercalate e.wording := by
  obtain ⟨line, effect | f⟩ := e
  · exact effect.text_eq
  · have hlast : ["(line", toString line ++ ")"] ≠ [] := List.cons_ne_nil _ _
    have hrest := List.append_ne_nil_of_left_ne_nil f.wording_ne_nil
      ["(line", toString line ++ ")"]
    show "Error: " ++ f.message ++ " (line " ++ toString line ++ ")" =
      " ".intercalate ("Error:" :: (f.wording ++ ["(line", toString line ++ ")"]))
    rw [String.intercalate_cons_of_ne_nil hrest,
      String.intercalate_append_of_ne_nil f.wording_ne_nil hlast, f.message_eq,
      String.intercalate_cons_cons, String.intercalate_singleton]
    apply String.toList_inj.mp
    simp only [String.toList_append, String.reduceToList, List.append_assoc, List.cons_append,
      List.nil_append]

/-! ### Equal words -/

/-- The name of a register is no cell of memory. -/
@[simp] theorem Register.name_ne_cell (r : Register) (cell : String) :
    r.name ≠ "memory[" ++ cell ++ "]" := by
  intro h
  obtain ⟨cs, hcs⟩ := r.exists_name_eq
  have hlist := congrArg String.toList h
  rw [hcs, String.toList_append, String.toList_append] at hlist
  exact absurd (List.cons.inj hlist).1 (by decide)

@[simp] theorem Register.name_eq_name_iff {r s : Register} : r.name = s.name ↔ r = s :=
  ⟨name_inj, fun h => h ▸ rfl⟩

/-- The two ends of the stack are one number, so that it is known where it begins. -/
theorem eq_of_window_eq {n m : Nat}
    (h : "(-" ++ n.repr ++ ".." ++ n.repr = "(-" ++ m.repr ++ ".." ++ m.repr) : n = m := by
  have hlist := congrArg String.toList h
  simp only [String.toList_append] at hlist
  have hlength := congrArg List.length hlist
  simp only [List.length_append] at hlength
  have hlength' : n.repr.toList.length = m.repr.toList.length := by omega
  exact repr_inj.mp (String.toList_inj.mp (List.append_inj_right' hlist hlength'))

/-- **The words of an effect say all of it.** -/
theorem Effect.eq_of_wording_eq {e e' : Effect} (h : e.wording = e'.wording) : e = e' := by
  cases e <;> cases e' <;> simp [wording] at h ⊢
  case setMemory.setRegister => exact absurd h.1.symm (Register.name_ne_cell _ _)
  case add.add | sub.sub => exact ⟨h.1, h.2.1, h.2.2.2⟩
  all_goals exact h

/-- **The words of a fault say all of it.** -/
theorem Fault.eq_of_wording_eq {f f' : Fault} (h : f.wording = f'.wording) : f = f' := by
  cases f <;> cases f' <;> simp [wording] at h ⊢
  case wrongArity.wrongArity => exact ⟨h.1, h.2.1, h.2.2.2⟩
  case stackOutOfBounds.stackOutOfBounds => exact ⟨h.1, eq_of_window_eq h.2⟩
  all_goals exact h

/-- The entries record the same effect, or the same fault on the same line. -/
inductive Entry.Alike : Entry → Entry → Prop where
  | effect {line line' : Nat} {e : Effect} : Alike ⟨line, .effect e⟩ ⟨line', .effect e⟩
  | fault {line : Nat} {f : Fault} : Alike ⟨line, .fault f⟩ ⟨line, .fault f⟩

theorem Effect.wording_ne_cons_error (e : Effect) (ws : List String) :
    e.wording ≠ "Error:" :: ws := by
  cases e <;> simp [wording]

theorem Entry.alike_of_wording_eq {e e' : Entry} (h : e.wording = e'.wording) : e.Alike e' := by
  obtain ⟨line, effect | f⟩ := e <;> obtain ⟨line', effect' | f'⟩ := e'
  · obtain rfl := Effect.eq_of_wording_eq h
    exact .effect
  · exact absurd h (effect.wording_ne_cons_error _)
  · exact absurd h.symm (effect'.wording_ne_cons_error _)
  · obtain ⟨hf, hline⟩ := List.append_inj' (List.cons.inj h).2 rfl
    obtain rfl := Fault.eq_of_wording_eq hf
    obtain rfl : line = line' := by simpa using hline
    exact .fault

/-! ### Words without blanks -/

/-- There are no blanks in what the fault quotes. -/
def Fault.Legible : Fault → Prop
  | unreadableValue token | invalidReference token
  | invalidDestination token | invalidDestinationRegister token => IsSolid token
  | wrongArity name ..                                          => IsSolid name
  | unknownInstruction opcode                                   => IsSolid opcode
  | addressOutOfBounds .. | stackOutOfBounds ..                 => True
  | unreadableFile path reason                                  => IsSolid path ∧ IsSolid reason

/-- A fault that is legible, or an effect. -/
def Event.Legible : Event → Prop
  | .effect _ => True
  | .fault f  => f.Legible

theorem Register.isSolid_name (r : Register) : IsSolid r.name := by
  cases r <;> decide

theorem Opcode.isSolid_name (op : Opcode) : IsSolid op.name := by
  cases op <;> decide

theorem isSolid_operandNoun (n : Nat) : IsSolid (operandNoun n) := by
  rw [operandNoun]
  split <;> decide

theorem Effect.isSolid_of_mem_wording (e : Effect) : ∀ w ∈ e.wording, IsSolid w := by
  cases e <;> simp +decide [wording, Register.isSolid_name]

theorem Fault.Legible.isSolid_of_mem_wording {f : Fault} (h : f.Legible) :
    ∀ w ∈ f.wording, IsSolid w := by
  cases f <;> simp +decide [wording, isSolid_operandNoun] <;> exact h

/-- **An entry that is legible is one word after the other.** -/
theorem Entry.isSolid_of_mem_wording {e : Entry} (h : e.event.Legible) :
    ∀ w ∈ e.wording, IsSolid w := by
  obtain ⟨line, effect | f⟩ := e
  · exact effect.isSolid_of_mem_wording
  · have hf : f.Legible := h
    have hlast : ∀ w ∈ ["(line", toString line ++ ")"], IsSolid w := by
      simp +decide
    refine List.forall_mem_cons.mpr ⟨by decide, ?_⟩
    exact List.forall_mem_append.mpr ⟨hf.isSolid_of_mem_wording, hlast⟩

/-- **The text of a legible entry says what it records.** -/
theorem Entry.alike_of_text_eq {e e' : Entry} (he : e.event.Legible) (he' : e'.event.Legible)
    (h : e.text = e'.text) : e.Alike e' := by
  rw [text_eq, text_eq] at h
  exact alike_of_wording_eq (Text.eq_of_intercalate_eq e.wording_ne_nil e'.wording_ne_nil
    (isSolid_of_mem_wording he) (isSolid_of_mem_wording he') h)

/-- Without that, a text may stand for two faults. -/
example :
    (Fault.invalidDestination "register x").message =
      (Fault.invalidDestinationRegister "x").message :=
  rfl

theorem Entry.notMem_text {e : Entry} (he : e.event.Legible) : '\n' ∉ e.text.toList := by
  rw [text_eq]
  exact Text.notMem_intercalate (isSolid_of_mem_wording he)

/-! ### What a run quotes -/

/-- What memory refuses quotes nothing. -/
theorem Fault.Refuses.legible {op : Opcode} {f : Fault} (h : f.Refuses op) : f.Legible := by
  cases f with
  | addressOutOfBounds | stackOutOfBounds => trivial
  | _ => exact h.elim

/-- The words of a line are quoted as they stand, and its name in lower case. -/
theorem Statement.legible_of_instruction_error {line : List Char} {st : Statement}
    (hline : ofLine? line = some st) {f : Fault} (h : st.instruction = .error f) :
    f.Legible := by
  obtain ⟨hopcode, hoperands⟩ := isSolid_of_ofLine? hline
  rw [instruction] at h
  split at h
  · next op hop =>
      rcases Instruction.eq_of_ofOperands_error h with rfl | ⟨token, htoken, rfl | rfl | rfl⟩
      · exact op.isSolid_name
      all_goals exact hoperands token htoken
  · obtain rfl := Except.error.inj h
    exact hopcode

namespace State

theorem legible_of_read_error {line : List Char} {st : Statement}
    (hline : Statement.ofLine? line = some st) {op : Opcode} {i : Instruction}
    (hi : Instruction.Spelled op st.operands i) {src : Operand} (hsrc : i.source? = some src)
    {s : State} {f : Fault} (h : s.read src = .error f) : f.Legible := by
  rcases eq_of_read_error h with rfl | ⟨address, rfl⟩
  · obtain ⟨token, htoken, hread⟩ := hi.exists_source hsrc
    have hsolid := (Statement.isSolid_of_ofLine? hline).2 token htoken
    rcases Operand.eq_of_read_malformed hread.symm with rfl | rfl <;> exact hsolid
  · trivial

theorem legible_act (s : State) (i : Instruction) (v : Int64) : (s.act i v).2.Legible := by
  rcases s.act_cases i v with ⟨f, hact, hf⟩ | ⟨s', e, hact, -⟩
  · rw [hact]
    exact hf.legible
  · rw [hact]
    trivial

/-- **One line** leaves events that are legible, whatever it says. -/
theorem legible_runLine (s : State) (line : List Char) :
    ∀ e ∈ (s.runLine line).2, e.Legible := by
  cases hline : Statement.ofLine? line with
  | none =>
      rw [s.runLine_of_blank hline]
      exact nofun
  | some st =>
      cases hinstr : st.instruction with
      | error f =>
          rw [s.runLine_of_fault hline hinstr]
          exact List.forall_mem_singleton.mpr
            (Statement.legible_of_instruction_error hline hinstr)
      | ok i =>
          obtain ⟨op, -, hi⟩ := Statement.spelled_of_instruction hinstr
          rw [s.runLine_of_instruction hline hinstr, execute_eq]
          refine List.forall_mem_append.mpr
            ⟨?_, List.forall_mem_singleton.mpr (s.legible_act i _)⟩
          rcases s.fetched_cases i with ⟨v, hv⟩ | ⟨src, f, hsrc, hread, hv⟩
          · rw [hv]
            exact nofun
          · rw [hv]
            exact List.forall_mem_singleton.mpr (legible_of_read_error hline hi hsrc hread)

theorem legible_course (s : State) (lines : List (List Char)) :
    ∀ events ∈ s.course lines, ∀ e ∈ events, e.Legible := by
  induction lines generalizing s with
  | nil => exact nofun
  | cons line lines ih =>
      rw [course]
      exact List.forall_mem_cons.mpr ⟨s.legible_runLine line, ih _⟩

end State

theorem event_mem_of_mem_entriesFrom {number : Nat} {groups : List (List Event)} {e : Entry}
    (h : e ∈ entriesFrom number groups) : ∃ events ∈ groups, e.event ∈ events := by
  obtain ⟨⟨events, n⟩, hgroup, he⟩ := List.mem_flatMap.mp h
  obtain ⟨event, hevent, rfl⟩ := List.mem_map.mp he
  exact ⟨events, List.fst_mem_of_mem_zipIdx hgroup, hevent⟩

/-- **All that a run puts on the trace is legible.** -/
theorem Runner.legible_run (r : Runner) (source : String) :
    ∀ e ∈ (r.run source).machine.trace.toList, e.event.Legible := by
  intro e he
  rw [machine_run, Machine.toList_trace_run] at he
  obtain ⟨events, hevents, hevent⟩ := event_mem_of_mem_entriesFrom he
  exact State.legible_course _ _ events hevents e.event hevent

/-! ### Counting faults -/

theorem Entry.isPrefix_text_iff (e : Entry) :
    "Error:".toList <+: e.text.toList ↔ e.isFault = true := by
  obtain ⟨line, effect | f⟩ := e
  · refine iff_of_false ?_ Bool.false_ne_true
    show ¬ "Error:".toList <+: effect.text.toList
    cases effect <;> unfold Effect.text <;> simp
  · refine iff_of_true ?_ rfl
    show "Error:".toList <+: ("Error: " ++ f.message ++ " (line " ++ toString line ++ ")").toList
    simp

theorem Trace.length_faults (t : Trace) : t.faults.length = t.toList.countP Entry.isFault := by
  have hfault : (fun e : Entry => e.fault?.isSome) = Entry.isFault := by
    ext e
    rw [Entry.fault?, Option.isSome_map, Entry.isFault]
  rw [faults, List.length_filterMap_eq_countP, hfault]

/-- A report has as many lines that read like a fault as there are faults. -/
theorem Machine.faultLines_report (m : Machine) (window : Nat) :
    (m.snapshot window).report.faultLines = m.trace.faults.length := by
  have hline : (fun line : String => "Error:".toList.isPrefixOf line.toList) ∘ Entry.text =
      Entry.isFault := by
    ext e
    exact Bool.eq_iff_iff.mpr (List.isPrefixOf_iff_prefix.trans e.isPrefix_text_iff)
  rw [m.trace.length_faults, ← hline, ← List.countP_map]
  rfl

/-- **Rendered entries lose nothing.**  Two runs are given, of any programs on any machines.  If an
entry of the one and an entry of the other have the same text, they record the same effect, or the
same fault on the same line.  A text has no line breaks, and it begins with `Error:` if and only if
a fault is recorded.  So the lines of a report that begin like this are as many as the faults on the
trace. -/
theorem rendered_entries_lose_nothing (r r' : Runner) (source source' : String) :
    (∀ e ∈ (r.run source).machine.trace.toList, ∀ e' ∈ (r'.run source').machine.trace.toList,
      e.text = e'.text → e.Alike e') ∧
    (∀ e ∈ (r.run source).machine.trace.toList,
      '\n' ∉ e.text.toList ∧ ("Error:".toList <+: e.text.toList ↔ e.isFault = true)) ∧
    (r.run source).snapshot.report.faultLines = (r.run source).machine.trace.faults.length := by
  refine ⟨fun e he e' he' => ?_, fun e he => ⟨?_, e.isPrefix_text_iff⟩, ?_⟩
  · exact Entry.alike_of_text_eq (r.legible_run source e he) (r'.legible_run source' e' he')
  · exact Entry.notMem_text (r.legible_run source e he)
  · exact (r.run source).machine.faultLines_report r.size.window

/-- One effect in two programs, which differ in where it stands, in how it is written and in the
size of memory. -/
theorem rendered_entries_lose_nothing_two_sizes :
    let r := (Runner.new { cells := 1 }).run "mov [ecx], 7\npush register x"
    let r' := (Runner.new { cells := 2 }).run "\nMOV [0] 0x07"
    let e : Entry := ⟨1, .effect (.setMemory 0 7)⟩
    let e' : Entry := ⟨2, .effect (.setMemory 0 7)⟩
    e ∈ r.machine.trace.toList ∧ e' ∈ r'.machine.trace.toList ∧ e.text = e'.text ∧ e.Alike e' ∧
      r.snapshot.report.faultLines = 1 := by
  intro r r' e e'
  obtain ⟨halike, -, hfaults⟩ := rendered_entries_lose_nothing (Runner.new { cells := 1 })
    (Runner.new { cells := 2 }) "mov [ecx], 7\npush register x" "\nMOV [0] 0x07"
  have he : e ∈ r.machine.trace.toList := by decide +kernel
  have he' : e' ∈ r'.machine.trace.toList := by decide +kernel
  exact ⟨he, he', rfl, halike e he e' he' rfl, hfaults.trans (by decide +kernel)⟩

end RegisterMachine
