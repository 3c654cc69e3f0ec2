import RegisterMachine.Proofs.Machine.Faults
import RegisterMachine.Proofs.Machine.Replay
import RegisterMachine.Proofs.Text.Sizes

/-!
# Proofs — Machine — Quotes

How much a run says.  A line puts at most two entries on the trace, and the text of an entry quotes
at most one word of its line; what stands around the word is of a fixed size, up to a few numbers
that are short.  So the size of a trace is bounded by the lines that were carried out, and by
nothing else (`Machine.within_runFrom`).

`Fault.Quotes` bounds the word that a fault quotes.  Every reader of a line keeps to the words of
that line (`Operand.quotes_of_read`, `Instruction.quotes_of_ofOperands`,
`Statement.quotes_of_ofLine?`), and a fault of memory quotes none.
-/

namespace RegisterMachine

open Text (ceiling decimal utf8ByteSize_toString_le utf8ByteSize_decimal_le)

/-! ### Texts of effects and faults -/

theorem Register.utf8ByteSize_name (r : Register) : r.name.utf8ByteSize = 3 := by
  cases r <;> rfl

theorem Opcode.utf8ByteSize_name_le (op : Opcode) : op.name.utf8ByteSize ≤ 4 := by
  cases op <;> decide

/-- The bytes of an entry beside those of the word that it quotes. -/
def wordingSize : Nat := 512

theorem Effect.utf8ByteSize_text_le (e : Effect)
    (h : ∀ cell v, e = .setMemory cell v → cell < ceiling) :
    e.text.utf8ByteSize ≤ wordingSize := by
  -- the bytes of each piece of the wording, in order
  cases e with
  | setRegister r v =>
      have hv := utf8ByteSize_decimal_le v
      unfold text
      simp only [String.utf8ByteSize_append, r.utf8ByteSize_name]
      change 9 + 3 + 3 + (decimal v).utf8ByteSize ≤ 512
      omega
  | setMemory cell v =>
      have hcell := utf8ByteSize_toString_le (h cell v rfl)
      have hv := utf8ByteSize_decimal_le v
      unfold text
      simp only [String.utf8ByteSize_append]
      change 16 + (toString cell).utf8ByteSize + 4 + (decimal v).utf8ByteSize ≤ 512
      omega
  | add r operand result | sub r operand result =>
      have ho := utf8ByteSize_decimal_le operand
      have hr := utf8ByteSize_decimal_le result
      unfold text
      simp only [String.utf8ByteSize_append, r.utf8ByteSize_name]
      change 5 + 3 + 4 + (decimal operand).utf8ByteSize + 2 + 3 + 3
        + (decimal result).utf8ByteSize + 1 ≤ 512
      omega
  | push v sp =>
      have hv := utf8ByteSize_decimal_le v
      have hsp := utf8ByteSize_decimal_le sp
      unfold text
      simp only [String.utf8ByteSize_append]
      change 6 + (decimal v).utf8ByteSize + 17 + (decimal sp).utf8ByteSize ≤ 512
      omega
  | pop r v =>
      have hv := utf8ByteSize_decimal_le v
      unfold text
      simp only [String.utf8ByteSize_append, r.utf8ByteSize_name]
      change 5 + 3 + 3 + (decimal v).utf8ByteSize ≤ 512
      omega

/-- A fault quotes a word of at most `n` bytes or none, and counts nothing past the ceiling.  Faults
of files do not arise in a run. -/
def Fault.Quotes (n : Nat) : Fault → Prop
  | unreadableValue token | invalidReference token | invalidDestination token
  | invalidDestinationRegister token | unknownInstruction token => token.utf8ByteSize ≤ n
  | wrongArity name expected actual =>
    name.utf8ByteSize ≤ 4 ∧ expected < ceiling ∧ actual < ceiling
  | addressOutOfBounds _ cells | stackOutOfBounds _ cells       => cells < ceiling
  | unreadableFile ..                                           => False

theorem utf8ByteSize_operandCount_le {n : Nat} (h : n < ceiling) :
    (operandCount n).utf8ByteSize ≤ 93 := by
  rw [operandCount]
  split
  · decide
  · have hn := utf8ByteSize_toString_le h
    rw [String.utf8ByteSize_append]
    exact Nat.add_le_add hn (Nat.le_refl 9)

theorem Fault.utf8ByteSize_message_le {n : Nat} {f : Fault} (h : f.Quotes n) :
    f.message.utf8ByteSize ≤ n + wordingSize := by
  cases f with
  | unreadableValue token | invalidReference token | invalidDestination token
  | invalidDestinationRegister token | unknownInstruction token =>
      have hn : token.utf8ByteSize ≤ n := h
      unfold message
      simp only [String.utf8ByteSize_append]
      exact Nat.add_comm n wordingSize ▸ Nat.add_le_add (by decide) hn
  | wrongArity name expected actual =>
      obtain ⟨hname, hexpected, hactual⟩ := h
      have he := utf8ByteSize_operandCount_le hexpected
      have ha := utf8ByteSize_toString_le hactual
      unfold message
      simp only [String.utf8ByteSize_append]
      change name.utf8ByteSize + 10 + (operandCount expected).utf8ByteSize + 6
        + (toString actual).utf8ByteSize ≤ n + 512
      omega
  | addressOutOfBounds address cells =>
      have haddress := utf8ByteSize_decimal_le address
      have hcells := utf8ByteSize_toString_le h
      unfold message
      simp only [String.utf8ByteSize_append]
      change 15 + (decimal address).utf8ByteSize + 19 + (toString cells).utf8ByteSize + 1 ≤ n + 512
      omega
  | stackOutOfBounds sp cells =>
      have hsp := utf8ByteSize_decimal_le sp
      have hcells := utf8ByteSize_toString_le h
      unfold message
      simp only [String.utf8ByteSize_append]
      change 14 + (decimal sp).utf8ByteSize + 24 + (toString cells).utf8ByteSize + 2
        + (toString cells).utf8ByteSize + 1 ≤ n + 512
      omega
  | unreadableFile path reason => exact h.elim

theorem Fault.Quotes.mono {n n' : Nat} {f : Fault} (h : f.Quotes n) (hle : n ≤ n') :
    f.Quotes n' := by
  cases f with
  | unreadableValue | invalidReference | invalidDestination | invalidDestinationRegister
  | unknownInstruction => exact Nat.le_trans h hle
  | wrongArity | addressOutOfBounds | stackOutOfBounds | unreadableFile => exact h

/-! ### What the readers of a line quote -/

theorem Operand.quotes_of_read {token : String} {f : Fault} (h : read token = .malformed f) :
    f.Quotes token.utf8ByteSize := by
  rcases eq_of_read_malformed h with rfl | rfl <;> exact Nat.le_refl _

/-- The source of an instruction, if it cannot be read, quotes at most `n` bytes. -/
def Instruction.Quotes (n : Nat) (i : Instruction) : Prop :=
  ∀ f, i.source? = some (.malformed f) → f.Quotes n

/-- What comes of reading an instruction, be it an instruction or a fault, quotes at most `n`
bytes. -/
def ReadingQuotes (n : Nat) : Except Fault Instruction → Prop
  | .ok i    => i.Quotes n
  | .error f => f.Quotes n

theorem ReadingQuotes.mono {n n' : Nat} {reading : Except Fault Instruction}
    (h : ReadingQuotes n reading) (hle : n ≤ n') : ReadingQuotes n' reading := by
  cases reading with
  | ok i => exact fun f hf => (h f hf).mono hle
  | error f => exact Fault.Quotes.mono h hle

theorem Instruction.quotes_of_ofOperands {n : Nat} (op : Opcode) {operands : List String}
    (hlen : operands.length < ceiling) (hn : ∀ token ∈ operands, token.utf8ByteSize ≤ n) :
    ReadingQuotes n (ofOperands op operands) := by
  cases h : ofOperands op operands with
  | ok i =>
      intro f hf
      obtain ⟨token, htoken, hread⟩ := (ofOperands_eq_ok_iff.mp h).exists_source hf
      exact (Operand.quotes_of_read hread.symm).mono (hn token htoken)
  | error f =>
      rcases eq_of_ofOperands_error h with rfl | ⟨token, htoken, rfl | rfl | rfl⟩
      · exact ⟨op.utf8ByteSize_name_le, by cases op <;> decide, hlen⟩
      all_goals exact hn token htoken

/-- What a line of `n` characters quotes: a word of it, of which each character may have become two
in lower case and takes four bytes at most. -/
def quoteSize (n : Nat) : Nat := 8 * (n + 1)

theorem Statement.quotes_of_ofLine? {line : List Char} {st : Statement}
    (h : ofLine? line = some st) (hline : line.length + 1 < ceiling) :
    ReadingQuotes (quoteSize line.length) st.instruction := by
  have hsize := piecesSize_words_le line
  rw [ofLine?] at h
  split at h
  · cases h
  · next opcode operands hwords =>
      obtain rfl := Option.some.inj h
      rw [hwords, Text.piecesSize_cons] at hsize
      rw [instruction]
      -- operands are quoted as they stand, an unknown name in lower case
      cases Opcode.ofMnemonic? (String.ofList (Text.lowercase opcode)) with
      | some op =>
          refine Instruction.quotes_of_ofOperands op ?_ fun token htoken => ?_
          · have hcount := Text.length_le_piecesSize operands
            rw [List.length_map]
            omega
          · obtain ⟨word, hword, rfl⟩ := List.mem_map.mp htoken
            have hbytes := Text.utf8ByteSize_ofList_le word
            have hlen := Text.length_le_piecesSize_of_mem hword
            rw [quoteSize]
            omega
      | none =>
          have hbytes := Text.utf8ByteSize_ofList_le (Text.lowercase opcode)
          have hlower := Text.length_lowercase_le opcode
          change (String.ofList (Text.lowercase opcode)).utf8ByteSize ≤ 8 * (line.length + 1)
          omega

/-! ### What a run puts on the trace -/

/-- An effect is short, and a fault quotes at most `n` bytes. -/
def Event.Within (n : Nat) : Event → Prop
  | .effect e => e.text.utf8ByteSize ≤ wordingSize
  | .fault f  => f.Quotes n

/-- At most two events, each within `n`. -/
def Brief (n : Nat) (events : List Event) : Prop :=
  events.length ≤ 2 ∧ ∀ e ∈ events, e.Within n

theorem brief_one {n : Nat} {e : Event} (h : e.Within n) : Brief n [e] :=
  ⟨Nat.le_succ 1, List.forall_mem_singleton.mpr h⟩

namespace State

variable {s : State} {n : Nat}

theorem quotes_of_read (hs : s.memory.size < ceiling) {src : Operand} {f : Fault}
    (hsrc : ∀ f, src = .malformed f → f.Quotes n) (h : s.read src = .error f) : f.Quotes n := by
  cases src with
  | register | immediate => cases h
  | memory a =>
      obtain rfl := Memory.eq_of_load_error h
      exact hs
  | malformed f' =>
      cases h
      exact hsrc _ rfl

/-- A source that cannot be read adds one fault to the event of its instruction. -/
theorem brief_fetch_append (hs : s.memory.size < ceiling) {src : Operand}
    (hsrc : ∀ f, src = .malformed f → f.Quotes n) {e : Event} (he : e.Within n) :
    Brief n ((s.fetch src).2 ++ [e]) := by
  rw [fetch]
  split
  · exact brief_one he
  · next f hf =>
      refine ⟨Nat.le_refl 2, List.forall_mem_cons.mpr ⟨quotes_of_read hs hsrc hf, ?_⟩⟩
      exact List.forall_mem_singleton.mpr he

theorem within_effect {e : Effect} (h : ∀ cell v, e = .setMemory cell v → cell < ceiling) :
    (Event.effect e).Within n :=
  e.utf8ByteSize_text_le h

theorem within_assign (hs : s.memory.size < ceiling) (v : Int64) (dst : Destination) :
    (s.assign v dst).2.Within n := by
  cases dst with
  | register r => exact within_effect fun _ _ h => by cases h
  | memory a =>
      rw [assign]
      split
      · next i _ =>
          -- the one effect that names a cell
          refine within_effect fun cell v h => ?_
          cases h
          exact Nat.lt_trans i.isLt hs
      · next hf =>
          obtain rfl := Memory.eq_of_index_error hf
          exact hs

theorem within_push (hs : s.memory.size < ceiling) (v : Int64) : (s.push v).2.Within n := by
  rw [push]
  split
  · exact within_effect fun _ _ h => by cases h
  · next hf =>
      obtain rfl := Memory.eq_of_stackIndex_error hf
      exact hs

theorem within_pop (hs : s.memory.size < ceiling) (r : Register) : (s.pop r).2.Within n := by
  rw [pop]
  split
  · exact within_effect fun _ _ h => by cases h
  · next hf =>
      obtain rfl := Memory.eq_of_stackLoad_error hf
      exact hs

theorem brief_execute (hs : s.memory.size < ceiling) {i : Instruction} (hi : i.Quotes n) :
    Brief n (s.execute i).2 := by
  have hsrc : ∀ src, i.source? = some src → ∀ f, src = .malformed f → f.Quotes n :=
    fun src h f hf => hi f (hf ▸ h)
  cases i with
  | mov dst src => exact brief_fetch_append hs (hsrc src rfl) (within_assign hs _ dst)
  | add dst src | sub dst src =>
      exact brief_fetch_append hs (hsrc src rfl) (within_effect fun _ _ h => by cases h)
  | push src => exact brief_fetch_append hs (hsrc src rfl) (within_push hs _)
  | pop dst => exact brief_one (within_pop hs dst)

theorem brief_perform (hs : s.memory.size < ceiling) {st : Statement}
    (hst : ReadingQuotes n st.instruction) : Brief n (s.perform st).2 := by
  rw [perform]
  cases hinstr : st.instruction with
  | ok i =>
      rw [hinstr] at hst
      exact brief_execute hs hst
  | error f =>
      rw [hinstr] at hst
      exact brief_one hst

end State

/-- The most bytes of the text of an entry that quotes `n` bytes. -/
def entrySize (n : Nat) : Nat := n + 1024

theorem Entry.utf8ByteSize_text_le {n : Nat} {e : Entry} (hline : e.line < ceiling)
    (h : e.event.Within n) : e.text.utf8ByteSize ≤ entrySize n := by
  obtain ⟨line, event⟩ := e
  cases event with
  | effect effect => exact Nat.le_trans h (Nat.le_trans (by decide) (Nat.le_add_left 1024 n))
  | fault f =>
      have hf := Fault.utf8ByteSize_message_le h
      have hnumber : (toString line).utf8ByteSize ≤ 84 := utf8ByteSize_toString_le hline
      change ("Error: " ++ f.message ++ " (line " ++ toString line ++ ")").utf8ByteSize ≤ _
      simp only [String.utf8ByteSize_append]
      change 7 + f.message.utf8ByteSize + 7 + (toString line).utf8ByteSize + 1 ≤ n + 1024
      rw [wordingSize] at hf
      omega

/-- A trace has at most `count` entries, each of which quotes at most `n` bytes. -/
def Trace.Within (count n : Nat) (t : Trace) : Prop :=
  t.size ≤ count ∧ ∀ e ∈ t.toList, e.text.utf8ByteSize ≤ entrySize n

namespace Machine

theorem within_stepLine {m : Machine} {number : Nat} {line : List Char} {count n : Nat}
    (hcells : m.cells < ceiling) (hnumber : number < ceiling)
    (hline : line.length + 1 < ceiling) (hn : quoteSize line.length ≤ n)
    (h : m.trace.Within count n) : (m.stepLine number line).trace.Within (count + 2) n := by
  rw [stepLine]
  cases hst : Statement.ofLine? line with
  | none => exact ⟨Nat.le_add_right_of_le h.1, h.2⟩
  | some st =>
      obtain ⟨hcount, htexts⟩ := h
      obtain ⟨hlength, hevents⟩ :=
        State.brief_perform hcells ((Statement.quotes_of_ofLine? hst hline).mono hn)
      have hentries : ((m.step number st).trace).toList
          = m.trace.toList ++ (m.state.perform st).2.map (Entry.mk number) :=
        Array.toList_appendList
      -- the entries of this line stand behind the others
      refine ⟨?_, fun e he => ?_⟩
      · change (m.step number st).trace.size ≤ count + 2
        rw [← Array.length_toList, hentries, List.length_append, List.length_map]
        exact Nat.add_le_add hcount hlength
      · change e ∈ (m.step number st).trace.toList at he
        rw [hentries] at he
        rcases List.mem_append.mp he with he | he
        · exact htexts e he
        · obtain ⟨event, hevent, rfl⟩ := List.mem_map.mp he
          exact Entry.utf8ByteSize_text_le hnumber (hevents event hevent)

/-- **A run puts at most two entries on the trace for each line**, each no longer than the quotation
of a line allows. -/
theorem within_runFrom {m : Machine} {number count n : Nat} {lines : List (List Char)}
    (hcells : m.cells < ceiling) (hnumber : number + lines.length < ceiling)
    (hlines : ∀ line ∈ lines, line.length + 1 < ceiling ∧ quoteSize line.length ≤ n)
    (h : m.trace.Within count n) :
    (m.runFrom number lines).trace.Within (count + 2 * lines.length) n := by
  induction lines generalizing m number count with
  | nil => exact h
  | cons line lines ih =>
      rw [List.length_cons] at hnumber
      obtain ⟨⟨hline, hn⟩, hlines⟩ := List.forall_mem_cons.mp hlines
      have hfirst : number < ceiling := Nat.lt_of_le_of_lt (Nat.le_add_right _ _) hnumber
      have hstep := within_stepLine hcells hfirst hline hn h
      -- memory keeps its size, so that the bounds hold for the lines to come
      have hcells' : (m.stepLine number line).cells < ceiling :=
        (m.continues_stepLine number line).cells_eq ▸ hcells
      have hnumber' : number + 1 + lines.length < ceiling := by omega
      have hrest := ih hcells' hnumber' hlines hstep
      rw [List.length_cons, Nat.mul_succ, Nat.add_comm _ 2, ← Nat.add_assoc]
      exact hrest

end Machine

end RegisterMachine
