import RegisterMachine.Runner
import RegisterMachine.Proofs.Machine.Course
import RegisterMachine.Proofs.Text.Lines
import RegisterMachine.Proofs.Text.Words

/-!
# Proofs — Machine — Composition

Two programs can be joined by a line feed.  The joined program does what the first does, and then
what the second does from there, with its lines numbered on (`programs_compose`).

A line feed divides a text without a remainder, which the lines of a text do not show: a last line
that is empty is none, and a carriage return belongs to the ending of its line only if a line feed
follows.  A run does not see either.  It reads a text as the pieces between line feeds
(`Machine.runFrom_lines`), and these are simply appended (`List.splitOn_append_cons_self`).
-/

namespace RegisterMachine

/-! ### Pieces between line feeds -/

namespace Text

/-- A text has one piece more than line feeds. -/
theorem length_splitOn (cs : List Char) : (cs.splitOn '\n').length = cs.count '\n' + 1 := by
  induction cs using lines_induction with
  | nil => rfl
  | last piece hpiece hne =>
      rw [splitOn_of_notMem hpiece, List.count_eq_zero_of_not_mem hpiece]
      rfl
  | line piece rest hpiece ih =>
      rw [splitOn_append_newline hpiece, List.length_cons, ih, List.count_append,
        List.count_eq_zero_of_not_mem hpiece, List.count_cons_self, Nat.zero_add]

end Text

namespace Statement

/-- The carriage return of a line ending is no part of a statement. -/
theorem ofLine?_chomp (piece : List Char) : ofLine? (Text.chomp piece) = ofLine? piece := by
  have hending : ∀ c ∈ Text.ending piece, isSeparator c = true := by
    rw [Text.ending]
    split
    · exact List.forall_mem_singleton.mpr (by decide)
    · exact List.forall_mem_nil _
  have hwords := words_append_gap_right hending (Text.chomp piece)
  rw [Text.chomp_append_ending] at hwords
  rw [ofLine?, ofLine?, hwords]

end Statement

namespace Machine

theorem stepLine_congr (m : Machine) (number : Nat) {line line' : List Char}
    (h : Statement.ofLine? line = Statement.ofLine? line') :
    m.stepLine number line = m.stepLine number line' := by
  rw [stepLine, stepLine, h]

/-- **A run reads the pieces between line feeds.** -/
theorem runFrom_lines (m : Machine) (number : Nat) (cs : List Char) :
    m.runFrom number (Text.lines cs) = m.runFrom number (cs.splitOn '\n') := by
  induction cs using Text.lines_induction generalizing m number with
  | nil => rfl
  | last piece hpiece hne => rw [Text.lines_of_notMem hpiece hne, Text.splitOn_of_notMem hpiece]
  | line piece rest hpiece ih =>
      rw [Text.lines_append_newline hpiece, Text.splitOn_append_newline hpiece, runFrom, runFrom,
        m.stepLine_congr number (Statement.ofLine?_chomp piece), ih]

/-- A text behind another and a line feed. -/
theorem runFrom_lines_join (m : Machine) (number : Nat) (cs cs' : List Char) :
    m.runFrom number (Text.lines (cs ++ '\n' :: cs')) =
      (m.runFrom number (Text.lines cs)).runFrom (number + (cs.count '\n' + 1))
        (Text.lines cs') := by
  rw [runFrom_lines, List.splitOn_append_cons_self, runFrom_append, Text.length_splitOn,
    ← runFrom_lines, ← runFrom_lines]

/-! ### Going on -/

/-- Carries out the statements of a program; its line `j`, counted from one, has the number `n + j`,
and a line without a statement is passed over. -/
def goOn (m : Machine) (n : Nat) (source : String) : Machine :=
  ((Text.lines source.toList).zipIdx 1).foldl
    (fun m (line, j) =>
      match Statement.ofLine? line with
      | some st => m.step (n + j) st
      | none    => m)
    m

theorem runFrom_eq_foldl (m : Machine) (n j : Nat) (lines : List (List Char)) :
    m.runFrom (n + j) lines =
      (lines.zipIdx j).foldl (fun m (line, j) => m.stepLine (n + j) line) m := by
  induction lines generalizing m j with
  | nil => rfl
  | cons line lines ih => rw [runFrom, List.zipIdx_cons, List.foldl_cons, Nat.add_assoc, ih]

theorem goOn_eq (m : Machine) (n : Nat) (source : String) :
    m.goOn n source = m.runFrom (n + 1) (Text.lines source.toList) :=
  (m.runFrom_eq_foldl n 1 _).symm

/-- What a run adds to the trace does not depend on what is there. -/
theorem trace_goOn (m : Machine) (n : Nat) (source : String) :
    (m.goOn n source).trace = m.trace ++ (goOn ⟨m.state, #[]⟩ n source).trace := by
  apply Array.toList_inj.mp
  rw [Array.toList_append, goOn_eq, goOn_eq, toList_trace_runFrom, toList_trace_runFrom]
  rfl

theorem state_goOn (m : Machine) (n : Nat) (source : String) :
    (m.goOn n source).state = (goOn ⟨m.state, #[]⟩ n source).state := by
  rw [goOn_eq, goOn_eq, state_runFrom, state_runFrom]

end Machine

/-- **Programs compose.**  With `n` lines in the first of two programs, an empty last line counted,
the two joined by a line feed run as the first and then, from the machine that it leaves, as the
second with its lines numbered from `n + 1`.  So the trace is that of the first, and behind it what
the second leaves when it is run from the state that the first ends in. -/
theorem programs_compose (r : Runner) (a b : String) :
    let first := (r.run a).machine
    let joined := (r.run (a ++ "\n" ++ b)).machine
    let n := 1 + a.toList.count '\n'
    let rest := Machine.goOn ⟨first.state, #[]⟩ n b
    joined = first.goOn n b ∧ joined.trace = first.trace ++ rest.trace ∧
      joined.state = rest.state := by
  intro first joined n rest
  have hsource : (a ++ "\n" ++ b).toList = a.toList ++ '\n' :: b.toList := by
    rw [String.toList_append, String.toList_append, List.append_assoc]
    rfl
  have hjoined : joined = first.goOn n b := by
    rw [Machine.goOn_eq]
    show r.machine.reset.runFrom 1 (Text.lines (a ++ "\n" ++ b).toList) = _
    rw [hsource, Machine.runFrom_lines_join, ← Nat.add_assoc]
    rfl
  refine ⟨hjoined, ?_, ?_⟩
  · rw [hjoined, Machine.trace_goOn]
  · rw [hjoined, Machine.state_goOn]

/-- The carriage return at the end of the first program joins the line feed behind it, and its line
keeps its number. -/
example :
    (Machine.run 4 ("push 1\nfoo\r" ++ "\n" ++ "\npop eax")).trace.toList =
      [⟨1, .effect (.push 1 (-4))⟩, ⟨2, .fault (.unknownInstruction "foo")⟩,
        ⟨4, .effect (.pop .eax 1)⟩] := by
  decide +kernel

end RegisterMachine
