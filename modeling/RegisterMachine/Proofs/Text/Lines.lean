import RegisterMachine.Text.Lines

/-!
# Proofs — Text — Lines in place

A text is read from its first line on: what stands before the first line feed is one line, and the
rest of the text holds the others (`lines_append_newline`).  Everything here follows from this
equation by induction over the text, line by line (`lines_induction`).

* `getElem?_lines_eq_some_iff`: line `k`, counted from zero, is the one that `k` line feeds stand
  before, and there is no other (`LineAt`).
* `mapIdx_lines_eq`: a text can be edited line by line with every line ending kept as it is
  (`edit`); its lines are then the edited lines, except that the last one is gone if it has become
  empty and no line feed follows.
-/

namespace RegisterMachine.Text

/-! ### The first line and the rest -/

theorem splitOn_append_newline {piece : List Char} (h : '\n' ∉ piece) (rest : List Char) :
    (piece ++ '\n' :: rest).splitOn '\n' = piece :: rest.splitOn '\n' := by
  have hp : ∀ c ∈ piece, (c == '\n') = false :=
    fun c hc => beq_false_of_ne fun heq => h (heq ▸ hc)
  rw [List.splitOn_eq_splitOnP, List.splitOn_eq_splitOnP]
  exact List.splitOnP_append_cons_of_forall_mem hp '\n' (beq_self_eq_true _) rest

theorem splitOn_of_notMem {piece : List Char} (h : '\n' ∉ piece) :
    piece.splitOn '\n' = [piece] := by
  rw [List.splitOn_eq_splitOnP]
  exact List.splitOnP_eq_singleton fun c hc => beq_false_of_ne fun heq => h (heq ▸ hc)

@[simp] theorem lines_nil : lines [] = [] :=
  rfl

theorem lines_append_newline {piece : List Char} (h : '\n' ∉ piece) (rest : List Char) :
    lines (piece ++ '\n' :: rest) = chomp piece :: lines rest := by
  have hne : rest.splitOn '\n' ≠ [] := by
    rw [List.splitOn_eq_splitOnP]
    exact List.splitOnP_ne_nil _ rest
  rw [lines_eq, lines_eq, splitOn_append_newline h, ofPieces, ofPieces,
    List.dropLast_cons_of_ne_nil hne, List.getLast?_cons_of_ne_nil hne, List.map_cons,
    List.cons_append]

theorem lines_of_notMem {piece : List Char} (h : '\n' ∉ piece) (hne : piece ≠ []) :
    lines piece = [piece] := by
  rw [lines_eq, splitOn_of_notMem h]
  simp [ofPieces, hne]

/-- Induction over a text, line by line. -/
@[elab_as_elim]
theorem lines_induction {motive : List Char → Prop} (cs : List Char) (nil : motive [])
    (last : ∀ piece, '\n' ∉ piece → piece ≠ [] → motive piece)
    (line : ∀ piece rest, '\n' ∉ piece → motive rest → motive (piece ++ '\n' :: rest)) :
    motive cs := by
  by_cases h : '\n' ∈ cs
  · obtain ⟨piece, rest, hcs, hpiece⟩ := List.eq_append_cons_of_mem h
    have hlt : rest.length < cs.length := by
      rw [hcs, List.length_append, List.length_cons]
      omega
    exact hcs ▸ line piece rest hpiece (lines_induction rest nil last line)
  · by_cases hne : cs = []
    · exact hne ▸ nil
    · exact last cs h hne
termination_by cs.length

/-! ### Where a line stands -/

/-- The text is empty or ends with a line feed, so that whatever follows it begins a line. -/
def Ended (cs : List Char) : Prop :=
  ∀ c ∈ cs.getLast?, c = '\n'

theorem ended_nil : Ended [] := by
  simp [Ended]

theorem ended_append_newline (piece : List Char) {cs : List Char} (h : Ended cs) :
    Ended (piece ++ '\n' :: cs) := by
  cases cs with
  | nil => simp [Ended]
  | cons c cs => simpa [Ended, List.getLast?_append, List.getLast?_cons] using h

theorem Ended.of_append_newline {piece cs : List Char} (h : Ended (piece ++ '\n' :: cs)) :
    Ended cs := by
  cases cs with
  | nil => exact ended_nil
  | cons c cs => simpa [Ended, List.getLast?_append, List.getLast?_cons] using h

theorem Ended.eq_nil {piece : List Char} (h : Ended piece) (hpiece : '\n' ∉ piece) :
    piece = [] := by
  by_cases hne : piece = []
  · exact hne
  · have hlast := h _ (List.getLast?_eq_some_getLast hne)
    exact absurd (hlast ▸ List.getLast_mem hne) hpiece

/-- What follows an ended text has its lines behind those of that text. -/
theorem lines_append {before : List Char} (h : Ended before) (cs : List Char) :
    lines (before ++ cs) = lines before ++ lines cs := by
  induction before using lines_induction with
  | nil => rfl
  | last piece hpiece hne => exact absurd (h.eq_nil hpiece) hne
  | line piece rest hpiece ih =>
      rw [List.append_assoc, List.cons_append, lines_append_newline hpiece,
        lines_append_newline hpiece, ih h.of_append_newline, List.cons_append]

/-- An ended text has a line for each line feed. -/
theorem length_lines {before : List Char} (h : Ended before) :
    (lines before).length = before.count '\n' := by
  induction before using lines_induction with
  | nil => rfl
  | last piece hpiece hne => exact absurd (h.eq_nil hpiece) hne
  | line piece rest hpiece ih =>
      rw [lines_append_newline hpiece, List.length_cons, ih h.of_append_newline, List.count_append,
        List.count_eq_zero_of_not_mem hpiece, List.count_cons_self, Nat.zero_add]

/-- `line` is a line of the text, and `k` line feeds stand before it.  A line begins where the text
does or behind a line feed, and it holds no line feed itself.  It ends with a line feed, which a
carriage return may precede, or else with the text, and then it is not empty. -/
inductive LineAt (cs : List Char) : Nat → List Char → Prop where
  | ended {before piece rest : List Char} (hcs : cs = before ++ (piece ++ '\n' :: rest))
      (hbefore : Ended before) (hpiece : '\n' ∉ piece) :
      LineAt cs (before.count '\n') (chomp piece)
  | last {before piece : List Char} (hcs : cs = before ++ piece) (hbefore : Ended before)
      (hpiece : '\n' ∉ piece) (hne : piece ≠ []) : LineAt cs (before.count '\n') piece

theorem LineAt.append_newline {piece rest line : List Char} {k : Nat} (hpiece : '\n' ∉ piece)
    (h : LineAt rest k line) : LineAt (piece ++ '\n' :: rest) (k + 1) line := by
  have hcount : ∀ before : List Char,
      before.count '\n' + 1 = (piece ++ '\n' :: before).count '\n' := by
    intro before
    rw [List.count_append, List.count_eq_zero_of_not_mem hpiece, List.count_cons_self,
      Nat.zero_add]
  cases h with
  | @ended before piece' rest' hcs hbefore hpiece' =>
      rw [hcount]
      refine @LineAt.ended _ _ piece' rest' ?_ (ended_append_newline piece hbefore) hpiece'
      rw [hcs, List.append_assoc, List.cons_append]
  | last hcs hbefore hpiece' hne =>
      rw [hcount]
      refine .last ?_ (ended_append_newline piece hbefore) hpiece' hne
      rw [hcs, List.append_assoc, List.cons_append]

theorem lineAt_of_getElem? {cs line : List Char} {k : Nat} (h : (lines cs)[k]? = some line) :
    LineAt cs k line := by
  induction cs using lines_induction generalizing k with
  | nil => cases h
  | last piece hpiece hne =>
      rw [lines_of_notMem hpiece hne, List.getElem?_singleton] at h
      obtain ⟨rfl, h⟩ := Option.ite_none_right_eq_some.mp h
      obtain rfl := Option.some.inj h
      exact @LineAt.last _ [] piece rfl ended_nil hpiece hne
  | line piece rest hpiece ih =>
      rw [lines_append_newline hpiece] at h
      cases k with
      | zero =>
          obtain rfl := Option.some.inj h
          exact @LineAt.ended _ [] piece rest rfl ended_nil hpiece
      | succ k => exact (ih h).append_newline hpiece

theorem LineAt.getElem? {cs line : List Char} {k : Nat} (h : LineAt cs k line) :
    (lines cs)[k]? = some line := by
  cases h with
  | ended hcs hbefore hpiece =>
      rw [hcs, lines_append hbefore, lines_append_newline hpiece, ← length_lines hbefore,
        List.getElem?_append_right (Nat.le_refl _), Nat.sub_self]
      rfl
  | last hcs hbefore hpiece hne =>
      rw [hcs, lines_append hbefore, lines_of_notMem hpiece hne, ← length_lines hbefore,
        List.getElem?_append_right (Nat.le_refl _), Nat.sub_self]
      rfl

/-- **Lines are counted by line feeds.** -/
theorem getElem?_lines_eq_some_iff {cs line : List Char} {k : Nat} :
    (lines cs)[k]? = some line ↔ LineAt cs k line :=
  ⟨lineAt_of_getElem?, LineAt.getElem?⟩

/-! ### Editing line by line -/

/-- The part of a line ending that stands before its line feed. -/
def ending (piece : List Char) : List Char :=
  if piece.getLast? = some '\r' then ['\r'] else []

theorem chomp_append_ending (piece : List Char) : chomp piece ++ ending piece = piece := by
  rw [chomp, ending]
  split
  · next h =>
      obtain ⟨front, rfl⟩ := List.getLast?_eq_some_iff.mp h
      rw [List.dropLast_concat]
  · exact List.append_nil piece

/-- Edits the pieces between line feeds, of which the first has the given number.  What follows the
last line feed is a line if it is not empty. -/
def editPieces (f : Nat → List Char → List Char) (number : Nat) : List (List Char) → List Char
  | []              => []
  | [piece]         => if piece = [] then [] else f number piece
  | piece :: pieces =>
    f number (chomp piece) ++ (ending piece ++ '\n' :: editPieces f (number + 1) pieces)

/-- Edits the lines of a text, of which the first has the given number, and keeps their endings. -/
def edit (f : Nat → List Char → List Char) (number : Nat) (cs : List Char) : List Char :=
  editPieces f number (cs.splitOn '\n')

/-- An edited line is still one line, and does not gain a carriage return at its end. -/
def KeepsLines (f : Nat → List Char → List Char) : Prop :=
  ∀ number line, '\n' ∉ line →
    '\n' ∉ f number line ∧ ((f number line).getLast? = some '\r' → line.getLast? = some '\r')

section

variable {f : Nat → List Char → List Char} {number : Nat} {piece : List Char}

theorem edit_of_notMem (h : '\n' ∉ piece) (hne : piece ≠ []) :
    edit f number piece = f number piece := by
  rw [edit, splitOn_of_notMem h, editPieces, if_neg hne]

theorem edit_append_newline (h : '\n' ∉ piece) (rest : List Char) :
    edit f number (piece ++ '\n' :: rest) =
      f number (chomp piece) ++ ending piece ++ '\n' :: edit f (number + 1) rest := by
  have hne : rest.splitOn '\n' ≠ [] := by
    rw [List.splitOn_eq_splitOnP]
    exact List.splitOnP_ne_nil _ rest
  obtain ⟨piece', pieces, hrest⟩ := List.exists_cons_of_ne_nil hne
  rw [edit, edit, splitOn_append_newline h, hrest, editPieces, List.append_assoc]
  exact nofun

theorem notMem_chomp (h : '\n' ∉ piece) : '\n' ∉ chomp piece := by
  rw [← chomp_append_ending piece] at h
  exact fun hmem => h (List.mem_append_left _ hmem)

/-- What an edited line ends with is its own ending again. -/
theorem chomp_edited (hf : KeepsLines f) (number : Nat) (h : '\n' ∉ piece) :
    '\n' ∉ f number (chomp piece) ++ ending piece ∧
      chomp (f number (chomp piece) ++ ending piece) = f number (chomp piece) := by
  obtain ⟨hfeed, hreturn⟩ := hf number (chomp piece) (notMem_chomp h)
  by_cases hpiece : piece.getLast? = some '\r'
  · rw [ending, if_pos hpiece]
    refine ⟨fun hmem => ?_, ?_⟩
    · rcases List.mem_append.mp hmem with hmem | hmem
      · exact hfeed hmem
      · exact absurd hmem (by decide)
    · rw [chomp, List.getLast?_concat, if_pos rfl, List.dropLast_concat]
  · have hchomp : chomp piece = piece := if_neg hpiece
    rw [hchomp] at hfeed hreturn ⊢
    rw [ending, if_neg hpiece, List.append_nil]
    exact ⟨hfeed, if_neg fun hlast => hpiece (hreturn hlast)⟩

/-- **The lines of an edited text are the edited lines**, up to lines at the end that are empty. -/
theorem mapIdx_lines_eq (hf : KeepsLines f) (number : Nat) (cs : List Char) :
    ∃ blank, (lines cs).mapIdx (fun k line => f (number + k) line) =
        lines (edit f number cs) ++ blank ∧
      ∀ line ∈ blank, line = [] := by
  induction cs using lines_induction generalizing number with
  | nil => exact ⟨[], rfl, nofun⟩
  | last piece hpiece hne =>
      rw [lines_of_notMem hpiece hne, edit_of_notMem hpiece hne]
      by_cases hblank : f number piece = []
      · refine ⟨[[]], ?_, by simp⟩
        simp [hblank]
      · refine ⟨[], ?_, nofun⟩
        rw [lines_of_notMem (hf number piece hpiece).1 hblank]
        rfl
  | line piece rest hpiece ih =>
      obtain ⟨hfeed, hchomp⟩ := chomp_edited hf number hpiece
      obtain ⟨blank, hrest, hblank⟩ := ih (number + 1)
      refine ⟨blank, ?_, hblank⟩
      rw [lines_append_newline hpiece, edit_append_newline hpiece, lines_append_newline hfeed,
        hchomp, List.mapIdx_cons, List.cons_append, ← hrest]
      simp only [Nat.add_zero, Nat.add_assoc, Nat.add_comm 1]

end

end RegisterMachine.Text
