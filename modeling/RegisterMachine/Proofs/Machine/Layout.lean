import Mathlib.Logic.Relation
import RegisterMachine.Proofs.Machine.Composition
import RegisterMachine.Proofs.Text.LetterCase

/-!
# Proofs — Machine — Layout

How a program is laid out is of no account.  Comments can be put in and taken out, separators
exchanged, the first word of a line can be written in letters of either case, and a line feed can
have a carriage return before it or not: after any number of such changes, anywhere in a text, it
runs as before (`layout_does_not_matter`).

A change is an edit of the text itself, at a place in it (`LayoutEdit`), and most are edits of a
single line (`LineEdit`).  An edited line holds the same statement (`LineEdit.ofLine?_eq`), and a
line is carried out by its statement alone.
-/

namespace RegisterMachine

/-! ### Edits -/

/-- A stretch of separators that leaves the line as one. -/
def Statement.IsGap (gap : List Char) : Prop :=
  ∀ c ∈ gap, isSeparator c = true ∧ c ≠ '\n'

instance (gap : List Char) : Decidable (Statement.IsGap gap) :=
  List.decidableBAll (fun c => Statement.isSeparator c = true ∧ c ≠ '\n') gap

open Statement (IsGap inWord)

/-- One change to the layout of a line. -/
inductive LineEdit : List Char → List Char → Prop where
  /-- A comment is put at the end. -/
  | comment (line : List Char) {note : List Char} (hnote : '\n' ∉ note) :
      LineEdit line (line ++ ';' :: note)
  /-- Separators, at least one, give way to others, at least one. -/
  | between (front : List Char) {gap gap' : List Char} (hgap : IsGap gap) (hgap' : IsGap gap')
      (hne : gap ≠ []) (hne' : gap' ≠ []) (back : List Char) :
      LineEdit (front ++ (gap ++ back)) (front ++ (gap' ++ back))
  /-- Separators are put in front of the first word. -/
  | before {gap : List Char} (hgap : IsGap gap) (line : List Char) : LineEdit line (gap ++ line)
  /-- Separators are put behind the last word, at the end or in front of a comment. -/
  | behind (line : List Char) {gap : List Char} (hgap : IsGap gap) {rest : List Char}
      (hrest : ∀ c ∈ rest.head?, c = ';') : LineEdit (line ++ rest) (line ++ (gap ++ rest))
  /-- The first word, or the beginning of it, is written in letters of another case. -/
  | letters {gap : List Char} (hgap : IsGap gap) {word word' : List Char}
      (hword : ∀ c ∈ word, inWord c = true)
      (hcase : word'.map Char.toLower = word.map Char.toLower) (back : List Char) :
      LineEdit (gap ++ (word ++ back)) (gap ++ (word' ++ back))

/-- The text ends here, or a line ending stands here. -/
inductive EndsLine : List Char → Prop where
  | last : EndsLine []
  | feed (rest : List Char) : EndsLine ('\n' :: rest)
  | returnFeed (rest : List Char) : EndsLine ('\r' :: '\n' :: rest)

/-- One change to the layout of a text: an edit of one of its lines, or a carriage return in front
of a line feed. -/
inductive LayoutEdit : List Char → List Char → Prop where
  | line {before line line' after : List Char} (hbefore : Text.Ended before) (hline : '\n' ∉ line)
      (hafter : EndsLine after) (h : LineEdit line line') :
      LayoutEdit (before ++ (line ++ after)) (before ++ (line' ++ after))
  | ending (before after : List Char) :
      LayoutEdit (before ++ '\n' :: after) (before ++ '\r' :: '\n' :: after)

/-! ### One line -/

namespace Statement

theorem IsGap.isSeparator {gap : List Char} (h : IsGap gap) : ∀ c ∈ gap, isSeparator c = true :=
  fun c hc => (h c hc).1

theorem IsGap.notMem {gap : List Char} (h : IsGap gap) : '\n' ∉ gap :=
  fun hmem => (h '\n' hmem).2 rfl

theorem isGap_return : IsGap ['\r'] := by
  decide

theorem ofLine?_eq_of_words_eq {line line' : List Char} (h : words line = words line') :
    ofLine? line = ofLine? line' := by
  rw [ofLine?, ofLine?, h]

theorem inWord_toLower (c : Char) : inWord c.toLower = inWord c :=
  Text.apply_toLower inWord (by decide +kernel) c

theorem forall_inWord_of_map_toLower {word word' : List Char} (hword : ∀ c ∈ word, inWord c = true)
    (hcase : word'.map Char.toLower = word.map Char.toLower) : ∀ c ∈ word', inWord c = true := by
  intro c hc
  have hmem : c.toLower ∈ word.map Char.toLower := hcase ▸ List.mem_map_of_mem hc
  obtain ⟨d, hd, hdc⟩ := List.mem_map.mp hmem
  rw [← inWord_toLower c, ← hdc, inWord_toLower]
  exact hword d hd

/-- A line that begins with a word, of which only the beginning is known. -/
theorem ofLine?_append {word : List Char} (hne : word ≠ []) (hword : ∀ c ∈ word, inWord c = true)
    (back : List Char) :
    ofLine? (word ++ back) =
      some ⟨String.ofList (Text.lowercase (word ++ back.takeWhile inWord)),
        (words (back.dropWhile inWord)).map String.ofList⟩ := by
  have hfirst : IsWord (word ++ back.takeWhile inWord) := by
    refine ⟨List.append_ne_nil_of_left_ne_nil hne _, ?_⟩
    exact List.forall_mem_append.mpr ⟨hword, List.all_eq_true.mp List.all_takeWhile⟩
  have hafter : ∀ c ∈ (back.dropWhile inWord).head?, inWord c = false := by
    intro c hc
    have hhead := List.head?_dropWhile_not inWord back
    rw [hc] at hhead
    exact hhead
  have hwords := words_append_word hfirst hafter
  rw [List.append_assoc, List.takeWhile_append_dropWhile] at hwords
  rw [ofLine?, hwords]

end Statement

namespace LineEdit

open Statement

/-- **An edited line holds the same statement.** -/
theorem ofLine?_eq {line line' : List Char} (h : LineEdit line line') :
    ofLine? line' = ofLine? line := by
  cases h with
  | comment => exact ofLine?_eq_of_words_eq (words_append_comment line _)
  | between front hgap hgap' hne hne' back =>
      apply ofLine?_eq_of_words_eq
      by_cases hfront : ';' ∈ front
      · rw [words_append_of_mem hfront, words_append_of_mem hfront]
      · rw [words_append_gap_append hgap'.isSeparator hne' hfront,
          words_append_gap_append hgap.isSeparator hne hfront]
  | before hgap => exact ofLine?_eq_of_words_eq (words_append_gap hgap.isSeparator line)
  | @behind front gap hgap rest hrest =>
      apply ofLine?_eq_of_words_eq
      cases rest with
      | nil => rw [List.append_nil, List.append_nil, words_append_gap_right hgap.isSeparator]
      | cons c note =>
          obtain rfl := hrest c rfl
          rw [← List.append_assoc, words_append_comment, words_append_comment,
            words_append_gap_right hgap.isSeparator]
  | @letters gap hgap word word' hword hcase back =>
      have hskip : ∀ cs, ofLine? (gap ++ cs) = ofLine? cs :=
        fun cs => ofLine?_eq_of_words_eq (words_append_gap hgap.isSeparator cs)
      rw [hskip, hskip]
      by_cases hne : word = []
      · subst hne
        obtain rfl := List.map_eq_nil_iff.mp hcase
        rfl
      · have hne' : word' ≠ [] := by
          rintro rfl
          exact hne (List.map_eq_nil_iff.mp hcase.symm)
        have hlower : Text.lowercase (word' ++ back.takeWhile inWord) =
            Text.lowercase (word ++ back.takeWhile inWord) := by
          rw [← Text.lowercase_map_toLower, List.map_append, hcase, ← List.map_append,
            Text.lowercase_map_toLower]
        rw [ofLine?_append hne hword, ofLine?_append hne' (forall_inWord_of_map_toLower hword hcase),
          hlower]

/-- An edited line is still one line. -/
theorem notMem {line line' : List Char} (h : LineEdit line line') (hline : '\n' ∉ line) :
    '\n' ∉ line' := by
  cases h with
  | comment _ hnote => simp [hline, hnote]
  | between _ _ hgap' => simp_all [hgap'.notMem]
  | before hgap => simp [hline, hgap.notMem]
  | behind _ hgap => simp_all [hgap.notMem]
  | letters _ hword hcase =>
      have hword' := forall_inWord_of_map_toLower hword hcase
      have hfeed : ∀ {cs : List Char}, (∀ c ∈ cs, inWord c = true) → '\n' ∉ cs :=
        fun h hmem => absurd (h _ hmem) (by decide)
      simp_all [hfeed hword']

end LineEdit

/-! ### The text -/

namespace Text

/-- What follows the last line feed of a text. -/
theorem exists_ended_append (cs : List Char) :
    ∃ before piece, cs = before ++ piece ∧ Ended before ∧ '\n' ∉ piece := by
  induction cs using lines_induction with
  | nil => exact ⟨[], [], rfl, ended_nil, nofun⟩
  | last piece hpiece hne => exact ⟨[], piece, rfl, ended_nil, hpiece⟩
  | line piece rest hpiece ih =>
      obtain ⟨before, last, rfl, hbefore, hlast⟩ := ih
      refine ⟨piece ++ '\n' :: before, last, ?_, ended_append_newline piece hbefore, hlast⟩
      rw [List.append_assoc, List.cons_append]

end Text

namespace Machine

/-- Carrying out a text begins with its first line. -/
theorem exists_runFrom_eq {after : List Char} (h : EndsLine after) :
    ∃ lines, ∀ (m : Machine) (number : Nat) (line : List Char), '\n' ∉ line →
      m.runFrom number (Text.lines (line ++ after)) =
        (m.stepLine number line).runFrom (number + 1) lines := by
  cases h with
  | last =>
      refine ⟨[], fun m number line hline => ?_⟩
      rw [List.append_nil, runFrom_lines, Text.splitOn_of_notMem hline]
      rfl
  | feed rest =>
      refine ⟨rest.splitOn '\n', fun m number line hline => ?_⟩
      rw [runFrom_lines, Text.splitOn_append_newline hline]
      rfl
  | returnFeed rest =>
      refine ⟨rest.splitOn '\n', fun m number line hline => ?_⟩
      have hreturn : '\n' ∉ line ++ ['\r'] := by simp [hline]
      have hstatement : Statement.ofLine? (line ++ ['\r']) = Statement.ofLine? line :=
        Statement.ofLine?_eq_of_words_eq
          (Statement.words_append_gap_right Statement.isGap_return.isSeparator line)
      rw [List.append_cons, runFrom_lines, Text.splitOn_append_newline hreturn, runFrom,
        m.stepLine_congr number hstatement]

theorem runFrom_lines_edit {before line line' after : List Char} (hbefore : Text.Ended before)
    (hline : '\n' ∉ line) (hafter : EndsLine after) (h : LineEdit line line') (m : Machine)
    (number : Nat) :
    m.runFrom number (Text.lines (before ++ (line' ++ after))) =
      m.runFrom number (Text.lines (before ++ (line ++ after))) := by
  obtain ⟨lines, hlines⟩ := exists_runFrom_eq hafter
  rw [Text.lines_append hbefore, Text.lines_append hbefore, runFrom_append, runFrom_append,
    hlines _ _ _ hline, hlines _ _ _ (h.notMem hline), stepLine_congr _ _ h.ofLine?_eq]

/-- **One edit.** -/
theorem runFrom_layoutEdit {cs cs' : List Char} (h : LayoutEdit cs cs') (m : Machine)
    (number : Nat) : m.runFrom number (Text.lines cs') = m.runFrom number (Text.lines cs) := by
  cases h with
  | line hbefore hline hafter h => exact runFrom_lines_edit hbefore hline hafter h m number
  | ending before after =>
      -- the carriage return is a separator behind the last word of its line
      obtain ⟨before, line, rfl, hbefore, hline⟩ := Text.exists_ended_append before
      have hedit : LineEdit (line ++ []) (line ++ (['\r'] ++ [])) :=
        .behind line Statement.isGap_return nofun
      rw [List.append_nil, List.append_nil] at hedit
      have hrun := runFrom_lines_edit hbefore hline (.feed after) hedit m number
      rwa [List.append_assoc, List.singleton_append, ← List.append_assoc before,
        ← List.append_assoc before] at hrun

/-- **Edits, one after the other or taken back.** -/
theorem runFrom_eqvGen {cs cs' : List Char} (h : Relation.EqvGen LayoutEdit cs cs') (m : Machine)
    (number : Nat) : m.runFrom number (Text.lines cs') = m.runFrom number (Text.lines cs) := by
  induction h with
  | rel cs cs' h => exact runFrom_layoutEdit h m number
  | refl cs => rfl
  | symm cs cs' _ ih => exact ih.symm
  | trans cs cs' cs'' _ _ ih ih' => exact ih'.trans ih

end Machine

/-- **Layout does not matter.**  A program that has been laid out anew, by any edits of its layout in
any order, runs as it did before: the snapshot of the run is the same, and so is the runner. -/
theorem layout_does_not_matter (r : Runner) {source source' : String}
    (h : Relation.EqvGen LayoutEdit source.toList source'.toList) :
    r.call (.run source') = r.call (.run source) := by
  have hrun : r.run source' = r.run source := by
    rw [Runner.run, Runner.run, Machine.runFrom_eqvGen h]
  rw [Runner.call, Runner.call, hrun]

/-- A name of no instruction in other letters, and behind it a sigma at the end of a word; a
comment, a line ending, and a comma and a tab for a blank. -/
theorem layout_does_not_matter_sigma :
    let source := "fΣ\npop a"
    let source' := "FΣ;x\r\npop,\ta"
    Relation.EqvGen LayoutEdit source.toList source'.toList ∧
      (Runner.new {}).call (.run source') = (Runner.new {}).call (.run source) := by
  intro source source'
  have hletters : LayoutEdit "fΣ\npop a".toList "FΣ\npop a".toList :=
    @LayoutEdit.line [] ['f', 'Σ'] ['F', 'Σ'] ['\n', 'p', 'o', 'p', ' ', 'a'] Text.ended_nil
      (by decide) (.feed _)
      (@LineEdit.letters [] nofun ['f', 'Σ'] ['F', 'Σ'] (List.all_eq_true.mp (by decide)) rfl [])
  have hcomment : LayoutEdit "FΣ\npop a".toList "FΣ;x\npop a".toList :=
    @LayoutEdit.line [] ['F', 'Σ'] ['F', 'Σ', ';', 'x'] ['\n', 'p', 'o', 'p', ' ', 'a']
      Text.ended_nil (by decide) (.feed _) (@LineEdit.comment ['F', 'Σ'] ['x'] (by decide))
  have hending : LayoutEdit "FΣ;x\npop a".toList "FΣ;x\r\npop a".toList :=
    .ending ['F', 'Σ', ';', 'x'] ['p', 'o', 'p', ' ', 'a']
  have hcomma : LayoutEdit "FΣ;x\r\npop a".toList "FΣ;x\r\npop,\ta".toList :=
    @LayoutEdit.line ['F', 'Σ', ';', 'x', '\r', '\n'] ['p', 'o', 'p', ' ', 'a']
      ['p', 'o', 'p', ',', '\t', 'a'] [] (by simp [Text.Ended]) (by decide) .last
      (@LineEdit.between ['p', 'o', 'p'] [' '] [',', '\t'] (by decide) (by decide) nofun nofun
        ['a'])
  have hedits : Relation.EqvGen LayoutEdit source.toList source'.toList :=
    .trans _ _ _ (.rel _ _ hletters) <| .trans _ _ _ (.rel _ _ hcomment) <|
      .trans _ _ _ (.rel _ _ hending) (.rel _ _ hcomma)
  exact ⟨hedits, layout_does_not_matter (Runner.new {}) hedits⟩

end RegisterMachine
