import RegisterMachine.Statement

/-!
# Proofs — Text — Words in place

A line is read from its first word on: separators in front of a word count for nothing
(`words_append_gap`), and a word that has ended is the first of the words of its line
(`words_append_word`).  The words are the tokens of the line, which can be said without reading it
(`tokens_iff`).  At a separator a line comes apart (`words_append_separator`), and a comment
can be put behind any line (`words_append_comment`).

A line can be cut at one of its words (`cutWord?`), and another word put in its place leaves all
the others as they were (`words_put`).
-/

namespace RegisterMachine.Statement

/-- The character can be part of a word: it neither separates words nor starts a comment. -/
def inWord (c : Char) : Bool :=
  c != ';' && !isSeparator c

/-- Characters that make up a word. -/
def IsWord (w : List Char) : Prop :=
  w ≠ [] ∧ ∀ c ∈ w, inWord c = true

theorem inWord_iff {c : Char} : inWord c = true ↔ c ≠ ';' ∧ isSeparator c = false := by
  simp [inWord]

/-- What ends a word and is no comment separates it from the next. -/
theorem isSeparator_of_not_inWord {c : Char} (h : inWord c = false) (hc : c ≠ ';') :
    isSeparator c = true := by
  simpa [inWord, hc] using h

/-! ### The first word and the rest -/

@[simp] theorem words_nil : words [] = [] :=
  rfl

@[simp] theorem words_comment (cs : List Char) : words (';' :: cs) = [] :=
  rfl

@[simp] theorem words_cons_separator {c : Char} (h : isSeparator c = true) (cs : List Char) :
    words (c :: cs) = words cs := by
  have hc : c ≠ ';' := by
    rintro rfl
    exact absurd h (by decide)
  rw [words_eq, words_eq, code, List.takeWhile_cons_of_pos (by simpa using hc), ← code,
    List.splitOnP_cons_eq_if_modifyHead, if_pos h]
  rfl

theorem words_append_gap {gap : List Char} (h : ∀ c ∈ gap, isSeparator c = true)
    (cs : List Char) : words (gap ++ cs) = words cs := by
  induction gap with
  | nil => rfl
  | cons c gap ih =>
      obtain ⟨hc, hgap⟩ := List.forall_mem_cons.mp h
      rw [List.cons_append, words_cons_separator hc, ih hgap]

/-- A word ends where the line does, or a separator or a comment follows. -/
theorem words_append_word {word after : List Char} (hword : IsWord word)
    (hafter : ∀ c ∈ after.head?, inWord c = false) :
    words (word ++ after) = word :: words after := by
  obtain ⟨hne, hword⟩ := hword
  have hsep : ∀ c ∈ word, isSeparator c = false := fun c hc => (inWord_iff.mp (hword c hc)).2
  have hcode : code (word ++ after) = word ++ code after :=
    List.takeWhile_append_of_pos fun c hc => by simpa using (inWord_iff.mp (hword c hc)).1
  rw [words_eq, hcode]
  cases after with
  | nil => simp [code, List.splitOnP_eq_singleton hsep, hne]
  | cons c after =>
      by_cases hc : c = ';'
      · simp [code, hc, List.splitOnP_eq_singleton hsep, hne]
      · have hc' : isSeparator c = true :=
          isSeparator_of_not_inWord (hafter c rfl) hc
        rw [words_cons_separator hc', words_eq, code,
          List.takeWhile_cons_of_pos (by simpa using hc), ← code,
          List.splitOnP_append_cons_of_forall_mem hsep c hc']
        simp [hne]

/-- The separators in front of the first word of a line. -/
def gap (line : List Char) : List Char :=
  line.takeWhile isSeparator

/-- The first word of a line. -/
def firstWord (line : List Char) : List Char :=
  (line.dropWhile isSeparator).takeWhile inWord

/-- What follows the first word of a line. -/
def afterFirst (line : List Char) : List Char :=
  (line.dropWhile isSeparator).dropWhile inWord

theorem gap_append (line : List Char) : gap line ++ (firstWord line ++ afterFirst line) = line := by
  rw [gap, firstWord, afterFirst, List.takeWhile_append_dropWhile, List.takeWhile_append_dropWhile]

theorem isSeparator_of_mem_gap (line : List Char) : ∀ c ∈ gap line, isSeparator c = true :=
  List.all_eq_true.mp List.all_takeWhile

theorem isWord_firstWord {line : List Char} (h : firstWord line ≠ []) : IsWord (firstWord line) :=
  ⟨h, List.all_eq_true.mp List.all_takeWhile⟩

theorem head?_afterFirst {line : List Char} :
    ∀ c ∈ (afterFirst line).head?, inWord c = false := by
  intro c hc
  have h := List.head?_dropWhile_not inWord (line.dropWhile isSeparator)
  rw [← afterFirst, hc] at h
  exact h

theorem words_eq_cons {line : List Char} (h : firstWord line ≠ []) :
    words line = firstWord line :: words (afterFirst line) := by
  have hline := words_append_gap (isSeparator_of_mem_gap line) (firstWord line ++ afterFirst line)
  rwa [gap_append, words_append_word (isWord_firstWord h) head?_afterFirst] at hline

/-- Where no word stands behind the separators, a comment does, or the line is at its end. -/
theorem afterFirst_cases {line : List Char} (h : firstWord line = []) :
    afterFirst line = [] ∨ ∃ note, afterFirst line = ';' :: note := by
  cases hafter : afterFirst line with
  | nil => exact .inl rfl
  | cons c note =>
      have hword : inWord c = false := head?_afterFirst c (by rw [hafter]; rfl)
      -- the separators are at an end here, so that only a comment can stand here
      have hdrop : line.dropWhile isSeparator = c :: note := by
        have hsplit : firstWord line ++ afterFirst line = line.dropWhile isSeparator :=
          List.takeWhile_append_dropWhile
        rw [h, hafter, List.nil_append] at hsplit
        exact hsplit.symm
      have hsep := List.head?_dropWhile_not isSeparator line
      rw [hdrop] at hsep
      by_cases hc : c = ';'
      · exact .inr ⟨note, by rw [hc]⟩
      · exact absurd (isSeparator_of_not_inWord hword hc) (by simpa using hsep)

theorem words_eq_nil {line : List Char} (h : firstWord line = []) : words line = [] := by
  have hline := words_append_gap (isSeparator_of_mem_gap line) (firstWord line ++ afterFirst line)
  rw [gap_append, h, List.nil_append] at hline
  rcases afterFirst_cases h with hafter | ⟨note, hafter⟩
  · rw [hline, hafter, words_nil]
  · rw [hline, hafter, words_comment]

/-- A statement is the words of its line. -/
theorem ofLine?_eq_some_iff {line : List Char} {st : Statement} :
    ofLine? line = some st ↔ ∃ opcode operands, words line = opcode :: operands ∧
      st = ⟨String.ofList (Text.lowercase opcode), operands.map String.ofList⟩ := by
  rw [ofLine?]
  cases words line with
  | nil => simp
  | cons opcode operands =>
      constructor
      · intro h
        exact ⟨opcode, operands, rfl, (Option.some.inj h).symm⟩
      · rintro ⟨opcode', operands', hwords, rfl⟩
        obtain ⟨rfl, rfl⟩ := List.cons.inj hwords
        rfl

/-! ### Tokens -/

/-- The tokens of a line: the longest stretches of characters that are neither commas nor blanks, up
to the first semicolon. -/
inductive Tokens : List Char → List (List Char) → Prop where
  /-- Nothing but separators. -/
  | blank {gap : List Char} (hgap : ∀ c ∈ gap, isSeparator c = true) : Tokens gap []
  /-- Separators, if any, and a comment. -/
  | comment {gap : List Char} (hgap : ∀ c ∈ gap, isSeparator c = true) (note : List Char) :
      Tokens (gap ++ ';' :: note) []
  /-- Separators, if any, and a token that goes on as far as it can. -/
  | token {gap token rest : List Char} {tokens : List (List Char)}
      (hgap : ∀ c ∈ gap, isSeparator c = true) (htoken : IsWord token)
      (hrest : ∀ c ∈ rest.head?, inWord c = false) (h : Tokens rest tokens) :
      Tokens (gap ++ (token ++ rest)) (token :: tokens)

theorem Tokens.words_eq {line : List Char} {tokens : List (List Char)} (h : Tokens line tokens) :
    words line = tokens := by
  induction h with
  | @blank gap hgap =>
      have hwords := words_append_gap hgap []
      rwa [List.append_nil] at hwords
  | comment hgap note => rw [words_append_gap hgap, words_comment]
  | token hgap htoken hrest _ ih => rw [words_append_gap hgap, words_append_word htoken hrest, ih]

theorem tokens_words (line : List Char) : Tokens line (words line) := by
  have hsplit := gap_append line
  have hgap := isSeparator_of_mem_gap line
  by_cases h : firstWord line = []
  · rw [words_eq_nil h]
    rw [h, List.nil_append] at hsplit
    rcases afterFirst_cases h with hafter | ⟨note, hafter⟩
    · rw [hafter, List.append_nil] at hsplit
      exact hsplit ▸ .blank hgap
    · rw [hafter] at hsplit
      exact hsplit ▸ .comment hgap note
  · have hlt : (afterFirst line).length < line.length := by
      have hlength := congrArg List.length hsplit
      have hpos := List.length_pos_iff.mpr h
      rw [List.length_append, List.length_append] at hlength
      omega
    have hrest := Tokens.token hgap (isWord_firstWord h) head?_afterFirst
      (tokens_words (afterFirst line))
    rwa [hsplit, ← words_eq_cons h] at hrest
termination_by line.length

/-- **The words of a line are its tokens.** -/
theorem tokens_iff {line : List Char} {tokens : List (List Char)} :
    Tokens line tokens ↔ words line = tokens :=
  ⟨Tokens.words_eq, fun h => h ▸ tokens_words line⟩

/-! ### A line in parts -/

theorem code_append {front : List Char} (h : ';' ∉ front) (cs : List Char) :
    code (front ++ cs) = front ++ code cs :=
  List.takeWhile_append_of_pos fun _ hc => bne_iff_ne.mpr fun heq => h (heq ▸ hc)

theorem code_of_notMem {line : List Char} (h : ';' ∉ line) : code line = line := by
  have hcode := code_append h []
  rw [List.append_nil] at hcode
  exact hcode.trans (List.append_nil line)

/-- The words of a line are those in front of its comment. -/
theorem words_eq_of_code_eq {line line' : List Char} (h : code line = code line') :
    words line = words line' := by
  rw [words_eq, words_eq, h]

/-- What follows a semicolon belongs to the comment. -/
theorem words_append_of_mem {line : List Char} (h : ';' ∈ line) (cs : List Char) :
    words (line ++ cs) = words line := by
  obtain ⟨front, note, rfl, hfront⟩ := List.eq_append_cons_of_mem h
  apply words_eq_of_code_eq
  rw [List.append_assoc, code_append hfront, code_append hfront]
  rfl

/-- A comment at the end of a line. -/
theorem words_append_comment (line note : List Char) : words (line ++ ';' :: note) = words line := by
  by_cases h : ';' ∈ line
  · exact words_append_of_mem h _
  · apply words_eq_of_code_eq
    rw [code_append h, code_of_notMem h]
    exact List.append_nil line

/-- A separator has the words in front of it and the words behind it. -/
theorem words_append_separator {front : List Char} (h : ';' ∉ front) {c : Char}
    (hc : isSeparator c = true) (back : List Char) :
    words (front ++ c :: back) = words front ++ words back := by
  have hne : c ≠ ';' := by
    rintro rfl
    exact absurd hc (by decide)
  have hback : code (c :: back) = c :: code back := List.takeWhile_cons_of_pos (bne_iff_ne.mpr hne)
  rw [words_eq, code_append h, hback, List.splitOnP_append_cons _ _ hc, List.filter_append,
    words_eq, words_eq, code_of_notMem h]

/-- Separators between two parts of a line, at least one. -/
theorem words_append_gap_append {gap : List Char} (hgap : ∀ c ∈ gap, isSeparator c = true)
    (hne : gap ≠ []) {front : List Char} (hfront : ';' ∉ front) (back : List Char) :
    words (front ++ (gap ++ back)) = words front ++ words back := by
  obtain ⟨c, gap, rfl⟩ := List.exists_cons_of_ne_nil hne
  obtain ⟨hc, hgap⟩ := List.forall_mem_cons.mp hgap
  rw [List.cons_append, words_append_separator hfront hc, words_append_gap hgap]

/-- Separators at the end of a line. -/
theorem words_append_gap_right {gap : List Char} (hgap : ∀ c ∈ gap, isSeparator c = true)
    (line : List Char) : words (line ++ gap) = words line := by
  by_cases hline : ';' ∈ line
  · exact words_append_of_mem hline gap
  · by_cases hne : gap = []
    · rw [hne, List.append_nil]
    · have hwords := words_append_gap_append hgap hne hline []
      rwa [List.append_nil, words_nil, List.append_nil] at hwords

/-! ### A word in its line -/

/-- A line cut at one of its words. -/
structure Cut where
  front : List Char
  word : List Char
  back : List Char
deriving DecidableEq, Repr

/-- The line with another word in place of the one it is cut at. -/
def Cut.put (c : Cut) (w : List Char) : List Char :=
  c.front ++ (w ++ c.back)

theorem Cut.head?_put {c : Cut} (h : c.front ≠ []) (w w' : List Char) :
    (c.put w).head? = (c.put w').head? := by
  obtain ⟨ch, cs, hfront⟩ := List.exists_cons_of_ne_nil h
  rw [put, put, hfront]
  rfl

/-- Cuts a line at its word of that index, counted from zero. -/
def cutWord? : Nat → List Char → Option Cut
  | 0,     line =>
    if firstWord line = [] then none else some ⟨gap line, firstWord line, afterFirst line⟩
  | n + 1, line =>
    if firstWord line = [] then none
    else
      (cutWord? n (afterFirst line)).map fun c =>
        { c with front := gap line ++ (firstWord line ++ c.front) }

section

variable {line : List Char} {n : Nat} {c : Cut}

theorem cutWord?_zero_eq_some (h : cutWord? 0 line = some c) :
    firstWord line ≠ [] ∧ c = ⟨gap line, firstWord line, afterFirst line⟩ := by
  rw [cutWord?] at h
  obtain ⟨hne, h⟩ := Option.ite_none_left_eq_some.mp h
  exact ⟨hne, (Option.some.inj h).symm⟩

theorem cutWord?_succ_eq_some (h : cutWord? (n + 1) line = some c) :
    firstWord line ≠ [] ∧ ∃ c', cutWord? n (afterFirst line) = some c' ∧ c.word = c'.word ∧
      ∀ w, c.put w = gap line ++ (firstWord line ++ c'.put w) := by
  rw [cutWord?] at h
  obtain ⟨hne, h⟩ := Option.ite_none_left_eq_some.mp h
  obtain ⟨c', hc', rfl⟩ := Option.map_eq_some_iff.mp h
  refine ⟨hne, c', hc', rfl, fun w => ?_⟩
  rw [Cut.put, Cut.put, List.append_assoc, List.append_assoc]

/-- The word of a cut is a word of the line, and with it the line is as it was. -/
theorem put_word (h : cutWord? n line = some c) : c.put c.word = line ∧ IsWord c.word := by
  induction n generalizing line c with
  | zero =>
      obtain ⟨hne, rfl⟩ := cutWord?_zero_eq_some h
      exact ⟨gap_append line, isWord_firstWord hne⟩
  | succ n ih =>
      obtain ⟨hne, c', hc', hword, hput⟩ := cutWord?_succ_eq_some h
      obtain ⟨hline, hc'⟩ := ih hc'
      rw [hword, hput, hline, gap_append]
      exact ⟨rfl, hc'⟩

theorem gap_ne_nil (h : firstWord line ≠ []) (hline : ∀ ch ∈ line.head?, inWord ch = false) :
    gap line ≠ [] := by
  intro hgap
  have hsplit := gap_append line
  rw [hgap, List.nil_append] at hsplit
  obtain ⟨ch, word, hword⟩ := List.exists_cons_of_ne_nil h
  have hch := (isWord_firstWord h).2 ch (by rw [hword]; exact List.mem_cons_self)
  have hhead := hline ch (by rw [← hsplit, hword]; rfl)
  rw [hhead] at hch
  cases hch

/-- In a line that begins with no word, something stands in front of every word. -/
theorem front_ne_nil (h : cutWord? n line = some c)
    (hline : ∀ ch ∈ line.head?, inWord ch = false) : c.front ≠ [] := by
  cases n with
  | zero =>
      obtain ⟨hne, rfl⟩ := cutWord?_zero_eq_some h
      exact gap_ne_nil hne hline
  | succ n =>
      rw [cutWord?] at h
      obtain ⟨hne, h⟩ := Option.ite_none_left_eq_some.mp h
      obtain ⟨c', hc', rfl⟩ := Option.map_eq_some_iff.mp h
      exact List.append_ne_nil_of_left_ne_nil (gap_ne_nil hne hline) _

/-- **Another word in place of one leaves the others as they were.** -/
theorem words_put (h : cutWord? n line = some c) {w : List Char} (hw : IsWord w) :
    words (c.put w) = (words line).set n w := by
  induction n generalizing line c with
  | zero =>
      obtain ⟨hne, rfl⟩ := cutWord?_zero_eq_some h
      rw [Cut.put, words_append_gap (isSeparator_of_mem_gap line),
        words_append_word hw head?_afterFirst, words_eq_cons hne, List.set_cons_zero]
  | succ n ih =>
      obtain ⟨hne, c', hc', -, hput⟩ := cutWord?_succ_eq_some h
      -- the word before ends where it ended, since separators follow it
      have hhead : ∀ ch ∈ (c'.put w).head?, inWord ch = false := by
        rw [Cut.head?_put (front_ne_nil hc' head?_afterFirst) w c'.word, (put_word hc').1]
        exact head?_afterFirst
      rw [hput, words_append_gap (isSeparator_of_mem_gap line),
        words_append_word (isWord_firstWord hne) hhead, ih hc', words_eq_cons hne,
        List.set_cons_succ]

theorem exists_cutWord? (h : n < (words line).length) : ∃ c, cutWord? n line = some c := by
  have hne : firstWord line ≠ [] := by
    intro hnil
    rw [words_eq_nil hnil] at h
    exact absurd h (Nat.not_lt_zero n)
  induction n generalizing line with
  | zero => exact ⟨_, if_neg hne⟩
  | succ n ih =>
      rw [words_eq_cons hne, List.length_cons] at h
      have hn := Nat.lt_of_succ_lt_succ h
      have hne' : firstWord (afterFirst line) ≠ [] := by
        intro hnil
        rw [words_eq_nil hnil] at hn
        exact absurd hn (Nat.not_lt_zero n)
      obtain ⟨c, hc⟩ := ih hn hne'
      rw [cutWord?, if_neg hne, hc]
      exact ⟨_, rfl⟩

end

end RegisterMachine.Statement
