import RegisterMachine.Proofs.Machine.Wording
import RegisterMachine.Proofs.Text.Lines

/-!
# Proofs — Machine — Listing

A printed report says all that is in it (`printed_report_says_all`).  It is made up of rows
(`Report.render_eq`), each of which ends in the one line feed that it has, so the text gives the
rows back (`eq_of_join_eq`).  The registers have a row each.  The heading of memory tells how many
cells there are, and so how many rows of them follow (`Report.length_memoryRows`); the rows behind
these belong to the trace.  Within a row the bits of a cell have a fixed width, and nothing that a
run puts on its trace reads like the row that stands for an empty one.

* `Report.Regular`: what is known of the reports of runs.
* `Report.Regular.eq_of_render_eq`: two of these that are printed alike are the same.
-/

namespace RegisterMachine

open Text (bits bits_inj length_bits decimal decimal_inj IsSolid)

/-! ### Rows -/

/-- One line, with the line feed that ends it. -/
def IsRow (row : String) : Prop :=
  ∃ line : List Char, '\n' ∉ line ∧ row.toList = line ++ ['\n']

theorem isRow_append {s : String} (h : '\n' ∉ s.toList) : IsRow (s ++ "\n") :=
  ⟨s.toList, h, String.toList_append⟩

theorem IsRow.ne_empty {row : String} (h : IsRow row) (s : String) : row ++ s ≠ "" := by
  obtain ⟨line, -, hrow⟩ := h
  intro heq
  simpa [hrow] using congrArg String.toList heq

theorem IsRow.append_inj {row row' s s' : String} (h : IsRow row) (h' : IsRow row')
    (heq : row ++ s = row' ++ s') : row = row' ∧ s = s' := by
  obtain ⟨line, hline, hrow⟩ := h
  obtain ⟨line', hline', hrow'⟩ := h'
  have hlist : line ++ '\n' :: s.toList = line' ++ '\n' :: s'.toList := by
    simpa [hrow, hrow'] using congrArg String.toList heq
  have hpieces := congrArg (List.splitOn '\n') hlist
  rw [Text.splitOn_append_newline hline, Text.splitOn_append_newline hline'] at hpieces
  obtain rfl := (List.cons.inj hpieces).1
  refine ⟨String.toList_inj.mp (hrow.trans hrow'.symm), String.toList_inj.mp ?_⟩
  exact (List.cons.inj (List.append_cancel_left hlist)).2

/-- **Rows that follow each other can be told apart.** -/
theorem eq_of_join_eq {rows rows' : List String} (h : ∀ row ∈ rows, IsRow row)
    (h' : ∀ row ∈ rows', IsRow row) (heq : String.join rows = String.join rows') :
    rows = rows' := by
  induction rows generalizing rows' with
  | nil =>
      cases rows' with
      | nil => rfl
      | cons row' rows' =>
          rw [String.join_nil, String.join_cons] at heq
          exact absurd heq.symm ((List.forall_mem_cons.mp h').1.ne_empty _)
  | cons row rows ih =>
      obtain ⟨hrow, hrows⟩ := List.forall_mem_cons.mp h
      rw [String.join_cons] at heq
      cases rows' with
      | nil => exact absurd heq (hrow.ne_empty _)
      | cons row' rows' =>
          obtain ⟨hrow', hrows'⟩ := List.forall_mem_cons.mp h'
          rw [String.join_cons] at heq
          obtain ⟨rfl, hrest⟩ := hrow.append_inj hrow' heq
          rw [ih hrows hrows' hrest]

namespace Report

/-! ### The rows of a report -/

/-- The heading of the cells. -/
def memoryHeading (cells : Nat) : String :=
  "Memory [0.." ++ toString cells ++ "]:\n"

/-- A report as its rows. -/
def rows (r : Report) : List String :=
  "Registers:\n" :: (r.registers.map (fun (name, v) => registerRow name v)
    ++ memoryHeading r.memory.length :: (memoryRows 0 r.memory ++ "Log:\n" :: logRows r.log))

theorem render_eq (r : Report) : r.render = String.join r.rows := by
  unfold render rows memoryHeading
  simp only [String.join_cons, String.join_append, String.append_assoc]

/-- What is known of the reports of runs: they list all registers, in their order, and their trace
has no line breaks and no line that stands for an empty trace. -/
structure Regular (r : Report) : Prop where
  registers : ∃ value : Register → Int64,
    r.registers = Register.all.map fun s => (s.name, value s)
  log : ∀ line ∈ r.log, '\n' ∉ line.toList ∧ line ≠ "(empty)"

/-! ### Cells -/

@[simp] theorem memoryRows_nil (first : Nat) : memoryRows first [] = [] := by
  simp [memoryRows]

theorem memoryRows_of_ne_nil (first : Nat) {cells : List Int64} (h : cells ≠ []) :
    memoryRows first cells =
      memoryRow first (cells.take rowLength)
        :: memoryRows (first + rowLength) (cells.drop rowLength) := by
  rw [memoryRows, if_neg h]

/-- The cells fill rows of eight, and the last of them may be shorter. -/
theorem length_memoryRows (first : Nat) (cells : List Int64) :
    (memoryRows first cells).length = (cells.length + 7) / 8 := by
  induction first, cells using memoryRows.induct with
  | case1 first => simp
  | case2 first cells hne ih =>
      have hpos := List.length_pos_iff.mpr hne
      rw [memoryRows_of_ne_nil first hne, List.length_cons, ih, List.length_drop, rowLength]
      omega

/-- The bits of cells, each behind a space, say which cells they are. -/
theorem eq_of_flatMap_bits_eq {cells cells' : List Int64}
    (h : (cells.flatMap fun v => ' ' :: (bits v).toList) =
      cells'.flatMap fun v => ' ' :: (bits v).toList) : cells = cells' := by
  induction cells generalizing cells' with
  | nil =>
      cases cells' with
      | nil => rfl
      | cons v' cells' => simp at h
  | cons v cells ih =>
      cases cells' with
      | nil => simp at h
      | cons v' cells' =>
          rw [List.flatMap_cons, List.flatMap_cons, List.cons_append, List.cons_append] at h
          have hwidth := (length_bits v).trans (length_bits v').symm
          obtain ⟨hbits, hrest⟩ := List.append_inj (List.cons.inj h).2 hwidth
          rw [bits_inj.mp (String.toList_inj.mp hbits), ih hrest]

theorem toList_memoryRow (first : Nat) (cells : List Int64) :
    (memoryRow first cells).toList =
      ("  " ++ Text.zeroFilled 10 4 first).toList
        ++ ((cells.flatMap fun v => ' ' :: (bits v).toList) ++ ['\n']) := by
  simp [memoryRow, List.flatMap_map]

theorem eq_of_memoryRow_eq {first : Nat} {cells cells' : List Int64}
    (h : memoryRow first cells = memoryRow first cells') : cells = cells' := by
  have hlist := congrArg String.toList h
  rw [toList_memoryRow, toList_memoryRow] at hlist
  exact eq_of_flatMap_bits_eq (List.append_cancel_right (List.append_cancel_left hlist))

/-- The rows of cells say which cells they are. -/
theorem eq_of_memoryRows_eq {first : Nat} {cells cells' : List Int64}
    (h : memoryRows first cells = memoryRows first cells') : cells = cells' := by
  induction first, cells using memoryRows.induct generalizing cells' with
  | case1 first =>
      by_cases hne' : cells' = []
      · exact hne'.symm
      · simp [memoryRows_of_ne_nil first hne'] at h
  | case2 first cells hne ih =>
      rw [memoryRows_of_ne_nil first hne] at h
      by_cases hne' : cells' = []
      · simp [hne'] at h
      · rw [memoryRows_of_ne_nil first hne'] at h
        obtain ⟨hrow, hrows⟩ := List.cons.inj h
        rw [← List.take_append_drop rowLength cells, eq_of_memoryRow_eq hrow, ih hrows,
          List.take_append_drop]

/-! ### Registers and the trace -/

/-- The row of a register says which value it has. -/
theorem eq_of_registerRow_eq {name : String} {v v' : Int64}
    (h : registerRow name v = registerRow name v') : v = v' := by
  have hlist := congrArg String.toList h
  simp only [registerRow, String.toList_append, List.append_assoc, List.append_cancel_left_eq]
    at hlist
  have hwidth := (length_bits v).trans (length_bits v').symm
  exact bits_inj.mp (String.toList_inj.mp (List.append_inj_left hlist hwidth))

/-- What is listed of a trace: its lines, or a line that says that there are none. -/
def listed (log : List String) : List String :=
  if log = [] then ["(empty)"] else log

theorem logRows_eq (log : List String) :
    logRows log = (listed log).map fun line => "  " ++ line ++ "\n" := by
  rw [logRows, listed]
  split <;> rfl

/-- The rows of a trace say what is on it, if no line of it stands for an empty trace. -/
theorem eq_of_logRows_eq {log log' : List String} (hlog : ∀ line ∈ log, line ≠ "(empty)")
    (hlog' : ∀ line ∈ log', line ≠ "(empty)") (h : logRows log = logRows log') : log = log' := by
  have hrow : Function.Injective fun line : String => "  " ++ line ++ "\n" := by
    intro line line' h
    simpa using h
  rw [logRows_eq, logRows_eq] at h
  have hlisted := List.map_injective_iff.mpr hrow h
  by_cases hnil : log = [] <;> by_cases hnil' : log' = []
  · rw [hnil, hnil']
  · rw [listed, listed, if_pos hnil, if_neg hnil'] at hlisted
    exact absurd rfl (hlog' _ (hlisted ▸ List.mem_singleton_self _))
  · rw [listed, listed, if_neg hnil, if_pos hnil'] at hlisted
    exact absurd rfl (hlog _ (hlisted ▸ List.mem_singleton_self _))
  · rwa [listed, listed, if_neg hnil, if_neg hnil'] at hlisted

/-! ### Every row is one line -/

theorem isRow_registerRow (r : Register) (v : Int64) : IsRow (registerRow r.name v) := by
  have hname : '\n' ∉ (nameColumn.write r.name).toList := by
    cases r <;> decide
  have hbits := (Text.isSolid_bits v).notMem_newline
  have hvalue := (Text.isSolid_decimal v).notMem_newline
  exact isRow_append (by simp [hname, hbits, hvalue])

theorem isRow_memoryRow (first : Nat) (cells : List Int64) : IsRow (memoryRow first cells) := by
  have hfirst := (Text.isSolid_zeroFilled 4 first).notMem_newline
  have hbits := fun v => (Text.isSolid_bits v).notMem_newline
  exact isRow_append (by simp [hfirst, hbits])

theorem isRow_of_mem_memoryRows (first : Nat) (cells : List Int64) :
    ∀ row ∈ memoryRows first cells, IsRow row := by
  induction first, cells using memoryRows.induct with
  | case1 first => simp
  | case2 first cells hne ih =>
      rw [memoryRows_of_ne_nil first hne]
      exact List.forall_mem_cons.mpr ⟨isRow_memoryRow first _, ih⟩

theorem isRow_memoryHeading (cells : Nat) : IsRow (memoryHeading cells) := by
  have hcells := (Text.isSolid_repr cells).notMem_newline
  exact ⟨("Memory [0.." ++ toString cells ++ "]:").toList, by simpa using hcells,
    by simp [memoryHeading]⟩

theorem Regular.isRow_of_mem_logRows {r : Report} (h : r.Regular) :
    ∀ row ∈ logRows r.log, IsRow row := by
  have hlisted : ∀ line ∈ listed r.log, '\n' ∉ line.toList := by
    rw [listed]
    split
    · simp
    · exact fun line hline => (h.log line hline).1
  intro row hrow
  rw [logRows_eq] at hrow
  obtain ⟨line, hline, rfl⟩ := List.mem_map.mp hrow
  exact isRow_append (by simp [hlisted line hline])

theorem Regular.isRow_of_mem_rows {r : Report} (h : r.Regular) : ∀ row ∈ r.rows, IsRow row := by
  have hregisters : ∀ row ∈ r.registers.map fun (name, v) => registerRow name v, IsRow row := by
    obtain ⟨value, hvalue⟩ := h.registers
    simp [hvalue, isRow_registerRow]
  have hheading : IsRow "Registers:\n" := ⟨"Registers:".toList, by decide, rfl⟩
  have hlog : IsRow "Log:\n" := ⟨"Log:".toList, by decide, rfl⟩
  intro row hrow
  simp only [rows, List.mem_cons, List.mem_append] at hrow
  rcases hrow with rfl | hrow | rfl | hrow | rfl | hrow
  · exact hheading
  · exact hregisters row hrow
  · exact isRow_memoryHeading r.memory.length
  · exact isRow_of_mem_memoryRows 0 r.memory row hrow
  · exact hlog
  · exact h.isRow_of_mem_logRows row hrow

/-! ### Whole reports -/

theorem memoryHeading_inj {n m : Nat} (h : memoryHeading n = memoryHeading m) : n = m := by
  simpa [memoryHeading] using h

/-- **Regular reports that are printed alike are the same.** -/
theorem Regular.eq_of_render_eq {r r' : Report} (h : r.Regular) (h' : r'.Regular)
    (heq : r.render = r'.render) : r = r' := by
  rw [render_eq, render_eq] at heq
  have hrows := eq_of_join_eq h.isRow_of_mem_rows h'.isRow_of_mem_rows heq
  obtain ⟨registers, memory, log⟩ := r
  obtain ⟨registers', memory', log'⟩ := r'
  obtain ⟨value, rfl⟩ := h.registers
  obtain ⟨value', rfl⟩ := h'.registers
  -- both list the same registers, so that the heading of memory stands in the same place
  obtain ⟨hregisters, hrest⟩ := List.append_inj (List.cons.inj hrows).2 (by simp)
  obtain ⟨hheading, hrest⟩ := List.cons.inj hrest
  have hcells : memory.length = memory'.length := memoryHeading_inj hheading
  -- and it says in which row the trace begins
  have hlength : (memoryRows 0 memory).length = (memoryRows 0 memory').length := by
    rw [length_memoryRows, length_memoryRows, hcells]
  obtain ⟨hmemory, hrest⟩ := List.append_inj hrest hlength
  obtain rfl := eq_of_memoryRows_eq hmemory
  obtain rfl := eq_of_logRows_eq (fun line hline => (h.log line hline).2)
    (fun line hline => (h'.log line hline).2) (List.cons.inj hrest).2
  have hvalues : ∀ s ∈ Register.all, value s = value' s := by
    rw [List.map_map, List.map_map, List.map_inj_left] at hregisters
    exact fun s hs => eq_of_registerRow_eq (hregisters s hs)
  congr 1
  exact List.map_inj_left.mpr fun s hs => by rw [hvalues s hs]

end Report

/-! ### Reports of runs -/

/-- No text of an entry stands for an empty trace. -/
theorem Entry.text_ne_empty (e : Entry) : e.text ≠ "(empty)" := by
  intro h
  have hlist := congrArg String.toList h
  obtain ⟨line, effect | f⟩ := e
  · change effect.text.toList = _ at hlist
    cases effect <;> unfold Effect.text at hlist <;> simp at hlist
  · change ("Error: " ++ f.message ++ " (line " ++ toString line ++ ")").toList = _ at hlist
    simp at hlist

/-- **The reports of runs are regular.** -/
theorem Runner.regular_run (r : Runner) (source : String) :
    (r.run source).snapshot.report.Regular := by
  refine ⟨⟨(r.run source).machine.state.registers.get, ?_⟩, ?_⟩
  · simp [snapshot, Machine.snapshot, Snapshot.report, RegisterBank.toList]
  · intro line hline
    obtain ⟨e, he, rfl⟩ := List.mem_map.mp hline
    exact ⟨Entry.notMem_text (r.legible_run source e he), e.text_ne_empty⟩

/-- **A printed report says all that is in it.**  Two runs are given, of any programs on machines of
any sizes.  If their reports are printed alike, they are the same: all registers have the same
values, as many cells are shown, with the same values, and the traces have the same lines. -/
theorem printed_report_says_all (r r' : Runner) (source source' : String)
    (h : (r.run source).snapshot.report.render = (r'.run source').snapshot.report.render) :
    (r.run source).snapshot.report = (r'.run source').snapshot.report :=
  (r.regular_run source).eq_of_render_eq (r'.regular_run source') h

/-- Programs that are written differently, and memories of which the same cells are shown. -/
theorem printed_report_says_all_two_sizes :
    let near := (Runner.new { cells := 2, window := 1 }).run "mov eax, -1"
    let far := (Runner.new { cells := 3, window := 1 }).run "\nMOV eax -01 ; all bits"
    near.snapshot.report.render = far.snapshot.report.render ∧
      near.snapshot.report = far.snapshot.report := by
  intro near far
  have h : near.snapshot.report.render = far.snapshot.report.render := by decide +kernel
  exact ⟨h, printed_report_says_all _ _ _ _ h⟩

end RegisterMachine
