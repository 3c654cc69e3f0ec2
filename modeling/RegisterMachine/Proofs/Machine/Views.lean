import Mathlib.Data.List.Induction
import RegisterMachine.Proofs.Machine.Faults

/-!
# Proofs — Machine — Views

Memory is one row of cells behind two views.  Each cell holds what was last written to it, through
whichever view, and both views show it; an access that stands for no cell is a fault and changes
nothing (`memory_holds_last_write`).

`View.cell?` says for which cell a number stands in a view.  It knows the number of cells and
nothing else, so that the writes to a cell can be told from their list, without the memory that they
are made on (`lastWritten`).  An access reaches that cell, or it is the fault of its view
(`Memory.cellIn_of_some`, `Memory.cellIn_of_none`); `Memory.Records.write` is one write, and
`Memory.records_writeAll` is all of them.
-/

namespace RegisterMachine

/-- An address space. -/
inductive View where
  /-- Addresses: the numbers of the cells. -/
  | ordinary
  /-- Stack pointers: the numbers of the cells, or below zero their distance from the end. -/
  | stack
deriving DecidableEq, Repr

namespace View

/-- The cell, of `n`, that a number stands for. -/
def cell? (n : Nat) (view : View) (place : Int) : Option Nat :=
  match view with
  | ordinary => if 0 ≤ place ∧ place < n then some place.toNat else none
  | stack    =>
    if -n ≤ place ∧ place < n then some (if place < 0 then n + place else place).toNat else none

/-- The fault of a number that stands for no cell of `n`. -/
def fault (n : Nat) : View → Int64 → Fault
  | ordinary, address => .addressOutOfBounds address n
  | stack, sp         => .stackOutOfBounds sp n

variable {n c : Nat} {view : View} {place : Int}

theorem cell?_ordinary_eq_some_iff :
    ordinary.cell? n place = some c ↔ place = c ∧ c < n := by
  rw [cell?, Option.ite_none_right_eq_some, Option.some.injEq]
  omega

/-- A cell has a stack pointer on each side of zero. -/
theorem cell?_stack_eq_some_iff :
    stack.cell? n place = some c ↔ (place = c ∨ place = (c : Int) - n) ∧ c < n := by
  rw [cell?, Option.ite_none_right_eq_some, Option.some.injEq]
  split <;> omega

theorem cell?_stack_eq_none_iff :
    stack.cell? n place = none ↔ place < -(n : Int) ∨ (n : Int) ≤ place := by
  rw [cell?, ite_eq_right_iff]
  simp only [reduceCtorEq, imp_false]
  omega

theorem lt_of_cell? (h : view.cell? n place = some c) : c < n := by
  cases view with
  | ordinary => exact (cell?_ordinary_eq_some_iff.mp h).2
  | stack => exact (cell?_stack_eq_some_iff.mp h).2

end View

/-! ### One access -/

namespace Memory

/-- The cell that a number reaches in a view. -/
def cellIn (m : Memory) : View → Int64 → Except Fault (Fin m.size)
  | .ordinary => m.index
  | .stack    => m.stackIndex

/-- The value that a view shows. -/
def loadIn (m : Memory) : View → Int64 → Except Fault Int64
  | .ordinary => m.load
  | .stack    => m.stackLoad

/-- Memory after a write through a view, and the number of the cell. -/
def storeIn (m : Memory) : View → Int64 → Int64 → Except Fault (Memory × Nat)
  | .ordinary => m.store
  | .stack    => m.stackStore

variable {m : Memory} {view : View} {place : Int64} {i : Fin m.size} {f : Fault}

theorem getElem?_cells (m : Memory) (i : Fin m.size) : m.cells[i.val]? = some (m.get i) :=
  Array.getElem?_eq_getElem i.isLt

theorem loadIn_of_ok (h : m.cellIn view place = .ok i) : m.loadIn view place = .ok (m.get i) := by
  cases view with
  | ordinary => rw [loadIn, load, show m.index place = .ok i from h]
  | stack => rw [loadIn, stackLoad, show m.stackIndex place = .ok i from h]

theorem loadIn_of_error (h : m.cellIn view place = .error f) : m.loadIn view place = .error f := by
  cases view with
  | ordinary => rw [loadIn, load, show m.index place = .error f from h]
  | stack => rw [loadIn, stackLoad, show m.stackIndex place = .error f from h]

theorem storeIn_of_ok (h : m.cellIn view place = .ok i) (v : Int64) :
    m.storeIn view place v = .ok (m.set i v, i.val) := by
  cases view with
  | ordinary => rw [storeIn, store, show m.index place = .ok i from h]
  | stack => rw [storeIn, stackStore, show m.stackIndex place = .ok i from h]

theorem storeIn_of_error (h : m.cellIn view place = .error f) (v : Int64) :
    m.storeIn view place v = .error f := by
  cases view with
  | ordinary => rw [storeIn, store, show m.index place = .error f from h]
  | stack => rw [storeIn, stackStore, show m.stackIndex place = .error f from h]

theorem cellIn_eq_ok_iff (hm : m.size ≤ Text.int64Max) :
    m.cellIn view place = .ok i ↔ view.cell? m.size place.toInt = some i.val := by
  have hi := i.isLt
  cases view with
  | ordinary =>
      rw [cellIn, index_eq_ok_iff, View.cell?_ordinary_eq_some_iff]
      exact (and_iff_left hi).symm
  | stack =>
      rw [cellIn, stackIndex_eq_ok_iff m hm, View.cell?_stack_eq_some_iff]
      exact (and_iff_left hi).symm

theorem eq_of_cellIn_error (h : m.cellIn view place = .error f) :
    f = view.fault m.size place := by
  cases view with
  | ordinary => exact eq_of_index_error h
  | stack => exact eq_of_stackIndex_error h

/-- A number that stands for a cell reaches it. -/
theorem cellIn_of_some (hm : m.size ≤ Text.int64Max) {c : Nat}
    (h : view.cell? m.size place.toInt = some c) :
    m.cellIn view place = .ok ⟨c, View.lt_of_cell? h⟩ :=
  (cellIn_eq_ok_iff hm).mpr h

/-- A number that stands for no cell reaches none. -/
theorem cellIn_of_none (hm : m.size ≤ Text.int64Max)
    (h : view.cell? m.size place.toInt = none) :
    m.cellIn view place = .error (view.fault m.size place) := by
  cases hcell : m.cellIn view place with
  | ok i =>
      rw [cellIn_eq_ok_iff hm, h] at hcell
      cases hcell
  | error f => rw [eq_of_cellIn_error hcell]

/-! ### Two memories of one size -/

/-- In memory of the same size, a number reaches the same cell. -/
theorem exists_cellIn {m' : Memory} (hsize : m'.size = m.size)
    (h : m.cellIn view place = .ok i) :
    ∃ k : Fin m'.size, m'.cellIn view place = .ok k ∧ k.val = i.val := by
  have hk : i.val < m'.size := Nat.lt_of_lt_of_eq i.isLt hsize.symm
  refine ⟨⟨i.val, hk⟩, ?_, rfl⟩
  cases view with
  | ordinary => exact (m'.index_eq_ok_iff ..).mpr ((m.index_eq_ok_iff ..).mp h)
  | stack =>
      have hm := size_le_of_stackIndex h
      refine (m'.stackIndex_eq_ok_iff (hsize ▸ hm) ..).mpr ?_
      simp only [hsize]
      exact toInt_of_stackIndex h

theorem cellIn_error_of_size_eq {m' : Memory} (hsize : m'.size = m.size)
    (h : m.cellIn view place = .error f) : m'.cellIn view place = .error f := by
  cases hcell : m'.cellIn view place with
  | ok k =>
      obtain ⟨i, hi, -⟩ := exists_cellIn hsize.symm hcell
      rw [h] at hi
      cases hi
  | error f' => rw [eq_of_cellIn_error hcell, eq_of_cellIn_error h, hsize]

end Memory

/-! ### One write after another -/

/-- A write through a view. -/
structure Write where
  view : View
  place : Int64
  value : Int64
deriving DecidableEq, Repr

/-- The cell, of `n`, that a write goes to. -/
def Write.cell? (n : Nat) (w : Write) : Option Nat :=
  w.view.cell? n w.place.toInt

/-- The value of the last write to a cell, of `n`, or zero if there is none. -/
def lastWritten (n c : Nat) (writes : List Write) : Int64 :=
  (writes.filter fun w => w.cell? n = some c).getLast?.elim 0 Write.value

theorem lastWritten_concat (n c : Nat) (writes : List Write) (w : Write) :
    lastWritten n c (writes ++ [w]) =
      if w.cell? n = some c then w.value else lastWritten n c writes := by
  rw [lastWritten, List.filter_append]
  split
  · next h => simp [h]
  · next h => simp [h, lastWritten]

namespace Memory

/-- Makes a write: the number of its cell or its fault, and memory after it. -/
def write (m : Memory) (w : Write) : Except Fault Nat × Memory :=
  match m.storeIn w.view w.place w.value with
  | .ok (m', c) => (.ok c, m')
  | .error f    => (.error f, m)

/-- Memory after writes in order. -/
def writeAll (m : Memory) (writes : List Write) : Memory :=
  writes.foldl (fun m w => (m.write w).2) m

variable {m : Memory} {w : Write}

theorem write_of_ok {i : Fin m.size} (h : m.cellIn w.view w.place = .ok i) :
    m.write w = (.ok i.val, m.set i w.value) := by
  rw [write, storeIn_of_ok h]

theorem write_of_error {f : Fault} (h : m.cellIn w.view w.place = .error f) :
    m.write w = (.error f, m) := by
  rw [write, storeIn_of_error h]

/-- Memory has `n` cells, and each holds what was last written to it. -/
structure Records (m : Memory) (n : Nat) (writes : List Write) : Prop where
  size_eq : m.size = n
  get_eq : ∀ i : Fin m.size, m.get i = lastWritten n i.val writes

theorem records_zero (n : Nat) : (zero n).Records n [] :=
  ⟨size_zero n, get_zero⟩

/-- **One write.**  It is recorded, whether or not it takes effect. -/
theorem Records.write {n : Nat} {writes : List Write} (h : m.Records n writes)
    (hn : n ≤ Text.int64Max) (w : Write) : (m.write w).2.Records n (writes ++ [w]) := by
  obtain ⟨rfl, hget⟩ := h
  cases hcell : w.view.cell? m.size w.place.toInt with
  | some c =>
      have hw : w.cell? m.size = some c := hcell
      rw [write_of_ok (cellIn_of_some hn hcell)]
      refine ⟨size_set .., fun i => ?_⟩
      simp only [get_set, lastWritten_concat, hw, Option.some.injEq]
      split
      · rfl
      · exact hget _
  | none =>
      have hw : w.cell? m.size = none := hcell
      rw [write_of_error (cellIn_of_none hn hcell)]
      refine ⟨rfl, fun i => ?_⟩
      simp only [lastWritten_concat, hw, reduceCtorEq, if_false]
      exact hget i

/-- **All writes, one after the other.** -/
theorem records_writeAll {n : Nat} (hn : n ≤ Text.int64Max) (writes : List Write) :
    ((zero n).writeAll writes).Records n writes := by
  induction writes using List.reverseRecOn with
  | nil => exact records_zero n
  | append_singleton writes w ih =>
      rw [writeAll, List.foldl_append]
      exact ih.write hn w

variable {n c : Nat} {writes : List Write} {view : View} {place : Int64}

/-- A number that stands for a cell shows what was last written to it. -/
theorem Records.of_some (h : m.Records n writes) (hn : n ≤ Text.int64Max)
    (hc : view.cell? n place.toInt = some c) :
    (m.cellIn view place).map Fin.val = .ok c ∧
      m.loadIn view place = .ok (lastWritten n c writes) ∧
      ∀ v, (m.write ⟨view, place, v⟩).1 = .ok c := by
  obtain ⟨rfl, hget⟩ := h
  have hcell := cellIn_of_some hn hc
  refine ⟨by rw [hcell]; rfl, ?_, fun v => ?_⟩
  · rw [loadIn_of_ok hcell, hget]
  · rw [write_of_ok hcell]

/-- A number that stands for no cell is a fault and changes nothing. -/
theorem Records.of_none (h : m.Records n writes) (hn : n ≤ Text.int64Max)
    (hc : view.cell? n place.toInt = none) :
    m.cellIn view place = .error (view.fault n place) ∧
      m.loadIn view place = .error (view.fault n place) ∧
      ∀ v, m.write ⟨view, place, v⟩ = (.error (view.fault n place), m) := by
  obtain ⟨rfl, -⟩ := h
  have hcell := cellIn_of_none hn hc
  exact ⟨hcell, loadIn_of_error hcell, fun v => write_of_error hcell⟩

end Memory

/-- **Memory is one row of cells.**  Let memory of `n` cells be written to, any number of times,
through both views and with any numbers.  It still has `n` cells.  A number that stands for a cell
in one of the views reaches that cell, shows the value of the last write to it, or zero if there
was none, and a write with it goes there; any other number is a fault that names it and the number
of cells, and a write with it changes nothing. -/
theorem memory_holds_last_write (n : Nat) (hn : 8 * n ≤ Text.int64Max) (writes : List Write) :
    let m := (Memory.zero n).writeAll writes
    m.size = n ∧ ∀ (view : View) (place : Int64),
      (∀ c, view.cell? n place.toInt = some c →
        c < n ∧ (m.cellIn view place).map Fin.val = .ok c ∧
          m.loadIn view place = .ok (lastWritten n c writes) ∧
          ∀ v, (m.write ⟨view, place, v⟩).1 = .ok c) ∧
      (view.cell? n place.toInt = none →
        m.cellIn view place = .error (view.fault n place) ∧
          m.loadIn view place = .error (view.fault n place) ∧
          ∀ v, m.write ⟨view, place, v⟩ = (.error (view.fault n place), m)) := by
  intro m
  have hfits : n ≤ Text.int64Max := by omega
  have hrecords : m.Records n writes := Memory.records_writeAll hfits writes
  refine ⟨hrecords.size_eq, fun view place => ⟨fun c hc => ?_, fun hnone => ?_⟩⟩
  · exact ⟨View.lt_of_cell? hc, hrecords.of_some hfits hc⟩
  · exact hrecords.of_none hfits hnone

/-- The second of four cells is written to by its address and then by a stack pointer below zero,
and its other stack pointer shows the second value.  The writes with numbers just outside the ranges
go nowhere. -/
theorem memory_holds_last_write_four_cells :
    let writes : List Write :=
      [⟨.ordinary, 1, 7⟩, ⟨.stack, -3, 8⟩, ⟨.stack, 4, 9⟩, ⟨.ordinary, -1, 5⟩, ⟨.stack, -5, 6⟩]
    let m := (Memory.zero 4).writeAll writes
    8 * 4 ≤ Text.int64Max ∧ m.size = 4 ∧
    View.stack.cell? 4 (1 : Int64).toInt = some 1 ∧ m.stackLoad 1 = .ok 8 ∧
    View.ordinary.cell? 4 (3 : Int64).toInt = some 3 ∧ m.load 3 = .ok 0 ∧
    View.stack.cell? 4 Int64.minValue.toInt = none ∧
    m.write ⟨.stack, .minValue, 1⟩ = (.error (.stackOutOfBounds .minValue 4), m) := by
  intro writes m
  have hcells : 8 * 4 ≤ Text.int64Max := by decide
  obtain ⟨hsize, hplace⟩ := memory_holds_last_write 4 hcells writes
  have hone : View.stack.cell? 4 (1 : Int64).toInt = some 1 := by decide
  have hthree : View.ordinary.cell? 4 (3 : Int64).toInt = some 3 := by decide
  have hnone : View.stack.cell? 4 Int64.minValue.toInt = none := by decide
  refine ⟨hcells, hsize, hone, ?_, hthree, ?_, hnone, ?_⟩
  · exact ((hplace .stack 1).1 1 hone).2.2.1
  · exact ((hplace .ordinary 3).1 3 hthree).2.2.1
  · exact ((hplace .stack .minValue).2 hnone).2.2 1

end RegisterMachine
