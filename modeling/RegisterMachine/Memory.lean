import RegisterMachine.Fault

/-!
# Memory

A row of cells, each of which holds a signed 64-bit number, seen through two address spaces.  An
ordinary address is the number of a cell.  A stack pointer is the number of a cell too, and a
negative one counts cells from the end, so that the first slots of an empty stack lie at the end of
memory.

* `Memory.get_set`: a cell holds what was last written to it.  Which cell an access reaches is said
  by `Memory.index_eq_ok_iff` and `Memory.stackIndex_eq_ok_iff`, one for each address space.
* `Memory.new?`: new memory, for which there is room only up to a number of cells.
-/

namespace RegisterMachine

/-- The cells of a machine. -/
structure Memory where
  cells : Array Int64
deriving DecidableEq, Repr

namespace Memory

/-- Memory of `n` cells, all zero. -/
def zero (n : Nat) : Memory :=
  ⟨Array.replicate n 0⟩

/-- There is room for `n` cells.  A cell takes eight bytes, and no row of cells takes more bytes
than the largest signed 64-bit number; whether a host can spare as many is its own matter. -/
def HasRoom (n : Nat) : Prop :=
  8 * n ≤ Text.int64Max

instance : DecidablePred HasRoom := fun n =>
  inferInstanceAs (Decidable (8 * n ≤ Text.int64Max))

/-- New memory of `n` cells, if there is room for them. -/
def new? (n : Nat) : Option Memory :=
  if HasRoom n then some (zero n) else none

/-- The number of cells. -/
abbrev size (m : Memory) : Nat :=
  m.cells.size

/-- Memory with zero put into every cell. -/
def reset (m : Memory) : Memory :=
  { m with cells := Array.replicate m.size 0 }

/-- The cell at an ordinary address. -/
def index (m : Memory) (address : Int64) : Except Fault (Fin m.size) :=
  if h : 0 ≤ address.toInt ∧ address.toInt < m.size then
    .ok ⟨address.toInt.toNat, by omega⟩
  else .error (.addressOutOfBounds address m.size)

/-- The cell that a stack pointer reaches.  A memory so large that its size is no signed 64-bit
number has no stack. -/
def stackIndex (m : Memory) (sp : Int64) : Except Fault (Fin m.size) :=
  if m.size ≤ Text.int64Max then
    if h : 0 ≤ sp.toInt ∧ sp.toInt < m.size then
      .ok ⟨sp.toInt.toNat, by omega⟩
    else if h : -m.size ≤ sp.toInt ∧ sp.toInt < 0 then
      .ok ⟨(m.size + sp.toInt).toNat, by omega⟩
    else .error (.stackOutOfBounds sp m.size)
  else .error (.stackOutOfBounds sp m.size)

/-- The value of a cell. -/
def get (m : Memory) (i : Fin m.size) : Int64 :=
  m.cells[i.val]

/-- Memory after a cell is set. -/
def set (m : Memory) (i : Fin m.size) (v : Int64) : Memory :=
  ⟨m.cells.set i.val v i.isLt⟩

/-- The value at an ordinary address. -/
def load (m : Memory) (address : Int64) : Except Fault Int64 :=
  match m.index address with
  | .ok i    => .ok (m.get i)
  | .error f => .error f

/-- The value in the slot that a stack pointer reaches. -/
def stackLoad (m : Memory) (sp : Int64) : Except Fault Int64 :=
  match m.stackIndex sp with
  | .ok i    => .ok (m.get i)
  | .error f => .error f

/-- Memory after a write to an ordinary address, and the number of the cell. -/
def store (m : Memory) (address v : Int64) : Except Fault (Memory × Nat) :=
  match m.index address with
  | .ok i    => .ok (m.set i v, i.val)
  | .error f => .error f

/-- Memory after a write to the slot that a stack pointer reaches, and the number of the cell. -/
def stackStore (m : Memory) (sp v : Int64) : Except Fault (Memory × Nat) :=
  match m.stackIndex sp with
  | .ok i    => .ok (m.set i v, i.val)
  | .error f => .error f

/-- The first `n` cells, or all of them if there are fewer. -/
def window (m : Memory) (n : Nat) : List Int64 :=
  (m.cells.extract 0 n).toList

theorem take_window (m : Memory) (n k : Nat) : (m.window n).take k = m.window (min k n) := by
  simp only [window, Array.toList_extract, List.extract_eq_take_drop, List.drop_zero, Nat.sub_zero,
    List.take_take]

/-! ### The cells under the two views -/

@[simp] theorem size_zero (n : Nat) : (zero n).size = n := by
  simp [zero, size]

theorem HasRoom.le_int64Max {n : Nat} (h : HasRoom n) : n ≤ Text.int64Max := by
  unfold HasRoom at h
  omega

theorem new?_of_hasRoom {n : Nat} (h : HasRoom n) : new? n = some (zero n) :=
  if_pos h

theorem new?_of_not_hasRoom {n : Nat} (h : ¬ HasRoom n) : new? n = none :=
  if_neg h

/-- Memory that is reset is as it was when it was new. -/
theorem reset_eq (m : Memory) : m.reset = zero m.size :=
  rfl

@[simp] theorem size_set (m : Memory) (i : Fin m.size) (v : Int64) : (m.set i v).size = m.size := by
  simp [set, size]

theorem get_zero {n : Nat} (i : Fin (zero n).size) : (zero n).get i = 0 := by
  simp [zero, get]

theorem get_set (m : Memory) (i : Fin m.size) (v : Int64) (j : Fin (m.set i v).size) :
    (m.set i v).get j = if i.val = j.val then v else m.get ⟨j.val, by simpa using j.isLt⟩ := by
  simp [get, set, Array.getElem_set]

/-- An ordinary address reaches the cell of that number, and no other. -/
theorem index_eq_ok_iff (m : Memory) (address : Int64) (i : Fin m.size) :
    m.index address = .ok i ↔ address.toInt = i.val := by
  have := i.isLt
  unfold index
  split
  · rw [Except.ok.injEq, Fin.ext_iff]
    simp only
    omega
  · simp only [reduceCtorEq, false_iff]
    omega

/-- A stack pointer reaches the cell of that number, counted from the end if it is negative. -/
theorem stackIndex_eq_ok_iff (m : Memory) (hm : m.size ≤ Text.int64Max) (sp : Int64)
    (i : Fin m.size) :
    m.stackIndex sp = .ok i ↔ sp.toInt = i.val ∨ sp.toInt = (i.val : Int) - m.size := by
  have := i.isLt
  unfold stackIndex
  rw [if_pos hm]
  split
  · rw [Except.ok.injEq, Fin.ext_iff]
    simp only
    omega
  · split
    · rw [Except.ok.injEq, Fin.ext_iff]
      simp only
      omega
    · simp only [reduceCtorEq, false_iff]
      omega

theorem size_le_of_stackIndex {m : Memory} {sp : Int64} {i : Fin m.size}
    (h : m.stackIndex sp = .ok i) : m.size ≤ Text.int64Max := by
  rw [stackIndex] at h
  split at h
  · assumption
  · cases h

theorem toInt_of_stackIndex {m : Memory} {sp : Int64} {i : Fin m.size}
    (h : m.stackIndex sp = .ok i) :
    sp.toInt = i.val ∨ sp.toInt = (i.val : Int) - m.size :=
  (m.stackIndex_eq_ok_iff (size_le_of_stackIndex h) sp i).mp h

end Memory

end RegisterMachine
