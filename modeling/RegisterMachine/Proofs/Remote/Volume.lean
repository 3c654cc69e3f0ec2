import RegisterMachine.Proofs.Machine.Quotes
import RegisterMachine.Proofs.Wire.Lengths
import RegisterMachine.Wire.Message

/-!
# Proofs — Remote — Volume

How many bytes a report can take.  There is no limit to what a run puts on its trace but the program
itself.  A program that was sent to a server is no longer than a text can be, so the report of its
run takes fewer bytes than `Text.ceiling` (`Machine.length_encode_run_lt`).  That is far more than
fits in a frame, but it is a number with few digits, and a server can say that a report of so many
bytes does not fit.
-/

namespace RegisterMachine

open Text (ceiling)
open Wire (Shape maxLength)

namespace Machine

/-- The trace of a program that can be sent. -/
theorem within_run {cells : Nat} (hcells : cells < ceiling) {source : String}
    (h : source.utf8ByteSize ≤ maxLength) :
    (run cells source).trace.Within (2 * (maxLength + 1)) (quoteSize (maxLength + 1)) := by
  have hchars := Text.length_toList_le source
  have hsize := Text.piecesSize_lines_le source.toList
  have hcount := Text.length_le_piecesSize (Text.lines source.toList)
  have hlimit : maxLength + 3 < ceiling := by decide
  have hlines : ∀ line ∈ Text.lines source.toList,
      line.length + 1 < ceiling ∧ quoteSize line.length ≤ quoteSize (maxLength + 1) := by
    intro line hline
    have hlen := Text.length_le_piecesSize_of_mem hline
    rw [quoteSize, quoteSize]
    omega
  have hfresh : (fresh cells).trace.Within 0 (quoteSize (maxLength + 1)) :=
    ⟨Nat.le_refl 0, fun _ he => absurd he List.not_mem_nil⟩
  have hcells' : (fresh cells).cells < ceiling :=
    Nat.lt_of_le_of_lt (Nat.le_of_eq (Memory.size_zero cells)) hcells
  have hnumber : 1 + (Text.lines source.toList).length < ceiling := by omega
  obtain ⟨hentries, htexts⟩ := within_runFrom hcells' hnumber hlines hfresh
  exact ⟨Nat.le_trans hentries (by omega), htexts⟩

end Machine

/-! ### The bytes of a report -/

theorem length_flatMap_le {α β : Type} {f : α → List β} {bound : Nat} {xs : List α}
    (h : ∀ x ∈ xs, (f x).length ≤ bound) : (xs.flatMap f).length ≤ xs.length * bound := by
  induction xs with
  | nil => exact Nat.zero_le _
  | cons x xs ih =>
      obtain ⟨hx, hxs⟩ := List.forall_mem_cons.mp h
      rw [List.flatMap_cons, List.length_append, List.length_cons, Nat.succ_mul, Nat.add_comm]
      exact Nat.add_le_add (ih hxs) hx

/-- A response with a report takes a tag, three lengths, and the three lists. -/
theorem Response.length_encode_snapshot (r : Report) :
    (Response.format.encode (.snapshot r)).length
      = 25 + (r.registers.flatMap (Shape.pair .text .signed).encode).length
        + (r.memory.flatMap Shape.signed.encode).length
        + (r.log.flatMap Shape.text.encode).length := by
  change (0 :: ((Shape.list (.pair .text .signed)).encode r.registers
    ++ ((Shape.list .signed).encode r.memory ++ (Shape.list .text).encode r.log))
      : List UInt8).length = _
  rw [List.length_cons, List.length_append, List.length_append, Shape.length_encode_list,
    Shape.length_encode_list, Shape.length_encode_list]
  omega

namespace Machine

variable (m : Machine) (window : Nat)

/-- Eight registers, with names of three letters. -/
theorem length_encode_registers_le :
    ((m.snapshot window).report.registers.flatMap (Shape.pair .text .signed).encode).length
      ≤ 8 * 19 := by
  refine length_flatMap_le fun x hx => ?_
  obtain ⟨⟨r, v⟩, -, rfl⟩ := List.mem_map.mp hx
  calc ((Shape.pair .text .signed).encode (r.name, v)).length
      = 8 + 3 + 8 := by
        rw [Shape.encode, List.length_append, Shape.length_encode_text, r.utf8ByteSize_name,
          Shape.encode, Wire.length_littleEndian]
    _ ≤ 19 := Nat.le_refl 19

/-- No more cells are shown than there are. -/
theorem length_encode_memory_le :
    ((m.snapshot window).report.memory.flatMap Shape.signed.encode).length ≤ m.cells * 8 := by
  have hwindow : (m.snapshot window).report.memory.length ≤ m.cells := by
    change ((m.state.memory.cells.extract 0 window).toList).length ≤ _
    rw [Array.length_toList, Array.size_extract]
    exact Nat.le_trans (Nat.sub_le _ _) (Nat.min_le_right _ _)
  refine Nat.le_trans (length_flatMap_le fun v _ => ?_) (Nat.mul_le_mul_right 8 hwindow)
  exact Nat.le_of_eq (Wire.length_littleEndian 8 _)

theorem length_encode_log_le {count n : Nat} (h : m.trace.Within count n) :
    ((m.snapshot window).report.log.flatMap Shape.text.encode).length
      ≤ count * (8 + entrySize n) := by
  obtain ⟨hcount, htexts⟩ := h
  have hlength : (m.snapshot window).report.log.length ≤ count := by
    change (m.trace.toList.map Entry.text).length ≤ count
    rwa [List.length_map, Array.length_toList]
  refine Nat.le_trans (length_flatMap_le fun x hx => ?_) (Nat.mul_le_mul_right _ hlength)
  obtain ⟨e, he, rfl⟩ := List.mem_map.mp hx
  rw [Shape.length_encode_text]
  exact Nat.add_le_add_left (htexts e he) 8

/-- **The report of a program that can be sent takes fewer bytes than the ceiling.** -/
theorem length_encode_run_lt {cells : Nat} (hroom : Memory.HasRoom cells) {source : String}
    (h : source.utf8ByteSize ≤ maxLength) (window : Nat) :
    (Response.format.encode (.snapshot ((run cells source).snapshot window).report)).length
      < ceiling := by
  have hceiling : cells < ceiling := Nat.lt_of_le_of_lt hroom.le_int64Max (by decide)
  have hregisters := length_encode_registers_le (run cells source) window
  have hmemory := length_encode_memory_le (run cells source) window
  have hlog := length_encode_log_le (run cells source) window (within_run hceiling h)
  have hsize : (run cells source).cells = cells :=
    (continues_runFrom _ _ _).cells_eq.trans (Memory.size_zero cells)
  -- nearly all of it is memory, which takes as many bytes here as it does in the machine
  have hbytes : 25 + 8 * 19 + Text.int64Max
      + 2 * (maxLength + 1) * (8 + entrySize (quoteSize (maxLength + 1))) < ceiling := by decide
  rw [hsize] at hmemory
  rw [Memory.HasRoom] at hroom
  rw [Response.length_encode_snapshot]
  omega

theorem run_empty (cells : Nat) : run cells "" = fresh cells :=
  rfl

theorem length_encode_fresh_lt {cells : Nat} (hroom : Memory.HasRoom cells) (window : Nat) :
    (Response.format.encode (.snapshot ((fresh cells).snapshot window).report)).length
      < ceiling := by
  have hempty : "".utf8ByteSize ≤ maxLength := Nat.zero_le _
  rw [← run_empty]
  exact length_encode_run_lt hroom hempty window

end Machine

end RegisterMachine
