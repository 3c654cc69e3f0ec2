import RegisterMachine.Program
import RegisterMachine.Text.Padding

/-!
# Snapshots and reports

A snapshot is what a run shows of its machine: all registers, the first cells of memory, and the
trace.  A report is a snapshot in words, with registers by name and the trace as text; this is what
is sent to a client, and `Report.render` is how it is printed.
-/

namespace RegisterMachine

/-- The visible part of a machine. -/
structure Snapshot where
  registers : List (Register × Int64)
  memory : List Int64
  log : List Entry
deriving DecidableEq, Repr

/-- The snapshot of a machine that shows the first `window` cells. -/
def Machine.snapshot (m : Machine) (window : Nat) : Snapshot where
  registers := m.state.registers.toList
  memory := m.state.memory.window window
  log := m.trace.toList

namespace Snapshot

/-- The value of a register; one that is not listed counts as zero. -/
def register (s : Snapshot) (r : Register) : Int64 :=
  (s.registers.lookup r).getD 0

/-- The texts of the trace. -/
def texts (s : Snapshot) : List String :=
  s.log.map Entry.text

/-- The trace records a fault. -/
def hasFaults (s : Snapshot) : Bool :=
  s.log.any Entry.isFault

end Snapshot

/-- A snapshot in words. -/
structure Report where
  registers : List (String × Int64)
  memory : List Int64
  log : List String
deriving DecidableEq, Repr

/-- The report of a snapshot. -/
def Snapshot.report (s : Snapshot) : Report where
  registers := s.registers.map fun (r, v) => (r.name, v)
  memory := s.memory
  log := s.texts

namespace Report

/-- The value listed for a name. -/
def register? (r : Report) (name : String) : Option Int64 :=
  r.registers.lookup name

/-- The cells in one row of the listing. -/
def rowLength : Nat := 8

/-- The column of register names. -/
def nameColumn : Text.Field := { width := 4 }

/-- A register's row: its name, its bits and its value. -/
def registerRow (name : String) (v : Int64) : String :=
  "  " ++ nameColumn.write name ++ " 0x" ++ Text.bits v ++ "  " ++ Text.decimal v ++ "\n"

/-- A row of cells: the number of the first, and the bits of each. -/
def memoryRow (first : Nat) (cells : List Int64) : String :=
  "  " ++ Text.zeroFilled 10 4 first ++ String.join (cells.map fun v => " " ++ Text.bits v) ++ "\n"

/-- The rows of the memory listing from cell `first` on. -/
def memoryRows (first : Nat) (cells : List Int64) : List String :=
  if cells = [] then []
  else
    memoryRow first (cells.take rowLength) :: memoryRows (first + rowLength) (cells.drop rowLength)
termination_by cells.length
decreasing_by
  have := List.length_pos_iff.mpr ‹_›
  simp only [List.length_drop, rowLength]
  omega

/-- The listing of the trace. -/
def logRows (log : List String) : List String :=
  if log = [] then ["  (empty)\n"] else log.map fun line => "  " ++ line ++ "\n"

/-- A report as it is printed. -/
def render (r : Report) : String :=
  "Registers:\n"
    ++ String.join (r.registers.map fun (name, v) => registerRow name v)
    ++ "Memory [0.." ++ toString r.memory.length ++ "]:\n"
    ++ String.join (memoryRows 0 r.memory)
    ++ "Log:\n"
    ++ String.join (logRows r.log)

/-- How many lines of the trace read like a fault. -/
def faultLines (r : Report) : Nat :=
  r.log.countP fun line => "Error:".toList.isPrefixOf line.toList

end Report

end RegisterMachine
