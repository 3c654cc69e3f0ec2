import RegisterMachine.Journal.Note
import RegisterMachine.Report
import RegisterMachine.SourceFile

/-!
# Runners

A machine of a given size that runs one program after another, each from the start.

* `Runner.new?`: there is a runner only if there is room for its machine.
* `Runner.machine_run`, `Runner.machine_reset`: a run leaves nothing to the next one.
* `Runner.call`: what is asked of a runner again and again, and what becomes of it.
-/

namespace RegisterMachine

/-- What the journal says about a finished run. -/
def Machine.finished (m : Machine) : Note :=
  ⟨.debug, "run finished: " ++ toString m.trace.size ++ " trace entries, "
    ++ toString m.trace.faults.length ++ " errors"⟩

/-- A machine that is used again. -/
structure Runner where
  size : MachineSize
  machine : Machine
deriving DecidableEq, Repr

namespace Runner

/-- A runner that has run nothing. -/
def new (size : MachineSize) : Runner :=
  ⟨size, .fresh size.cells⟩

/-- A new runner, if there is room for its machine. -/
def new? (size : MachineSize) : Option Runner :=
  (Machine.new? size.cells).map fun machine => ⟨size, machine⟩

/-- Puts the machine back to its start. -/
def reset (r : Runner) : Runner :=
  { r with machine := r.machine.reset }

/-- Runs a program from the start. -/
def run (r : Runner) (source : String) : Runner :=
  { r with machine := r.machine.reset.runFrom 1 (Text.lines source.toList) }

/-- Runs the program at a path.  If there is none, the runner stays as it is. -/
def runFile (r : Runner) (files : Files) (path : String) : Except Fault Runner :=
  (readSource files path).map r.run

/-- What the machine shows. -/
def snapshot (r : Runner) : Snapshot :=
  r.machine.snapshot r.size.window

/-- What a runner is asked for. -/
inductive Call where
  | run (source : String)
  /-- A run of the program at a path, among the files that there are at that time. -/
  | runFile (files : Files) (path : String)
  | reset

/-- Makes a call: the snapshot after it, or the fault that kept it from being made, and the runner
from then on. -/
def call (r : Runner) : Call → Except Fault Snapshot × Runner
  | .run source         =>
    let r := r.run source
    (.ok r.snapshot, r)
  | .runFile files path =>
    match r.runFile files path with
    | .ok r    => (.ok r.snapshot, r)
    | .error f => (.error f, r)
  | .reset              =>
    let r := r.reset
    (.ok r.snapshot, r)

/-- The runner after calls, one after the other. -/
def callAll (r : Runner) (calls : List Call) : Runner :=
  calls.foldl (fun r c => (r.call c).2) r

theorem new?_of_hasRoom {size : MachineSize} (h : Memory.HasRoom size.cells) :
    new? size = some (new size) := by
  rw [new?, Machine.new?_of_hasRoom h]
  rfl

theorem new?_of_not_hasRoom {size : MachineSize} (h : ¬ Memory.HasRoom size.cells) :
    new? size = none := by
  rw [new?, Machine.new?_of_not_hasRoom h]
  rfl

theorem machine_run (r : Runner) (source : String) :
    (r.run source).machine = Machine.run r.machine.cells source := by
  rw [run, Machine.reset_eq]
  rfl

theorem machine_reset (r : Runner) : r.reset.machine = .fresh r.machine.cells :=
  r.machine.reset_eq

end Runner

end RegisterMachine
