import RegisterMachine.Proofs.Machine.Replay

/-!
# Proofs — Machine — Reuse

A runner may be used any number of times.  Whatever was asked of it before, a run leaves it as it
leaves a new runner, and so does a reset; and a program that cannot be read leaves it as it was
(`runner_reusable`).

A run starts from zeros, so all that could pass from one call to the next is the number of cells and
the window, and these no call changes (`Runner.Fits`, `Runner.Fits.callAll`).
-/

namespace RegisterMachine

/-! ### Reading a program -/

section

variable {files : Files} {path : String}

theorem readSource_of_text {bytes : ByteArray} {source : String} (h : files path = .ok bytes)
    (htext : String.fromUTF8? bytes = some source) : readSource files path = .ok source := by
  rw [readSource, h]
  dsimp only
  rw [htext]

theorem readSource_of_error {e : FileError} (h : files path = .error e) :
    readSource files path = .error (.unreadableFile path e.message) := by
  rw [readSource, h]

theorem readSource_of_not_text {bytes : ByteArray} (h : files path = .ok bytes)
    (htext : String.fromUTF8? bytes = none) :
    readSource files path = .error (.unreadableFile path FileError.notText.message) := by
  rw [readSource, h]
  dsimp only
  rw [htext]

end

namespace Runner

/-- The machine of a runner has the size that the runner was made with. -/
structure Fits (r : Runner) (size : MachineSize) : Prop where
  size_eq : r.size = size
  cells_eq : r.machine.cells = size.cells

theorem fits_new (size : MachineSize) : (new size).Fits size :=
  ⟨rfl, cells_new size⟩

variable {r : Runner} {size : MachineSize}

/-- Lines that are carried out one after the other keep the number of cells. -/
theorem Fits.cells_runFrom (h : r.Fits size) (number : Nat) (lines : List (List Char)) :
    (r.machine.reset.runFrom number lines).cells = size.cells := by
  rw [(Machine.continues_runFrom _ _ _).cells_eq, Machine.cells_reset, h.cells_eq]

theorem Fits.run (h : r.Fits size) (source : String) : (r.run source).Fits size :=
  ⟨h.size_eq, h.cells_runFrom 1 _⟩

theorem Fits.reset (h : r.Fits size) : r.reset.Fits size :=
  ⟨h.size_eq, r.machine.cells_reset.trans h.cells_eq⟩

/-- **A call starts anew**, from a machine that depends on the size alone. -/
theorem Fits.reset_machine (h : r.Fits size) : r.machine.reset = (new size).machine.reset := by
  rw [Machine.reset_eq, Machine.reset_eq, h.cells_eq, cells_new]

theorem Fits.run_eq (h : r.Fits size) (source : String) : r.run source = (new size).run source := by
  rw [Runner.run, Runner.run, h.size_eq, h.reset_machine]
  rfl

theorem Fits.reset_eq (h : r.Fits size) : r.reset = (new size).reset := by
  rw [Runner.reset, Runner.reset, h.size_eq, h.reset_machine]
  rfl

/-! ### Calls -/

theorem call_runFile_of_ok {files : Files} {path source : String}
    (h : readSource files path = .ok source) :
    r.call (.runFile files path) = r.call (.run source) := by
  have hrun : r.runFile files path = .ok (r.run source) := by
    rw [Runner.runFile, h]
    rfl
  simp only [call, hrun]

theorem call_runFile_of_error {files : Files} {path : String} {f : Fault}
    (h : readSource files path = .error f) : r.call (.runFile files path) = (.error f, r) := by
  have hrun : r.runFile files path = .error f := by
    rw [Runner.runFile, h]
    rfl
  rw [call, hrun]

/-- One call. -/
theorem Fits.call (h : r.Fits size) (c : Call) : (r.call c).2.Fits size := by
  cases c with
  | run source => exact h.run source
  | runFile files path =>
      cases hsource : readSource files path with
      | ok source =>
          rw [call_runFile_of_ok hsource]
          exact h.run source
      | error f =>
          rw [call_runFile_of_error hsource]
          exact h
  | reset => exact h.reset

/-- Calls, one after the other. -/
theorem Fits.callAll (h : r.Fits size) (calls : List Call) : (r.callAll calls).Fits size := by
  induction calls generalizing r with
  | nil => exact h
  | cons c calls ih => exact ih (h.call c)

end Runner

/-- **A runner carries nothing over.**  Whatever calls have been made on a runner, a run or a reset
leaves all of it, and shows of it, what it does with a new runner of the same size; a program from a
file counts as its text; and a file that is not there, or is no text, is a fault that leaves all of
the runner as it was.  After every call, and after every line of a run, the machine has as many
cells as at first. -/
theorem runner_reusable (size : MachineSize) (earlier : List Runner.Call) :
    let before := (Runner.new size).callAll earlier
    let ran := (Runner.new size).run
    let unread := fun (path : String) (e : FileError) => Fault.unreadableFile path e.message
    (∀ source, before.call (.run source) = (.ok (ran source).snapshot, ran source)) ∧
    before.call .reset = (.ok (Runner.new size).reset.snapshot, (Runner.new size).reset) ∧
    (∀ files path bytes source, files path = .ok bytes → String.fromUTF8? bytes = some source →
      before.call (.runFile files path) = (.ok (ran source).snapshot, ran source)) ∧
    (∀ files path e, files path = .error e →
      before.call (.runFile files path) = (.error (unread path e), before)) ∧
    (∀ files path bytes, files path = .ok bytes → String.fromUTF8? bytes = none →
      before.call (.runFile files path) = (.error (unread path .notText), before)) ∧
    before.machine.cells = size.cells ∧
    ∀ (source : String) k, let lines := (Text.lines source.toList).take k
      (before.machine.reset.runFrom 1 lines).cells = size.cells := by
  intro before ran unread
  have hfits : before.Fits size := (Runner.fits_new size).callAll earlier
  have hrun : ∀ source, before.call (.run source) = (.ok (ran source).snapshot, ran source) := by
    intro source
    rw [Runner.call, hfits.run_eq]
  refine ⟨hrun, ?_, ?_, ?_, ?_, hfits.cells_eq, fun _ _ => hfits.cells_runFrom 1 _⟩
  · rw [Runner.call, hfits.reset_eq]
  · intro files path bytes source hbytes htext
    rw [Runner.call_runFile_of_ok (readSource_of_text hbytes htext), hrun]
  · intro files path e he
    exact Runner.call_runFile_of_error (readSource_of_error he)
  · intro files path bytes hbytes htext
    exact Runner.call_runFile_of_error (readSource_of_not_text hbytes htext)

/-- A runner has written beyond its window, met a fault, and missed a file.  It goes on as a new one
does, and keeps what it has where a file is missing or is no text. -/
theorem runner_reusable_after_faults :
    let files : Files := fun path =>
      if path = "add.asm" then .ok "add eax, 2".toUTF8
      else if path = "raw.asm" then .ok ⟨#[255]⟩
      else .error .missing
    let size : MachineSize := ⟨8, 4⟩
    let earlier := [.run "mov [6], 5\nbad\npush 1", .runFile files "none.asm"]
    let before := (Runner.new size).callAll earlier
    let added := (Runner.new size).run "add eax, 2"
    before.machine.trace.size = 3 ∧
    before.call (.runFile files "add.asm") = (.ok added.snapshot, added) ∧
    before.call (.runFile files "none.asm")
      = (.error (.unreadableFile "none.asm" "No such file or directory (os error 2)"), before) ∧
    before.call (.runFile files "raw.asm")
      = (.error (.unreadableFile "raw.asm" "stream did not contain valid UTF-8"), before) := by
  intro files size earlier before added
  obtain ⟨-, -, htext, herror, hbytes, -, -⟩ := runner_reusable size earlier
  refine ⟨by decide +kernel, ?_, ?_, ?_⟩
  · exact htext files "add.asm" "add eax, 2".toUTF8 "add eax, 2" rfl (by decide +kernel)
  · exact herror files "none.asm" .missing rfl
  · exact hbytes files "raw.asm" ⟨#[255]⟩ rfl (by decide +kernel)

end RegisterMachine
