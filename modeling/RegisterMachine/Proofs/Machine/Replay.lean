import RegisterMachine.Runner

/-!
# Proofs — Machine — Replay

The effects on a trace are a complete journal of the run.  Carried out again, in order, on a state
of zeros, they lead to the state in which the run ended (`trace_replays`): nothing changed without
an effect on the trace, and no effect is on the trace that did not happen.

`Effect.replay` carries out an effect by what it says and nothing else; it does not look at the
instruction.  `Effect.Agrees` is what an effect claims about the state that it finds: a sum or a
difference is that of the register before it, a push moves the stack pointer down by one slot, and
a popped value is the one in the slot at the stack pointer.  `Replays` runs both over a list.

A machine continues another if the new part of its trace leads from the one state to the other
(`Machine.Continues`).  Faults are no effects, so of an instruction only its action at the
destination or on the stack counts (`State.replays_execute`); a line then continues the machine that
it is carried out on (`Machine.continues_stepLine`), and so do lines one after the other
(`Machine.continues_runFrom`).
-/

namespace RegisterMachine

/-- The state after an effect.  An effect on a cell that is not there cannot happen. -/
def Effect.replay (s : State) : Effect → Option State
  | .setRegister r value  => some { s with registers := s.registers.set r value }
  | .setMemory cell value =>
    if h : cell < s.memory.size then some { s with memory := s.memory.set ⟨cell, h⟩ value }
    else none
  | .add r _ result       => some { s with registers := s.registers.set r result }
  | .sub r _ result       => some { s with registers := s.registers.set r result }
  | .push value sp        =>
    match s.memory.stackIndex sp with
    | .ok i    => some ⟨s.registers.set .esp sp, s.memory.set i value⟩
    | .error _ => none
  | .pop r value          =>
    let registers := s.registers.set r value
    some { s with registers := registers.set .esp (registers.get .esp + 4) }

/-- What an effect says about the state that it finds. -/
def Effect.Agrees (s : State) : Effect → Prop
  | .add r operand result => result = s.registers.get r + operand
  | .sub r operand result => result = s.registers.get r - operand
  | .push _ sp            => sp = s.registers.get .esp - 4
  | .pop _ value          => s.memory.stackLoad (s.registers.get .esp) = .ok value
  | _                     => True

theorem Effect.size_replay {s s' : State} {e : Effect} (h : e.replay s = some s') :
    s'.memory.size = s.memory.size := by
  cases e with
  | setMemory cell v =>
      rw [replay] at h
      split at h
      · obtain rfl := Option.some.inj h
        exact Memory.size_set ..
      · cases h
  | push v sp =>
      -- the cell is looked up again, by the stack pointer that the effect names
      rw [replay] at h
      split at h
      · obtain rfl := Option.some.inj h
        exact Memory.size_set ..
      · cases h
  | _ =>
      obtain rfl := Option.some.inj h
      rfl

/-- The effects on a trace, in order. -/
def Trace.effects (t : Trace) : List Effect :=
  t.toList.filterMap fun e => e.event.effect?

/-- The effects happen one after the other and lead from one state to another; each agrees with the
state that it finds. -/
inductive Replays : State → List Effect → State → Prop where
  | done (s : State) : Replays s [] s
  | more {s s₁ s' : State} {e : Effect} {es : List Effect}
      (ha : e.Agrees s) (he : e.replay s = some s₁) (h : Replays s₁ es s') : Replays s (e :: es) s'

namespace Replays

theorem one {s s' : State} {e : Effect} (ha : e.Agrees s) (he : e.replay s = some s') :
    Replays s [e] s' :=
  .more ha he (.done s')

theorem trans {s s₁ s' : State} {es es' : List Effect} (h : Replays s es s₁)
    (h' : Replays s₁ es' s') : Replays s (es ++ es') s' := by
  induction h with
  | done => exact h'
  | more ha he _ ih => exact .more ha he (ih h')

/-- No effect changes the number of cells. -/
theorem size_memory {s s' : State} {es : List Effect} (h : Replays s es s') :
    s'.memory.size = s.memory.size := by
  induction h with
  | done => rfl
  | more _ he _ ih => rw [ih, Effect.size_replay he]

/-- Replaying is a function of the effects. -/
theorem foldlM {s s' : State} {es : List Effect} (h : Replays s es s') :
    es.foldlM Effect.replay s = some s' := by
  induction h with
  | done => rfl
  | more ha he _ ih => rw [List.foldlM_cons, he, Option.bind_eq_bind, Option.bind_some, ih]

/-- The state that an effect finds is the replay of the effects before it. -/
theorem agrees {s s' : State} {before after : List Effect} {e : Effect}
    (h : Replays s (before ++ e :: after) s') :
    ∃ s₁, before.foldlM Effect.replay s = some s₁ ∧ e.Agrees s₁ := by
  induction before generalizing s with
  | nil =>
      cases h with
      | more ha _ _ => exact ⟨s, rfl, ha⟩
  | cons e' before ih =>
      cases h with
      | more _ he h =>
          obtain ⟨s₁, hs₁, ha⟩ := ih h
          exact ⟨s₁, by rw [List.foldlM_cons, he, Option.bind_eq_bind, Option.bind_some, hs₁], ha⟩

end Replays

/-! ### One instruction -/

namespace State

/-- The effects among events. -/
abbrev effects (events : List Event) : List Effect :=
  events.filterMap Event.effect?

/-- A source that cannot be read leaves a fault and no effect. -/
theorem effects_fetch (s : State) (src : Operand) (event : Event) :
    effects ((s.fetch src).2 ++ [event]) = effects [event] := by
  rw [fetch]
  split <;> rfl

theorem replays_assign (s : State) (v : Int64) (dst : Destination) :
    Replays s (effects [(s.assign v dst).2]) (s.assign v dst).1 := by
  cases dst with
  | register r => exact .one trivial rfl
  | memory a =>
      rw [assign]
      split
      · next i _ => exact .one trivial (dif_pos i.isLt)
      · exact .done s

theorem replays_push (s : State) (v : Int64) :
    Replays s (effects [(s.push v).2]) (s.push v).1 := by
  rw [push]
  split
  · next i hi => exact .one rfl (by rw [Effect.replay, hi])
  · exact .done s

theorem replays_pop (s : State) (r : Register) :
    Replays s (effects [(s.pop r).2]) (s.pop r).1 := by
  rw [pop]
  split
  · next v hv => exact .one hv rfl
  · exact .done s

/-- **One instruction.**  Its effects lead from the state before it to the state after it. -/
theorem replays_execute (s : State) (i : Instruction) :
    Replays s (effects (s.execute i).2) (s.execute i).1 := by
  cases i with
  -- whatever the source is, its value is on the trace with the effect
  | mov dst src =>
      rw [execute, effects_fetch]
      exact replays_assign s _ dst
  | add dst src =>
      rw [execute, effects_fetch]
      exact .one rfl rfl
  | sub dst src =>
      rw [execute, effects_fetch]
      exact .one rfl rfl
  | push src =>
      rw [execute, effects_fetch]
      exact replays_push s _
  | pop dst => exact replays_pop s dst

theorem replays_perform (s : State) (st : Statement) :
    Replays s (effects (s.perform st).2) (s.perform st).1 := by
  rw [perform]
  split
  · next i _ => exact replays_execute s i
  · exact .done s

end State

/-! ### Lines, one after the other -/

namespace Trace

theorem effects_append (t t' : Trace) : effects (t ++ t') = effects t ++ effects t' := by
  rw [effects, effects, effects, Array.toList_append, List.filterMap_append]

theorem effects_of_line (line : Nat) (events : List Event) :
    effects (events.map (Entry.mk line)).toArray = State.effects events := by
  rw [effects, List.filterMap_map]
  rfl

end Trace

namespace Machine

/-- The trace of a machine goes on from that of another, and the effects on the new part lead from
the state of the one to that of the other. -/
def Continues (m m' : Machine) : Prop :=
  ∃ entries : Trace, m'.trace = m.trace ++ entries ∧ Replays m.state entries.effects m'.state

theorem Continues.refl (m : Machine) : m.Continues m :=
  ⟨#[], Array.append_empty.symm, .done m.state⟩

theorem Continues.trans {m m₁ m' : Machine} (h : m.Continues m₁) (h' : m₁.Continues m') :
    m.Continues m' := by
  obtain ⟨t, ht, hr⟩ := h
  obtain ⟨t', ht', hr'⟩ := h'
  refine ⟨t ++ t', ?_, ?_⟩
  · rw [ht', ht, Array.append_assoc]
  · rw [Trace.effects_append]
    exact hr.trans hr'

theorem continues_step (m : Machine) (line : Nat) (st : Statement) :
    m.Continues (m.step line st) := by
  refine ⟨((m.state.perform st).2.map (Entry.mk line)).toArray, ?_, ?_⟩
  · apply Array.ext'
    rw [step, proceed, Array.toList_appendList, Array.toList_append]
  · rw [Trace.effects_of_line]
    exact m.state.replays_perform st

theorem continues_stepLine (m : Machine) (number : Nat) (line : List Char) :
    m.Continues (m.stepLine number line) := by
  rw [stepLine]
  split
  · next st _ => exact m.continues_step number st
  · exact .refl m

theorem continues_runFrom (m : Machine) (number : Nat) (lines : List (List Char)) :
    m.Continues (m.runFrom number lines) := by
  induction lines generalizing m number with
  | nil => exact .refl m
  | cons line lines ih => exact (m.continues_stepLine number line).trans (ih _ _)

/-- What continues a fresh machine has a complete journal. -/
theorem Continues.replays {cells : Nat} {m : Machine} (h : (fresh cells).Continues m) :
    Replays (.zero cells) m.trace.effects m.state := by
  obtain ⟨t, ht, hr⟩ := h
  rw [ht, fresh, Array.empty_append]
  exact hr

/-- A run never adds cells and never drops any. -/
theorem Continues.cells_eq {m m' : Machine} (h : m.Continues m') : m'.cells = m.cells := by
  obtain ⟨_, _, hr⟩ := h
  exact hr.size_memory

end Machine

/-! ### Whole runs -/

theorem Runner.cells_new (size : MachineSize) : (Runner.new size).machine.cells = size.cells :=
  Memory.size_zero size.cells

/-- Whatever programs a runner runs, its machine keeps its size. -/
theorem Runner.cells_foldl_run (r : Runner) (sources : List String) :
    (sources.foldl Runner.run r).machine.cells = r.machine.cells := by
  induction sources generalizing r with
  | nil => rfl
  | cons source sources ih =>
      rw [List.foldl_cons, ih, Runner.machine_run, Machine.run,
        (Machine.continues_runFrom _ _ _).cells_eq]
      exact Memory.size_zero _

/-- **The trace is a complete journal.**  Let a runner, which may have run other programs before,
run a program.  Carrying out the effects on the trace again, in order and from zeros, leads to the
final registers and the final memory; each effect agrees with what the effects before it have led
to; and the same holds wherever the run is stopped between two lines, where the trace is the
beginning of the final one. -/
theorem trace_replays (size : MachineSize) (earlier : List String) (source : String) :
    let m := ((earlier.foldl Runner.run (.new size)).run source).machine
    m.trace.effects.foldlM Effect.replay (.zero size.cells) = some m.state ∧
    (∀ before e after, m.trace.effects = before ++ e :: after →
      ∃ s, before.foldlM Effect.replay (.zero size.cells) = some s ∧ e.Agrees s) ∧
    (∀ k, let stopped := (Machine.fresh size.cells).runFrom 1 ((Text.lines source.toList).take k)
      stopped.trace.effects.foldlM Effect.replay (.zero size.cells) = some stopped.state ∧
      ∃ entries : Trace, m.trace = stopped.trace ++ entries) := by
  rw [Runner.machine_run, Runner.cells_foldl_run, Runner.cells_new]
  have hwhole : (Machine.fresh size.cells).Continues (.run size.cells source) :=
    Machine.continues_runFrom _ _ _
  refine ⟨hwhole.replays.foldlM, ?_, ?_⟩
  · intro before e after heq
    exact (heq ▸ hwhole.replays).agrees
  · intro k
    have hk := (Machine.fresh size.cells).continues_runFrom 1 ((Text.lines source.toList).take k)
    refine ⟨hk.replays.foldlM, ?_⟩
    -- The rest of the lines continues the machine that was stopped.
    have hrest := Machine.runFrom_append (.fresh size.cells) 1
      ((Text.lines source.toList).take k) ((Text.lines source.toList).drop k)
    rw [List.take_append_drop] at hrest
    obtain ⟨entries, hentries, _⟩ := Machine.continues_runFrom _ _ _
    exact ⟨entries, (congrArg Machine.trace hrest).trans hentries⟩

/-- A value popped into the stack pointer, and a sum with a source that cannot be read. -/
theorem trace_replays_pop_esp :
    let m := ((Runner.new ⟨8, 8⟩).run "push 7\npop esp\nadd eax, [9999]").machine
    m.trace.effects = [.push 7 (-4), .pop .esp 7, .add .eax 0 0] ∧
    ∃ s, [Effect.push 7 (-4)].foldlM Effect.replay (.zero 8) = some s ∧
      (Effect.pop .esp 7).Agrees s := by
  intro m
  have heffects : m.trace.effects = [.push 7 (-4), .pop .esp 7, .add .eax 0 0] := by
    decide +kernel
  obtain ⟨_, hagrees, _⟩ :=
    trace_replays ⟨8, 8⟩ [] "push 7\npop esp\nadd eax, [9999]"
  exact ⟨heffects, hagrees [.push 7 (-4)] (.pop .esp 7) [.add .eax 0 0] heffects⟩

end RegisterMachine
