import Mathlib.Data.List.Basic
import RegisterMachine.Proofs.Machine.Action
import RegisterMachine.Proofs.Machine.Replay
import RegisterMachine.Proofs.Machine.Views

/-!
# Proofs — Machine — Footprint

What an instruction looks at and what it changes.  In a given state it reads some registers and
cells (`State.reads`) and writes some (`State.writes`); which cells these are may depend on
registers, and an act that is refused writes none.

An instruction changes nothing but what it writes (`State.value?_execute`), and what it does depends
on nothing but what it reads: in a state with the same values there, it leaves the same events and
writes the same values to the same places (`State.AgreesOn.execute`).  So two instructions of which
neither writes what the other reads or writes can be carried out in either order
(`independent_commute`).
-/

namespace RegisterMachine

/-- Something that holds a value. -/
inductive Place where
  | register (r : Register)
  | cell (i : Nat)
deriving DecidableEq, Repr

/-- The registers that an address is made up from. -/
def Address.places : Address → List Place
  | register r => [.register r]
  | absolute _ => []

/-- The registers that say where a destination is. -/
def Destination.places : Destination → List Place
  | register _ => []
  | memory a   => a.places

/-- The cell that a number reaches in a view, if there is one. -/
def Memory.placesIn (m : Memory) (view : View) (place : Int64) : List Place :=
  match m.cellIn view place with
  | .ok i    => [.cell i]
  | .error _ => []

theorem Memory.register_notMem_placesIn (m : Memory) (view : View) (place : Int64) (r : Register) :
    .register r ∉ m.placesIn view place := by
  rw [placesIn]
  split
  · exact List.mem_singleton.not.mpr nofun
  · exact List.not_mem_nil

namespace State

/-- The value in a place; a cell that is not there has none. -/
def value? (s : State) : Place → Option Int64
  | .register r => some (s.registers.get r)
  | .cell i     => s.memory.cells[i]?

/-- What is read for the value of an operand. -/
def sourceReads (s : State) : Operand → List Place
  | .register r  => [.register r]
  | .immediate _ => []
  | .memory a    => a.places ++ s.memory.placesIn .ordinary (s.address a)
  | .malformed _ => []

/-- What an instruction reads when it is carried out. -/
def reads (s : State) : Instruction → List Place
  | .mov dst src                => dst.places ++ s.sourceReads src
  | .add dst src | .sub dst src => .register dst :: s.sourceReads src
  | .push src                   => .register .esp :: s.sourceReads src
  | .pop _                      =>
    .register .esp :: s.memory.placesIn .stack (s.registers.get .esp)

/-- What an instruction writes when it is carried out. -/
def writes (s : State) : Instruction → List Place
  | .mov (.register r) _ | .add r _ | .sub r _ => [.register r]
  | .mov (.memory a) _                         => s.memory.placesIn .ordinary (s.address a)
  | .push _                                    =>
    match s.memory.cellIn .stack (s.registers.get .esp - stackSlot) with
    | .ok i    => [.register .esp, .cell i]
    | .error _ => []
  | .pop r                                     =>
    match s.memory.cellIn .stack (s.registers.get .esp) with
    | .ok _    => [.register r, .register .esp]
    | .error _ => []

/-! ### Values in places -/

theorem value?_set_register (b : RegisterBank) (m : Memory) (r : Register) (v : Int64)
    (p : Place) :
    value? ⟨b.set r v, m⟩ p = if p = .register r then some v else value? ⟨b, m⟩ p := by
  cases p with
  | register q =>
      simp only [value?, RegisterBank.get_set, Place.register.injEq, eq_comm (a := q)]
      split <;> rfl
  | cell i => rfl

theorem value?_set_cell (b : RegisterBank) (m : Memory) (i : Fin m.size) (v : Int64) (p : Place) :
    value? ⟨b, m.set i v⟩ p = if p = .cell i then some v else value? ⟨b, m⟩ p := by
  cases p with
  | register q => rfl
  | cell j =>
      simp only [value?, Memory.set, Array.getElem?_set, Place.cell.injEq, eq_comm (a := j)]

/-- A state is known by the values in all places. -/
theorem ext_value? {s t : State} (h : ∀ p, s.value? p = t.value? p) : s = t := by
  obtain ⟨b, ⟨cells⟩⟩ := s
  obtain ⟨b', ⟨cells'⟩⟩ := t
  congr
  · exact RegisterBank.ext_get fun r => Option.some.inj (h (.register r))
  · exact Array.ext_getElem? fun i => h (.cell i)

/-! ### Acts and the cells that they reach -/

section Acts

variable {s : State} {a : Address} {r : Register} {src : Operand} {f : Fault}
  {i : Fin s.memory.size}

theorem assign_of_ok (h : s.memory.cellIn .ordinary (s.address a) = .ok i) (v : Int64) :
    s.assign v (.memory a) = (⟨s.registers, s.memory.set i v⟩, .effect (.setMemory i v)) := by
  rw [assign, show s.memory.index (s.address a) = .ok i from h]

theorem assign_of_error (h : s.memory.cellIn .ordinary (s.address a) = .error f) (v : Int64) :
    s.assign v (.memory a) = (s, .fault f) := by
  rw [assign, show s.memory.index (s.address a) = .error f from h]

theorem push_of_ok (h : s.memory.cellIn .stack (s.registers.get .esp - stackSlot) = .ok i)
    (v : Int64) :
    s.push v =
      (⟨s.registers.set .esp (s.registers.get .esp - stackSlot), s.memory.set i v⟩,
        .effect (.push v (s.registers.get .esp - stackSlot))) := by
  rw [push, show s.memory.stackIndex (s.registers.get .esp - stackSlot) = .ok i from h]

theorem push_of_error (h : s.memory.cellIn .stack (s.registers.get .esp - stackSlot) = .error f)
    (v : Int64) : s.push v = (s, .fault f) := by
  rw [push, show s.memory.stackIndex (s.registers.get .esp - stackSlot) = .error f from h]

theorem pop_of_ok {v : Int64} (h : s.memory.loadIn .stack (s.registers.get .esp) = .ok v) :
    s.pop r =
      (⟨(s.registers.set r v).set .esp ((s.registers.set r v).get .esp + stackSlot), s.memory⟩,
        .effect (.pop r v)) := by
  rw [pop, show s.memory.stackLoad (s.registers.get .esp) = .ok v from h]

theorem pop_of_error (h : s.memory.loadIn .stack (s.registers.get .esp) = .error f) :
    s.pop r = (s, .fault f) := by
  rw [pop, show s.memory.stackLoad (s.registers.get .esp) = .error f from h]

end Acts

/-! ### What is not written stays -/

variable {s t : State} {i j : Instruction} {p : Place} {ps : List Place}

theorem value?_act (v : Int64) (h : p ∉ s.writes i) : (s.act i v).1.value? p = s.value? p := by
  cases i with
  | mov dst src =>
      cases dst with
      | register r => exact (value?_set_register ..).trans (if_neg (List.mem_singleton.not.mp h))
      | memory a =>
          rw [act]
          cases hcell : s.memory.cellIn .ordinary (s.address a) with
          | ok c =>
              rw [writes, Memory.placesIn, hcell] at h
              rw [assign_of_ok hcell]
              exact (value?_set_cell ..).trans (if_neg (List.mem_singleton.not.mp h))
          | error f => rw [assign_of_error hcell]
  | add r src | sub r src =>
      exact (value?_set_register ..).trans (if_neg (List.mem_singleton.not.mp h))
  | push src =>
      rw [act]
      cases hcell : s.memory.cellIn .stack (s.registers.get .esp - stackSlot) with
      | ok c =>
          rw [writes, hcell] at h
          simp only [List.mem_cons, List.not_mem_nil, or_false, not_or] at h
          obtain ⟨hesp, hc⟩ := h
          rw [push_of_ok hcell, value?_set_register, if_neg hesp]
          exact (value?_set_cell ..).trans (if_neg hc)
      | error f => rw [push_of_error hcell]
  | pop r =>
      rw [act]
      cases hcell : s.memory.cellIn .stack (s.registers.get .esp) with
      | ok c =>
          rw [writes, hcell] at h
          simp only [List.mem_cons, List.not_mem_nil, or_false, not_or] at h
          obtain ⟨hr, hesp⟩ := h
          rw [pop_of_ok (Memory.loadIn_of_ok hcell), value?_set_register, if_neg hesp,
            value?_set_register, if_neg hr]
      | error f => rw [pop_of_error (Memory.loadIn_of_error hcell)]

/-- **The frame.**  An instruction changes nothing but what it writes. -/
theorem value?_execute (h : p ∉ s.writes i) : (s.execute i).1.value? p = s.value? p := by
  rw [execute_eq]
  exact value?_act _ h

theorem get_execute {r : Register} (h : .register r ∉ s.writes i) :
    (s.execute i).1.registers.get r = s.registers.get r :=
  Option.some.inj (value?_execute h)

theorem size_execute (s : State) (i : Instruction) :
    (s.execute i).1.memory.size = s.memory.size :=
  (s.replays_execute i).size_memory

/-! ### What is not read does not matter -/

/-- The states have as many cells as each other, and the same values in the places. -/
structure AgreesOn (s t : State) (ps : List Place) : Prop where
  size_eq : t.memory.size = s.memory.size
  value_eq : ∀ p ∈ ps, t.value? p = s.value? p

namespace AgreesOn

variable {a : Address} {view : View} {place : Int64}

theorem mono (h : s.AgreesOn t ps) {qs : List Place} (hsub : qs ⊆ ps) : s.AgreesOn t qs :=
  ⟨h.size_eq, fun p hp => h.value_eq p (hsub hp)⟩

theorem get (h : s.AgreesOn t ps) {r : Register} (hr : .register r ∈ ps) :
    t.registers.get r = s.registers.get r :=
  Option.some.inj (h.value_eq _ hr)

theorem address (h : s.AgreesOn t a.places) : t.address a = s.address a := by
  cases a with
  | register r => exact h.get List.mem_cons_self
  | absolute n => rfl

theorem loadIn (h : s.AgreesOn t (s.memory.placesIn view place)) :
    t.memory.loadIn view place = s.memory.loadIn view place := by
  cases hcell : s.memory.cellIn view place with
  | ok i =>
      obtain ⟨k, hk, hki⟩ := Memory.exists_cellIn h.size_eq hcell
      have hvalue : t.memory.cells[i.val]? = s.memory.cells[i.val]? := by
        refine h.value_eq (.cell i) ?_
        rw [Memory.placesIn, hcell]
        exact List.mem_cons_self
      rw [Memory.loadIn_of_ok hk, Memory.loadIn_of_ok hcell]
      refine congrArg Except.ok (Option.some.inj ?_)
      rw [← Memory.getElem?_cells, ← Memory.getElem?_cells, hki, hvalue]
  | error f =>
      rw [Memory.loadIn_of_error (Memory.cellIn_error_of_size_eq h.size_eq hcell),
        Memory.loadIn_of_error hcell]

theorem placesIn (h : s.AgreesOn t ps) :
    t.memory.placesIn view place = s.memory.placesIn view place := by
  rw [Memory.placesIn, Memory.placesIn]
  cases hcell : s.memory.cellIn view place with
  | ok i =>
      obtain ⟨k, hk, hki⟩ := Memory.exists_cellIn h.size_eq hcell
      rw [hk]
      exact congrArg (fun c => [Place.cell c]) hki
  | error f => rw [Memory.cellIn_error_of_size_eq h.size_eq hcell]

/-- A source has the same value, or the same fault. -/
theorem fetch {src : Operand} (h : s.AgreesOn t (s.sourceReads src)) :
    t.fetch src = s.fetch src := by
  have hread : t.read src = s.read src := by
    cases src with
    | register r => exact congrArg Except.ok (h.get List.mem_cons_self)
    | immediate v => rfl
    | malformed f => rfl
    | memory a =>
        have haddress := (h.mono (List.subset_append_left ..)).address
        have hload := (h.mono (List.subset_append_right ..)).loadIn
        rw [read, haddress]
        exact hload
  rw [State.fetch, hread, ← State.fetch]

end AgreesOn

/-- Acting with a value leaves the same event in both states, and the same values in the same
places. -/
structure ActsAlike (s t : State) (i : Instruction) (v : Int64) : Prop where
  event_eq : (t.act i v).2 = (s.act i v).2
  writes_eq : t.writes i = s.writes i
  value_eq : ∀ p ∈ s.writes i, (t.act i v).1.value? p = (s.act i v).1.value? p

theorem ActsAlike.refused {f : Fault} {v : Int64} (hs : s.act i v = (s, .fault f))
    (ht : t.act i v = (t, .fault f)) (hws : s.writes i = []) (hwt : t.writes i = []) :
    ActsAlike s t i v := by
  refine ⟨by rw [hs, ht], by rw [hws, hwt], fun p hp => ?_⟩
  rw [hws] at hp
  cases hp

namespace AgreesOn

variable {a : Address} {r : Register} {src : Operand} (v : Int64)

theorem assign (h : s.AgreesOn t a.places) : ActsAlike s t (.mov (.memory a) src) v := by
  have haddress := h.address
  cases hcell : s.memory.cellIn .ordinary (s.address a) with
  | ok i =>
      obtain ⟨k, hk, hki⟩ := Memory.exists_cellIn h.size_eq hcell
      rw [← haddress] at hk
      refine ⟨?_, ?_, fun p hp => ?_⟩
      · rw [act, act, assign_of_ok hcell, assign_of_ok hk, hki]
      · rw [writes, writes, haddress, h.placesIn]
      · rw [writes, Memory.placesIn, hcell] at hp
        obtain rfl := List.mem_singleton.mp hp
        rw [act, act, assign_of_ok hcell, assign_of_ok hk, value?_set_cell, value?_set_cell,
          if_pos rfl, if_pos (by rw [hki])]
  | error f =>
      have hcell' := Memory.cellIn_error_of_size_eq h.size_eq hcell
      rw [← haddress] at hcell'
      refine .refused (assign_of_error hcell v) (assign_of_error hcell' v) ?_ ?_
      · rw [writes, Memory.placesIn, hcell]
      · rw [writes, Memory.placesIn, hcell']

theorem push (h : s.AgreesOn t [.register .esp]) : ActsAlike s t (.push src) v := by
  have hesp := h.get List.mem_cons_self
  cases hcell : s.memory.cellIn .stack (s.registers.get .esp - stackSlot) with
  | ok i =>
      obtain ⟨k, hk, hki⟩ := Memory.exists_cellIn h.size_eq hcell
      rw [← hesp] at hk
      refine ⟨?_, ?_, fun p hp => ?_⟩
      · rw [act, act, push_of_ok hcell, push_of_ok hk, hesp]
      · rw [writes, writes, hk, hcell]
        exact congrArg (fun c => [Place.register .esp, Place.cell c]) hki
      · rw [writes, hcell] at hp
        rw [act, act, push_of_ok hcell, push_of_ok hk]
        simp only [value?_set_register, value?_set_cell, hki, hesp]
        rcases List.mem_cons.mp hp with rfl | hp
        · rw [if_pos rfl, if_pos rfl]
        · rw [if_pos (List.mem_singleton.mp hp), if_pos (List.mem_singleton.mp hp)]
  | error f =>
      have hcell' := Memory.cellIn_error_of_size_eq h.size_eq hcell
      rw [← hesp] at hcell'
      refine .refused (push_of_error hcell v) (push_of_error hcell' v) ?_ ?_
      · rw [writes, hcell]
      · rw [writes, hcell']

theorem pop (h : s.AgreesOn t (s.reads (.pop r))) : ActsAlike s t (.pop r) v := by
  have hesp := h.get List.mem_cons_self
  have hload := (h.mono (List.subset_cons_self ..)).loadIn
  cases hcell : s.memory.cellIn .stack (s.registers.get .esp) with
  | ok i =>
      obtain ⟨k, hk, hki⟩ := Memory.exists_cellIn h.size_eq hcell
      have hs := Memory.loadIn_of_ok hcell
      have ht := hload.trans hs
      rw [← hesp] at hk ht
      refine ⟨?_, ?_, fun p hp => ?_⟩
      · rw [act, act, pop_of_ok hs, pop_of_ok ht]
      · rw [writes, writes, hk, hcell]
      · rw [writes, hcell] at hp
        rw [act, act, pop_of_ok hs, pop_of_ok ht]
        simp only [value?_set_register, RegisterBank.get_set, hesp]
        rcases List.mem_cons.mp hp with rfl | hp
        · rw [if_pos rfl, if_pos rfl]
        · rw [if_pos (List.mem_singleton.mp hp), if_pos (List.mem_singleton.mp hp)]
  | error f =>
      have hcell' := Memory.cellIn_error_of_size_eq h.size_eq hcell
      rw [← hesp] at hcell'
      refine .refused (pop_of_error (Memory.loadIn_of_error hcell))
        (pop_of_error (Memory.loadIn_of_error hcell')) ?_ ?_
      · rw [writes, hcell]
      · rw [writes, hcell']

/-- What an instruction does with the value of its source depends on what it reads. -/
theorem act (h : s.AgreesOn t (s.reads i)) (v : Int64) : ActsAlike s t i v := by
  cases i with
  | mov dst src =>
      cases dst with
      | register r =>
          refine ⟨rfl, rfl, fun p hp => ?_⟩
          obtain rfl := List.mem_singleton.mp hp
          simp only [State.act, State.assign, value?_set_register, if_pos]
      | memory a => exact (h.mono (List.subset_append_left ..)).assign v
  | add r src | sub r src =>
      have hr := h.get List.mem_cons_self
      refine ⟨?_, rfl, fun p hp => ?_⟩
      · simp only [State.act, State.add, State.sub, hr]
      · obtain rfl := List.mem_singleton.mp hp
        simp only [State.act, State.add, State.sub, hr, value?_set_register, if_pos]
  | push src => exact (h.mono (List.cons_subset_cons _ (List.nil_subset _))).push v
  | pop r => exact h.pop v

theorem fetched (h : s.AgreesOn t (s.reads i)) : t.fetched i = s.fetched i := by
  cases i with
  | mov dst src => exact (h.mono (List.subset_append_right ..)).fetch
  | add r src | sub r src | push src => exact (h.mono (List.subset_cons_self ..)).fetch
  | pop r => rfl

/-- **Locality.**  Where two states agree on what an instruction reads, it leaves the same events in
both and writes the same values to the same places. -/
theorem execute (h : s.AgreesOn t (s.reads i)) :
    (t.execute i).2 = (s.execute i).2 ∧ t.writes i = s.writes i ∧
      ∀ p ∈ s.writes i, (t.execute i).1.value? p = (s.execute i).1.value? p := by
  have hact := h.act (s.fetched i).1
  rw [execute_eq, execute_eq, h.fetched, hact.event_eq]
  exact ⟨rfl, hact.writes_eq, hact.value_eq⟩

end AgreesOn

/-- What an instruction writes is all that it changes, so the states before and after it agree on
whatever it does not write. -/
theorem agreesOn_execute (h : (s.writes i).Disjoint ps) : s.AgreesOn (s.execute i).1 ps :=
  ⟨s.size_execute i, fun _ hp => value?_execute fun hw => h hw hp⟩

/-- **Two instructions in a row.**  If the first writes nothing that the second reads, then the
second does what it would have done at once. -/
theorem value?_execute_execute (h : (s.writes i).Disjoint (s.reads j)) (p : Place) :
    ((s.execute i).1.execute j).1.value? p =
      if p ∈ s.writes j then (s.execute j).1.value? p else (s.execute i).1.value? p := by
  obtain ⟨-, hwrites, hvalues⟩ := (agreesOn_execute h).execute
  split
  · next hp => exact hvalues p hp
  · next hp => exact value?_execute (hwrites ▸ hp)

end State

/-- **Independent instructions commute.**  Let two instructions be such that, in the state of a
machine, neither writes anything that the other reads or writes.  Carried out in either order, they
lead to the same registers and the same memory, and each puts the same entries on the trace, those
that it would have put there alone. -/
theorem independent_commute (m : Machine) (k l : Nat) (i j : Instruction)
    (hij : (m.state.writes i).Disjoint (m.state.reads j))
    (hww : (m.state.writes i).Disjoint (m.state.writes j))
    (hji : (m.state.writes j).Disjoint (m.state.reads i)) :
    let entriesOfI := (m.state.execute i).2.map (Entry.mk k)
    let entriesOfJ := (m.state.execute j).2.map (Entry.mk l)
    ((m.execute k i).execute l j).state = ((m.execute l j).execute k i).state ∧
    ((m.execute k i).execute l j).trace = m.trace ++ entriesOfI ++ entriesOfJ ∧
    ((m.execute l j).execute k i).trace = m.trace ++ entriesOfJ ++ entriesOfI := by
  intro entriesOfI entriesOfJ
  obtain ⟨hi, -, -⟩ := (State.agreesOn_execute hji).execute
  obtain ⟨hj, -, -⟩ := (State.agreesOn_execute hij).execute
  refine ⟨?_, ?_, ?_⟩
  · refine State.ext_value? fun p => ?_
    show ((m.state.execute i).1.execute j).1.value? p = ((m.state.execute j).1.execute i).1.value? p
    rw [State.value?_execute_execute hij, State.value?_execute_execute hji]
    by_cases hp : p ∈ m.state.writes i
    · rw [if_pos hp, if_neg fun hp' => hww hp hp']
    · rw [if_neg hp, State.value?_execute hp]
      -- what neither of them writes is as it was
      split
      · rfl
      · next hp' => exact (State.value?_execute hp').symm
  · show m.trace ++ entriesOfI ++ ((m.state.execute i).1.execute j).2.map (Entry.mk l) = _
    rw [hj]
  · show m.trace ++ entriesOfJ ++ ((m.state.execute j).1.execute i).2.map (Entry.mk k) = _
    rw [hi]

/-- A push of a cell, and a move to another cell from an address that memory does not have.  The
push lands on a cell that lies between those two. -/
theorem independent_commute_push_mov :
    let registers := ((RegisterBank.zero.set .eax 2).set .ebx 5).set .ecx 9
    let m : Machine := ⟨⟨registers, (Memory.zero 8).set ⟨2, by decide⟩ 7⟩, #[]⟩
    let i : Instruction := .push (.memory (.register .eax))
    let j : Instruction := .mov (.memory (.register .ebx)) (.memory (.register .ecx))
    m.state.reads i = [.register .esp, .register .eax, .cell 2] ∧
    m.state.writes i = [.register .esp, .cell 4] ∧
    m.state.reads j = [.register .ebx, .register .ecx] ∧ m.state.writes j = [.cell 5] ∧
    ((m.execute 1 i).execute 2 j).state = ((m.execute 2 j).execute 1 i).state ∧
    ((m.execute 2 j).execute 1 i).trace.toList =
      [⟨2, .fault (.addressOutOfBounds 9 8)⟩, ⟨2, .effect (.setMemory 5 0)⟩,
        ⟨1, .effect (.push 7 (-4))⟩] := by
  intro registers m i j
  have hri : m.state.reads i = [.register .esp, .register .eax, .cell 2] := by decide
  have hwi : m.state.writes i = [.register .esp, .cell 4] := by decide
  have hrj : m.state.reads j = [.register .ebx, .register .ecx] := by decide
  have hwj : m.state.writes j = [.cell 5] := by decide
  obtain ⟨hstate, -, htrace⟩ := independent_commute m 1 2 i j (by simp [hwi, hrj])
    (by simp [hwi, hwj]) (by simp [hwj, hri])
  refine ⟨hri, hwi, hrj, hwj, hstate, ?_⟩
  rw [htrace]
  decide

end RegisterMachine
