import Mathlib.Algebra.Group.Int.Defs
import RegisterMachine.Proofs.Machine.Stack

/-!
# Proofs — Machine — Recall

What pops give back after pushes, wherever the stack pointer stands.  As many pops as there were
pushes never fault and bring the stack pointer back.  What they give back are the values that were
pushed, the last one first, as long as the pushes are no more than memory has room for; of more, the
later ones lie on the earlier ones (`pops_recall_pushes`).

Stack pointers from minus the number of cells up to that number reach cells, so the way down through
all of them comes by every cell twice, if it comes by it again at all.  Slots are four cells apart:
if four divides the number of cells, the way back to a cell is a quarter as many slots long, and
otherwise it leads through all numbers of 64 bits (`Memory.turn`, `Memory.eq_iff_turn_dvd`).  So
after pushes, the slot `j` above the stack pointer holds what was pushed last in a slot a number of
whole turns below it, which is the value number `j` modulo a turn, counted from the last
(`Machine.Pushed`).
-/

namespace RegisterMachine

/-! ### Slots -/

/-- The stack pointer that lies so many slots above another. -/
def slotAbove (sp : Int64) : Nat → Int64
  | 0     => sp
  | j + 1 => slotAbove (sp + stackSlot) j

theorem slotAbove_succ (sp : Int64) (j : Nat) :
    slotAbove sp (j + 1) = slotAbove sp j + stackSlot := by
  induction j generalizing sp with
  | zero => rfl
  | succ j ih => exact ih (sp + stackSlot)

theorem slotAbove_sub (sp : Int64) (j : Nat) :
    slotAbove (sp - stackSlot) (j + 1) = slotAbove sp j := by
  rw [slotAbove, Int64.sub_add_cancel]

/-- Slots lie four apart, but for an overflow. -/
theorem exists_toInt_slotAbove (sp : Int64) (j : Nat) :
    ∃ q : Int, (slotAbove sp j).toInt = sp.toInt + 4 * j + 2 ^ 64 * q := by
  induction j with
  | zero => exact ⟨0, by rw [slotAbove]; omega⟩
  | succ j ih =>
      obtain ⟨q, hq⟩ := ih
      have hslot : stackSlot.toInt = 4 := by decide
      rw [slotAbove_succ, Int64.toInt_add, hslot, Int.bmod_eq_self_sub_mul_bdiv, hq]
      refine ⟨q - (sp.toInt + 4 * j + 2 ^ 64 * q + 4).bdiv (2 ^ 64), ?_⟩
      omega

/-! ### The cells of slots -/

namespace Memory

/-- How many slots lie between a slot and the next one that is in the same cell. -/
def turn (m : Memory) : Nat :=
  if 4 ∣ m.size then m.size / 4 else (Text.uint64Max + 1) / 4

/-- The stack pointer reaches a cell. -/
def HasSlot (m : Memory) (sp : Int64) : Prop :=
  ∃ i, m.stackIndex sp = .ok i

variable {m : Memory} {sp : Int64} {i k : Fin m.size} {v w : Int64}

theorem stackLoad_eq_ok_iff :
    m.stackLoad sp = .ok v ↔ ∃ i, m.stackIndex sp = .ok i ∧ m.get i = v := by
  rw [stackLoad]
  cases m.stackIndex sp with
  | ok i => simp
  | error f => simp

/-- Between slots that reach cells there is no overflow, if there are numbers left over. -/
theorem toInt_slotAbove (hm : m.size + 3 ≤ Text.int64Max) {j : Nat}
    (h : ∀ l < j, m.HasSlot (slotAbove sp l)) :
    (slotAbove sp j).toInt = sp.toInt + 4 * j := by
  induction j with
  | zero => rw [slotAbove]; omega
  | succ j ih =>
      have hj := ih fun l hl => h l (Nat.lt_succ_of_lt hl)
      obtain ⟨i, hi⟩ := h j (Nat.lt_succ_self j)
      have hlt := i.isLt
      have hint := toInt_of_stackIndex hi
      rw [slotAbove_succ, toInt_add_stackSlot (by omega), hj]
      omega

/-- **Slots of one cell.**  Two slots lie in the same cell exactly if whole turns lie between
them. -/
theorem eq_iff_turn_dvd {j : Nat} (hi : m.stackIndex sp = .ok i)
    (hk : m.stackIndex (slotAbove sp j) = .ok k) (h : ∀ l < j, m.HasSlot (slotAbove sp l)) :
    i = k ↔ m.turn ∣ j := by
  have hsize := size_le_of_stackIndex hi
  have hmax : Text.int64Max = 2 ^ 63 - 1 := rfl
  have hi' := toInt_of_stackIndex hi
  have hk' := toInt_of_stackIndex hk
  have hilt := i.isLt
  have hklt := k.isLt
  rw [Fin.ext_iff, turn]
  split
  · next hfour =>
      obtain ⟨q, hq⟩ := hfour
      have hint := toInt_slotAbove (by omega) h
      have hturn : m.size / 4 = q := by omega
      rw [hturn]
      constructor
      · intro heq
        have hj : j = 0 ∨ j = q := by omega
        rcases hj with rfl | rfl
        · exact Nat.dvd_zero q
        · exact Nat.dvd_refl j
      · rintro ⟨t, rfl⟩
        -- the stack pointers that reach cells make two turns and no more
        match t with
        | 0     => omega
        | 1     => omega
        | t + 2 =>
            have := Nat.mul_le_mul_left q (Nat.le_add_left 2 t)
            omega
  · next hfour =>
      -- a difference of four times something is not the number of cells, even after an overflow
      obtain ⟨q, hq⟩ := exists_toInt_slotAbove sp j
      have hturn : (Text.uint64Max + 1) / 4 = 2 ^ 62 := rfl
      rw [hturn]
      omega

theorem turn_set (m : Memory) (i : Fin m.size) (v : Int64) : (m.set i v).turn = m.turn := by
  rw [turn, turn, size_set]

theorem stackLoad_set (hk : m.stackIndex sp = .ok k) :
    (m.set i v).stackLoad sp = .ok (if i = k then v else m.get k) := by
  have hsize := size_set m i v
  have hk' : k.val < (m.set i v).size := hsize.symm ▸ k.isLt
  have hindex : (m.set i v).stackIndex sp = .ok ⟨k.val, hk'⟩ := by
    rw [stackIndex_eq_ok_iff _ (hsize.symm ▸ size_le_of_stackIndex hk)]
    simpa only [hsize] using toInt_of_stackIndex hk
  rw [stackLoad, hindex]
  simp only [get_set, Fin.ext_iff]

end Memory

/-! ### Values in slots -/

/-- The values as they are found where only the first `n` are left, in their order and again from
the start. -/
def recurring (n : Nat) (vs : List Int64) : List Int64 :=
  List.ofFn fun j : Fin vs.length => vs.get ⟨j % n, Nat.lt_of_le_of_lt (Nat.mod_le j n) j.isLt⟩

theorem getElem?_recurring (n : Nat) (vs : List Int64) (j : Nat) :
    (recurring n vs)[j]? = if j < vs.length then vs[j % n]? else none := by
  rw [recurring, List.getElem?_ofFn]
  split
  · next h => rw [List.get_eq_getElem, List.getElem?_eq_getElem]
  · rfl

theorem length_recurring (n : Nat) (vs : List Int64) : (recurring n vs).length = vs.length :=
  List.length_ofFn

theorem add_one_mod_of_not_dvd {n j : Nat} (h : ¬ n ∣ j + 1) : (j + 1) % n = j % n + 1 := by
  rw [Nat.dvd_iff_mod_eq_zero, ← Nat.mod_add_mod] at h
  rw [← Nat.mod_add_mod]
  by_cases hn : n = 0
  · rw [hn, Nat.mod_zero]
  · have hlt := Nat.mod_lt j (Nat.pos_of_ne_zero hn)
    have hne : j % n + 1 ≠ n := fun heq => h (by rw [heq, Nat.mod_self])
    exact Nat.mod_eq_of_lt (by omega)

/-- No value recurs if there are no more than `n`. -/
theorem recurring_of_length_le {n : Nat} {vs : List Int64} (h : vs.length ≤ n) :
    recurring n vs = vs := by
  apply List.ext_getElem?
  intro j
  rw [getElem?_recurring]
  split
  · next hj => rw [Nat.mod_eq_of_lt (Nat.lt_of_lt_of_le hj h)]
  · next hj => exact (List.getElem?_eq_none (Nat.not_lt.mp hj)).symm

namespace Memory

/-- The slots from a stack pointer up hold values. -/
def Holds (m : Memory) (sp : Int64) (vs : List Int64) : Prop :=
  ∀ j v, vs[j]? = some v → m.stackLoad (slotAbove sp j) = .ok v

variable {m : Memory} {sp : Int64} {vs : List Int64}

theorem Holds.head {v : Int64} (h : m.Holds sp (v :: vs)) : m.stackLoad sp = .ok v :=
  h 0 v rfl

theorem Holds.tail {v : Int64} (h : m.Holds sp (v :: vs)) : m.Holds (sp + stackSlot) vs :=
  fun j => h (j + 1)

theorem Holds.hasSlot (h : m.Holds sp vs) {j : Nat} (hj : j < vs.length) :
    m.HasSlot (slotAbove sp j) := by
  obtain ⟨i, hi, -⟩ := stackLoad_eq_ok_iff.mp (h j _ (List.getElem?_eq_getElem hj))
  exact ⟨i, hi⟩

/-- A push leaves a value lower than the values pushed before, and on those that lie whole turns
above it. -/
theorem Holds.push {i : Fin m.size} (h : m.Holds sp (recurring m.turn vs))
    (hi : m.stackIndex (sp - stackSlot) = .ok i) (v : Int64) :
    (m.set i v).Holds (sp - stackSlot) (recurring m.turn (v :: vs)) := by
  have hslots : ∀ l < vs.length + 1, m.HasSlot (slotAbove (sp - stackSlot) l) := by
    intro l hl
    cases l with
    | zero => exact ⟨i, hi⟩
    | succ l =>
        rw [slotAbove_sub]
        exact h.hasSlot (by rw [length_recurring]; exact Nat.lt_of_succ_lt_succ hl)
  intro j w hw
  rw [getElem?_recurring, List.length_cons] at hw
  split at hw
  · next hj =>
      obtain ⟨k, hk⟩ := hslots j hj
      have hcell := eq_iff_turn_dvd hi hk fun l hl => hslots l (Nat.lt_trans hl hj)
      rw [stackLoad_set hk]
      by_cases hturn : m.turn ∣ j
      · rw [if_pos (hcell.mpr hturn)]
        rw [Nat.mod_eq_zero_of_dvd hturn, List.getElem?_cons_zero] at hw
        rw [Option.some.inj hw]
      · rw [if_neg (mt hcell.mp hturn)]
        cases j with
        | zero => exact absurd (Nat.dvd_zero _) hturn
        | succ j =>
            -- the value before it is one slot away, and lies in the same turn
            rw [add_one_mod_of_not_dvd hturn, List.getElem?_cons_succ] at hw
            rw [slotAbove_sub] at hk
            have hold : m.stackLoad (slotAbove sp j) = .ok w :=
              h j w (by rw [getElem?_recurring, if_pos (Nat.lt_of_succ_lt_succ hj), hw])
            obtain ⟨k', hk', hget⟩ := stackLoad_eq_ok_iff.mp hold
            rw [hk] at hk'
            rw [Except.ok.inj hk', hget]
  · cases hw

end Memory

/-! ### Pushing -/

/-- Pushes of values, each on its line. -/
def pushEach (values : List (Nat × Int64)) : List (Nat × Instruction) :=
  values.map fun p => (p.1, .push (.immediate p.2))

/-- Pops into registers, each on its line. -/
def popEach (registers : List (Nat × Register)) : List (Nat × Instruction) :=
  registers.map fun p => (p.1, .pop p.2)

namespace Machine

/-- The faults of events are put on the trace. -/
theorem faults_execute (m : Machine) (line : Nat) (i : Instruction) :
    (m.execute line i).trace.faults =
      m.trace.faults ++ ((m.state.execute i).2.filterMap Event.fault?).map (line, ·) := by
  have hlogs : m.Logs line i (m.state.execute i).2 := logs_of_eq rfl
  rw [Trace.faults, hlogs, Array.toList_appendList, List.filterMap_append, List.filterMap_map,
    List.map_filterMap]
  rfl

theorem executeAll_cons (m : Machine) (line : Nat) (i : Instruction)
    (rest : List (Nat × Instruction)) :
    m.executeAll ((line, i) :: rest) = (m.execute line i).executeAll rest :=
  rfl

/-- No fault is ever taken off the trace. -/
theorem faults_prefix_executeAll (m : Machine) (program : List (Nat × Instruction)) :
    m.trace.faults <+: (m.executeAll program).trace.faults := by
  induction program generalizing m with
  | nil => exact List.prefix_refl _
  | cons p rest ih =>
      obtain ⟨line, i⟩ := p
      refine List.IsPrefix.trans ?_ (ih (m.execute line i))
      rw [faults_execute]
      exact List.prefix_append _ _

/-- If instructions leave no fault, then the first of them leaves none and the others leave none. -/
theorem faults_of_executeAll_cons {m : Machine} {line : Nat} {i : Instruction}
    {rest : List (Nat × Instruction)}
    (h : (m.executeAll ((line, i) :: rest)).trace.faults = m.trace.faults) :
    (m.execute line i).trace.faults = m.trace.faults ∧
      ((m.execute line i).executeAll rest).trace.faults = (m.execute line i).trace.faults := by
  rw [executeAll_cons] at h
  have hrest := (m.execute line i).faults_prefix_executeAll rest
  have hfirst : m.trace.faults <+: (m.execute line i).trace.faults :=
    m.faults_prefix_executeAll [(line, i)]
  rw [h] at hrest
  have heq := hrest.eq_of_length_le hfirst.length_le
  exact ⟨heq, h.trans heq.symm⟩

/-- Since the stack pointer was at `sp`, values have been pushed, the last of them in front. -/
structure Pushed (m : Machine) (sp : Int64) (vs : List Int64) : Prop where
  back : slotAbove (m.state.registers.get .esp) vs.length = sp
  holds : m.state.memory.Holds (m.state.registers.get .esp) (recurring m.state.memory.turn vs)

theorem pushed_nil (m : Machine) : m.Pushed (m.state.registers.get .esp) [] :=
  ⟨rfl, fun _ _ h => nomatch h⟩

/-- **One push.** -/
theorem Pushed.push {m : Machine} {sp : Int64} {vs : List Int64} (h : m.Pushed sp vs) {line : Nat}
    {v : Int64}
    (hfaults : (m.execute line (.push (.immediate v))).trace.faults = m.trace.faults) :
    (m.execute line (.push (.immediate v))).Pushed sp (v :: vs) ∧
      (m.execute line (.push (.immediate v))).state.memory.turn = m.state.memory.turn := by
  cases hi : m.state.memory.stackIndex (m.state.registers.get .esp - stackSlot) with
  | ok i =>
      have hstate : (m.execute line (.push (.immediate v))).state =
          ⟨m.state.registers.set .esp (m.state.registers.get .esp - stackSlot),
            m.state.memory.set i v⟩ := by
        rw [state_execute, State.execute_push, State.push]
        simp only [State.fetch, State.read, hi]
      refine ⟨⟨?_, ?_⟩, ?_⟩
      · rw [hstate, RegisterBank.get_set_self, List.length_cons, slotAbove_sub]
        exact h.back
      · rw [hstate, RegisterBank.get_set_self, Memory.turn_set]
        exact h.holds.push hi v
      · rw [hstate, Memory.turn_set]
  | error f =>
      -- the refusal would be on the trace
      rw [faults_execute, State.execute_push, State.push] at hfaults
      simp [State.fetch, State.read, hi, Event.fault?] at hfaults

theorem Pushed.pushEach {m : Machine} {sp : Int64} {vs : List Int64} (h : m.Pushed sp vs)
    {values : List (Nat × Int64)}
    (hfaults : (m.executeAll (pushEach values)).trace.faults = m.trace.faults) :
    (m.executeAll (pushEach values)).Pushed sp ((values.map Prod.snd).reverse ++ vs) ∧
      (m.executeAll (pushEach values)).state.memory.turn = m.state.memory.turn := by
  induction values generalizing m vs with
  | nil => exact ⟨h, rfl⟩
  | cons p values ih =>
      obtain ⟨line, v⟩ := p
      obtain ⟨hfirst, hrest⟩ := faults_of_executeAll_cons hfaults
      obtain ⟨hpushed, hturn⟩ := h.push hfirst
      obtain ⟨hall, hturns⟩ := ih hpushed hrest
      refine ⟨?_, hturns.trans hturn⟩
      rw [List.map_cons, List.reverse_cons, List.append_assoc, List.singleton_append]
      exact hall

/-! ### Popping -/

/-- The entry of a pop that gives back a value. -/
def popEntry (p : Nat × Register) (v : Int64) : Entry :=
  ⟨p.1, .effect (.pop p.2 v)⟩

theorem filterMap_fault?_popEntries (registers : List (Nat × Register)) (vs : List Int64) :
    (List.zipWith popEntry registers vs).filterMap Entry.fault? = [] := by
  induction registers generalizing vs with
  | nil => rfl
  | cons p registers ih =>
      cases vs with
      | nil => rfl
      | cons v vs => exact ih vs

/-- A pop gives back the value that the slot holds, and moves one slot up. -/
theorem execute_pop_of_stackLoad {m : Machine} {v : Int64}
    (hload : m.state.memory.stackLoad (m.state.registers.get .esp) = .ok v) {r : Register}
    (hr : r ≠ .esp) (line : Nat) :
    (m.execute line (.pop r)).trace.toList = m.trace.toList ++ [popEntry (line, r) v] ∧
    (m.execute line (.pop r)).state.registers.get .esp =
      m.state.registers.get .esp + stackSlot ∧
    (m.execute line (.pop r)).state.memory = m.state.memory := by
  have hpop : m.state.execute (.pop r) =
      ({ m.state with
          registers := (m.state.registers.set r v).set .esp
            ((m.state.registers.set r v).get .esp + stackSlot) }, [.effect (.pop r v)]) := by
    rw [State.execute_pop, State.pop, hload]
  have hlogs : m.Logs line (.pop r) [.effect (.pop r v)] := logs_of_eq (by rw [hpop])
  refine ⟨?_, ?_, ?_⟩
  · rw [hlogs, Array.toList_appendList]
    rfl
  · rw [state_execute, hpop, RegisterBank.get_set_self, RegisterBank.get_set_of_ne _ hr]
  · rw [state_execute, hpop]

/-- Pops give back what the slots hold, in order. -/
theorem executeAll_popEach {m : Machine} {vs : List Int64}
    (h : m.state.memory.Holds (m.state.registers.get .esp) vs) {registers : List (Nat × Register)}
    (hlength : registers.length = vs.length) (hregisters : ∀ p ∈ registers, p.2 ≠ .esp) :
    (m.executeAll (popEach registers)).trace.toList =
      m.trace.toList ++ List.zipWith popEntry registers vs ∧
    (m.executeAll (popEach registers)).state.registers.get .esp =
      slotAbove (m.state.registers.get .esp) vs.length := by
  induction registers generalizing m vs with
  | nil =>
      obtain rfl := List.eq_nil_of_length_eq_zero hlength.symm
      exact ⟨(List.append_nil _).symm, rfl⟩
  | cons p registers ih =>
      obtain ⟨line, r⟩ := p
      cases vs with
      | nil => cases hlength
      | cons v vs =>
          obtain ⟨htrace, hesp, hmemory⟩ :=
            execute_pop_of_stackLoad h.head (hregisters _ List.mem_cons_self) line
          have htail : (m.execute line (.pop r)).state.memory.Holds
              ((m.execute line (.pop r)).state.registers.get .esp) vs := by
            rw [hesp, hmemory]
            exact h.tail
          obtain ⟨htraces, hesps⟩ := ih htail (Nat.succ.inj hlength)
            fun p hp => hregisters p (List.mem_cons_of_mem _ hp)
          refine ⟨htraces.trans ?_, hesps.trans ?_⟩
          · rw [htrace, List.append_assoc]
            rfl
          · rw [hesp]
            rfl

end Machine

/-- **What is pushed is popped.**  Let a machine in any state push values without a fault, and then
pop as many into registers other than the stack pointer.  The pops leave no fault, and bring the
stack pointer back to where it was.  They give back the values from the last one to the first, if
these are no more than fit in a turn; and otherwise those that were pushed in the last turn, over
and over. -/
theorem pops_recall_pushes (m : Machine) (values : List (Nat × Int64))
    (registers : List (Nat × Register))
    (hvalues : (m.executeAll (pushEach values)).trace.faults = m.trace.faults)
    (hlength : registers.length = values.length) (hregisters : ∀ p ∈ registers, p.2 ≠ .esp) :
    let pushed := m.executeAll (pushEach values)
    let popped := pushed.executeAll (popEach registers)
    let latest := (values.map Prod.snd).reverse
    popped.trace.toList = pushed.trace.toList ++
      List.zipWith Machine.popEntry registers (recurring m.state.memory.turn latest) ∧
    popped.trace.faults = pushed.trace.faults ∧
    popped.state.registers.get .esp = m.state.registers.get .esp ∧
    (values.length ≤ m.state.memory.turn →
      popped.trace.toList =
        pushed.trace.toList ++ List.zipWith Machine.popEntry registers latest) := by
  intro pushed popped latest
  obtain ⟨⟨hback, hholds⟩, hturn⟩ := m.pushed_nil.pushEach hvalues
  rw [List.append_nil] at hback hholds
  rw [hturn] at hholds
  have hlatest : latest.length = values.length := by
    rw [List.length_reverse, List.length_map]
  have hrecurring : registers.length = (recurring m.state.memory.turn latest).length := by
    rw [length_recurring, hlatest, hlength]
  obtain ⟨htrace, hesp⟩ := Machine.executeAll_popEach hholds hrecurring hregisters
  refine ⟨htrace, ?_, ?_, ?_⟩
  · rw [Trace.faults, htrace, List.filterMap_append, Machine.filterMap_fault?_popEntries,
      List.append_nil, Trace.faults]
  · rw [hesp, length_recurring]
    exact hback
  · intro hle
    rw [htrace, recurring_of_length_le (Nat.le_trans (Nat.le_of_eq hlatest) hle)]

/-- Eight cells are two slots to a turn, so of three values that are pushed from cell eight down the
third lies on the first. -/
theorem pops_recall_pushes_eight_cells :
    let m : Machine := ⟨⟨RegisterBank.zero.set .esp 8, .zero 8⟩, #[]⟩
    let values := [(1, 7), (2, 8), (3, 9)]
    let registers := [(4, .eax), (5, .ebx), (6, .eax)]
    let pushed := m.executeAll (pushEach values)
    let popped := pushed.executeAll (popEach registers)
    pushed.trace.faults = m.trace.faults ∧ registers.length = values.length ∧
    (∀ p ∈ registers, p.2 ≠ .esp) ∧
    popped.trace.toList = pushed.trace.toList ++
      [⟨4, .effect (.pop .eax 9)⟩, ⟨5, .effect (.pop .ebx 8)⟩, ⟨6, .effect (.pop .eax 9)⟩] ∧
    popped.state.registers.get .esp = 8 := by
  intro m values registers pushed popped
  have hvalues : pushed.trace.faults = m.trace.faults := by decide
  have hregisters : ∀ p ∈ registers, p.2 ≠ Register.esp := by decide
  have hrecurring :
      recurring m.state.memory.turn (values.map Prod.snd).reverse = [9, 8, 9] := by decide
  obtain ⟨htrace, -, hesp, -⟩ := pops_recall_pushes m values registers hvalues rfl hregisters
  rw [hrecurring] at htrace
  exact ⟨hvalues, rfl, hregisters, htrace, hesp⟩

/-- **What is pushed is not always popped.**  Four cells are one slot to a turn: of two values that
are pushed without a fault, the first is lost, and the second is popped twice. -/
theorem pops_forget_push_four_cells :
    ¬ ∀ (m : Machine) (values : List (Nat × Int64)) (registers : List (Nat × Register)),
      (m.executeAll (pushEach values)).trace.faults = m.trace.faults →
      registers.length = values.length → (∀ p ∈ registers, p.2 ≠ .esp) →
      let pushed := m.executeAll (pushEach values)
      let popped := pushed.executeAll (popEach registers)
      popped.trace.toList = pushed.trace.toList ++
        List.zipWith Machine.popEntry registers (values.map Prod.snd).reverse ∧
      popped.state.registers.get .esp = m.state.registers.get .esp := by
  intro h
  let m : Machine := ⟨⟨RegisterBank.zero.set .esp 4, .zero 4⟩, #[]⟩
  obtain ⟨htrace, -⟩ :=
    h m [(1, 7), (2, 8)] [(3, .eax), (4, .ebx)] (by decide) rfl (by decide)
  exact absurd htrace (by decide)

end RegisterMachine
