/-!
# Registers

The eight registers and the bank that holds one signed 64-bit number for each of them.

* `Register.ofName?_eq_some_iff`: a register is known by its lower-case name and no other.
* `RegisterBank.get_set`: the bank is a total map, written at one register at a time.
-/

namespace RegisterMachine

/-- A register. -/
inductive Register where
  | eax
  | ebx
  | ecx
  | edx
  | esi
  | edi
  | ebp
  | esp
deriving DecidableEq, Repr, Inhabited

namespace Register

/-- All registers, in the order of the bank. -/
def all : List Register :=
  [eax, ebx, ecx, edx, esi, edi, ebp, esp]

/-- The name of a register in source text and in every listing. -/
def name : Register → String
  | eax => "eax"
  | ebx => "ebx"
  | ecx => "ecx"
  | edx => "edx"
  | esi => "esi"
  | edi => "edi"
  | ebp => "ebp"
  | esp => "esp"

/-- The register of that exact name. -/
def ofName? (s : String) : Option Register :=
  all.find? fun r => r.name == s

/-- The place of a register in the bank. -/
def index : Register → Fin 8
  | eax => 0
  | ebx => 1
  | ecx => 2
  | edx => 3
  | esi => 4
  | edi => 5
  | ebp => 6
  | esp => 7

theorem mem_all (r : Register) : r ∈ all := by
  cases r <;> decide

theorem name_inj {r s : Register} (h : r.name = s.name) : r = s := by
  cases r <;> cases s <;> first | rfl | exact absurd h (by decide)

theorem index_inj {r s : Register} (h : r.index = s.index) : r = s := by
  cases r <;> cases s <;> first | rfl | exact absurd h (by decide)

/-- Every place of the bank is the place of a register. -/
theorem exists_index (i : Fin 8) : ∃ r : Register, r.index = i := by
  have h : ∀ i : Fin 8, ∃ r ∈ all, r.index = i := by decide
  obtain ⟨r, -, hr⟩ := h i
  exact ⟨r, hr⟩

theorem ofName?_eq_some_iff {s : String} {r : Register} : ofName? s = some r ↔ s = r.name := by
  constructor
  · intro h
    have := List.find?_some h
    exact (eq_of_beq this).symm
  · rintro rfl
    cases r <;> decide

theorem ofName?_name (r : Register) : ofName? r.name = some r :=
  ofName?_eq_some_iff.mpr rfl

end Register

/-- A value for every register. -/
structure RegisterBank where
  values : Vector Int64 8
deriving DecidableEq, Repr

namespace RegisterBank

/-- All registers hold zero. -/
def zero : RegisterBank :=
  ⟨Vector.replicate 8 0⟩

/-- The value of a register. -/
def get (b : RegisterBank) (r : Register) : Int64 :=
  b.values[r.index]

/-- The bank after a register is set. -/
def set (b : RegisterBank) (r : Register) (v : Int64) : RegisterBank :=
  ⟨b.values.set r.index v⟩

/-- The bank with zero put into every register. -/
def reset (b : RegisterBank) : RegisterBank :=
  { b with values := Vector.replicate 8 0 }

/-- The registers with their values, in bank order. -/
def toList (b : RegisterBank) : List (Register × Int64) :=
  Register.all.map fun r => (r, b.get r)

theorem get_zero (r : Register) : zero.get r = 0 := by
  simp [get, zero]

theorem reset_eq (b : RegisterBank) : b.reset = zero :=
  rfl

theorem get_set (b : RegisterBank) (r s : Register) (v : Int64) :
    (b.set r v).get s = if r = s then v else b.get s := by
  by_cases h : r = s
  · simp [get, set, h]
  · have hi : (r.index : Nat) ≠ s.index := fun hi => h (Register.index_inj (Fin.ext hi))
    simp [get, set, h, hi]

@[simp] theorem get_set_self (b : RegisterBank) (r : Register) (v : Int64) :
    (b.set r v).get r = v := by
  simp [get_set]

theorem get_set_of_ne (b : RegisterBank) {r s : Register} (h : r ≠ s) (v : Int64) :
    (b.set r v).get s = b.get s := by
  simp [get_set, h]

/-- Two banks with the same values are the same bank. -/
theorem ext_get {b c : RegisterBank} (h : ∀ r, b.get r = c.get r) : b = c := by
  obtain ⟨v⟩ := b
  obtain ⟨w⟩ := c
  congr
  ext i hi
  obtain ⟨r, hr⟩ := Register.exists_index ⟨i, hi⟩
  have := h r
  simpa [get, hr] using this

end RegisterBank

end RegisterMachine
