import RegisterMachine.Operand
import RegisterMachine.Proofs.Text.Numerals

/-!
# Proofs — Machine — Operands

Which operand a token stands for.  A token has one of three shapes: it is the name of a register, it
is bracketed, or it is neither, and then it may be a number (`Operand.token_cases`).  No token has
two of them, since all names begin with a letter and all numbers with a digit or a sign, so what a
token stands for does not hang on the order in which the shapes are tried
(`tokens_read_exactly`).
-/

namespace RegisterMachine

open Text (Decimal Denotes IsDigit)

/-! ### How operands are written -/

/-- An address as it stands between brackets: a register by its name, or a decimal numeral of the
address itself. -/
def Address.Written (inner : String) : Address → Prop
  | register r => inner = r.name
  | absolute n => Decimal inner.toList n.toInt

/-- A number as it stands in a token: a decimal numeral, or hexadecimal digits right behind `0x`. -/
inductive IsNumber : List Char → Int → Prop where
  | decimal {cs : List Char} {z : Int} (h : Decimal cs z) : IsNumber cs z
  | hexadecimal {digits : List Char} {n : Nat} (h : Denotes 16 digits n) :
      IsNumber ('0' :: 'x' :: digits) n

/-- The characters that a number can begin with. -/
def beginsNumber (c : Char) : Bool :=
  c == '+' || c == '-' || c.isDigit

theorem isDigit_of_isDigit_ten {c : Char} {d : Nat} (h : IsDigit 10 c d) : c.isDigit = true := by
  have hascii : ∀ c : Char, c.toNat < 128 → ∀ d < 10, IsDigit 10 c d → c.isDigit = true :=
    fun _ => Text.forall_ascii (p := fun c => ∀ d < 10, IsDigit 10 c d → c.isDigit = true)
      (by decide +kernel)
  exact hascii c h.toNat_lt d h.1 h

theorem beginsNumber_of_denotes {c : Char} {cs : List Char} {n : Nat} (h : Denotes 10 (c :: cs) n) :
    beginsNumber c = true := by
  obtain ⟨d, hd⟩ := h.exists_isDigit c List.mem_cons_self
  simp [beginsNumber, isDigit_of_isDigit_ten hd]

theorem beginsNumber_of_decimal {c : Char} {cs : List Char} {z : Int} (h : Decimal (c :: cs) z) :
    beginsNumber c = true := by
  cases h with
  | plain h => exact beginsNumber_of_denotes h
  | plus => rfl
  | minus => rfl

theorem IsNumber.beginsNumber {c : Char} {cs : List Char} {z : Int} (h : IsNumber (c :: cs) z) :
    beginsNumber c = true := by
  cases h with
  | decimal h => exact beginsNumber_of_decimal h
  | hexadecimal => rfl

/-! ### The parts of a token -/

/-- All names of registers begin with the same letter. -/
theorem Register.exists_name_eq (r : Register) : ∃ cs, r.name.toList = 'e' :: cs := by
  cases r <;> exact ⟨_, rfl⟩

theorem Register.not_isNumber_name (r : Register) (z : Int) : ¬ IsNumber r.name.toList z := by
  intro h
  obtain ⟨cs, hcs⟩ := r.exists_name_eq
  rw [hcs] at h
  exact absurd h.beginsNumber (by decide)

theorem Register.ofName?_eq_none {token : String} (h : ∀ r : Register, token ≠ r.name) :
    ofName? token = none := by
  rw [Option.eq_none_iff_forall_ne_some]
  exact fun r hr => h r (ofName?_eq_some_iff.mp hr)

theorem toList_brackets (inner : String) :
    ("[" ++ inner ++ "]").toList = '[' :: (inner.toList ++ [']']) := by
  rw [String.toList_append, String.toList_append]
  rfl

theorem not_isNumber_brackets (inner : String) (z : Int) :
    ¬ IsNumber ("[" ++ inner ++ "]").toList z := by
  intro h
  rw [toList_brackets] at h
  exact absurd h.beginsNumber (by decide)

theorem Register.name_ne_brackets (r : Register) (inner : String) :
    r.name ≠ "[" ++ inner ++ "]" := by
  intro h
  obtain ⟨cs, hcs⟩ := r.exists_name_eq
  have hlist := congrArg String.toList h
  rw [hcs, toList_brackets] at hlist
  exact absurd (List.cons.inj hlist).1 (by decide)

theorem bracketed?_eq_some_iff {cs inner : List Char} :
    bracketed? cs = some inner ↔ cs = '[' :: (inner ++ [']']) := by
  constructor
  · intro h
    rw [bracketed?.eq_def] at h
    split at h
    · next cs =>
        obtain ⟨hlast, h⟩ := Option.ite_none_right_eq_some.mp h
        obtain ⟨front, rfl⟩ := List.getLast?_eq_some_iff.mp hlast
        rw [List.dropLast_concat] at h
        rw [Option.some.inj h]
    · cases h
  · rintro rfl
    rw [bracketed?, List.getLast?_concat, if_pos rfl, List.dropLast_concat]

theorem number?_eq_some_iff {cs : List Char} {v : Int64} :
    number? cs = some v ↔ IsNumber cs v.toInt := by
  rw [number?.eq_def]
  split
  · next digits =>
      rw [Text.hexadecimal?_eq_some_iff]
      constructor
      · rintro ⟨n, hn, hv⟩
        exact hv ▸ .hexadecimal hn
      · generalize v.toInt = z
        intro h
        cases h with
        | decimal h =>
            -- the letter `x` is no decimal digit
            cases h with
            | plain h =>
                obtain ⟨d, hd⟩ := h.exists_isDigit 'x' (List.mem_cons_of_mem _ List.mem_cons_self)
                exact absurd (isDigit_of_isDigit_ten hd) (by decide)
        | hexadecimal h => exact ⟨_, h, rfl⟩
  · next hdecimal =>
      rw [Text.signed?_eq_some_iff]
      constructor
      · exact .decimal
      · generalize v.toInt = z
        intro h
        cases h with
        | decimal h => exact h
        | hexadecimal => exact absurd rfl (hdecimal _)

/-! ### Reading -/

theorem Address.read?_eq_some_iff {inner : String} {a : Address} :
    read? inner = some a ↔ a.Written inner := by
  rw [read?]
  split
  · next r hr =>
      obtain rfl := Register.ofName?_eq_some_iff.mp hr
      cases a with
      | register r' =>
          rw [Option.some.injEq, Address.register.injEq]
          exact ⟨fun h => h ▸ rfl, Register.name_inj⟩
      | absolute n =>
          refine ⟨nofun, fun h => ?_⟩
          exact absurd (.decimal h) (r.not_isNumber_name n.toInt)
  · next hr =>
      cases a with
      | register r =>
          refine ⟨fun h => ?_, ?_⟩
          · obtain ⟨n, -, hn⟩ := Option.map_eq_some_iff.mp h
            cases hn
          · rintro rfl
            rw [r.ofName?_name] at hr
            cases hr
      | absolute n =>
          rw [Option.map_eq_some_iff, Written, ← Text.signed?_eq_some_iff]
          constructor
          · rintro ⟨n', hn', h⟩
            obtain rfl := Address.absolute.inj h
            exact hn'
          · exact fun h => ⟨n, h, rfl⟩

namespace Operand

theorem read_name (r : Register) : read r.name = .register r := by
  rw [read, r.ofName?_name]

theorem read_brackets (inner : String) :
    read ("[" ++ inner ++ "]") =
      match Address.read? inner with
      | some a => .memory a
      | none   => .malformed (.invalidReference ("[" ++ inner ++ "]")) := by
  have hname : Register.ofName? ("[" ++ inner ++ "]") = none :=
    Register.ofName?_eq_none fun r h => r.name_ne_brackets inner h.symm
  have hbracketed := bracketed?_eq_some_iff.mpr (toList_brackets inner)
  cases haddress : Address.read? inner with
  | some a => simp only [read, hname, hbracketed, String.ofList_toList, haddress]
  | none => simp only [read, hname, hbracketed, String.ofList_toList, haddress]

theorem read_plain {token : String} (hname : ∀ r : Register, token ≠ r.name)
    (hbrackets : ∀ inner, token ≠ "[" ++ inner ++ "]") :
    read token =
      match number? token.toList with
      | some v => .immediate v
      | none   => .malformed (.unreadableValue token) := by
  have hname' := Register.ofName?_eq_none hname
  have hbracketed : bracketed? token.toList = none := by
    rw [Option.eq_none_iff_forall_ne_some]
    intro inner h
    refine hbrackets (String.ofList inner) (String.toList_inj.mp ?_)
    rw [bracketed?_eq_some_iff.mp h, toList_brackets, String.toList_ofList]
  cases hnumber : number? token.toList with
  | some v => simp only [read, hname', hbracketed, hnumber]
  | none => simp only [read, hname', hbracketed, hnumber]

/-- The shapes of a token. -/
theorem token_cases (token : String) :
    (∃ r : Register, token = r.name) ∨ (∃ inner, token = "[" ++ inner ++ "]") ∨
      (∀ r : Register, token ≠ r.name) ∧ ∀ inner, token ≠ "[" ++ inner ++ "]" := by
  by_cases hname : ∃ r : Register, token = r.name
  · exact .inl hname
  · by_cases hbrackets : ∃ inner, token = "[" ++ inner ++ "]"
    · exact .inr (.inl hbrackets)
    · exact .inr (.inr ⟨not_exists.mp hname, not_exists.mp hbrackets⟩)

variable {token : String}

/-- The fault of a token that cannot be read: it depends on the brackets, and carries the token. -/
inductive FaultOf (token : String) : Fault → Prop where
  | reference {inner : String} (h : token = "[" ++ inner ++ "]") :
      FaultOf token (.invalidReference token)
  | value (h : ∀ inner, token ≠ "[" ++ inner ++ "]") : FaultOf token (.unreadableValue token)

/-- How an operand is written in its token. -/
def WrittenIn (token : String) : Operand → Prop
  | register r  => token = r.name
  | memory a    => ∃ inner, token = "[" ++ inner ++ "]" ∧ a.Written inner
  | immediate v => IsNumber token.toList v.toInt
  | malformed f => FaultOf token f

/-- A token is read as something that is written in it. -/
theorem writtenIn_read (token : String) : WrittenIn token (read token) := by
  rcases token_cases token with ⟨r, rfl⟩ | ⟨inner, rfl⟩ | ⟨hname, hbrackets⟩
  · rw [read_name, WrittenIn]
  · rw [read_brackets]
    cases haddress : Address.read? inner with
    | some a => exact ⟨inner, rfl, Address.read?_eq_some_iff.mp haddress⟩
    | none => exact .reference rfl
  · rw [read_plain hname hbrackets]
    cases hnumber : number? token.toList with
    | some v => exact number?_eq_some_iff.mp hnumber
    | none => exact .value hbrackets

theorem read_eq_register_iff {r : Register} : read token = .register r ↔ token = r.name := by
  constructor
  · intro h
    have hwritten := writtenIn_read token
    rwa [h] at hwritten
  · rintro rfl
    exact read_name r

theorem read_eq_memory_iff {a : Address} :
    read token = .memory a ↔ ∃ inner, token = "[" ++ inner ++ "]" ∧ a.Written inner := by
  constructor
  · intro h
    have hwritten := writtenIn_read token
    rwa [h] at hwritten
  · rintro ⟨inner, rfl, ha⟩
    rw [read_brackets, Address.read?_eq_some_iff.mpr ha]

theorem read_eq_immediate_iff {v : Int64} :
    read token = .immediate v ↔ IsNumber token.toList v.toInt := by
  constructor
  · intro h
    have hwritten := writtenIn_read token
    rwa [h] at hwritten
  · intro h
    have hname : ∀ r : Register, token ≠ r.name := by
      rintro r rfl
      exact r.not_isNumber_name _ h
    have hbrackets : ∀ inner, token ≠ "[" ++ inner ++ "]" := by
      rintro inner rfl
      exact not_isNumber_brackets inner _ h
    rw [read_plain hname hbrackets, number?_eq_some_iff.mpr h]

/-- Nothing that can be read is written like that. -/
structure IsMalformed (token : String) : Prop where
  name : ∀ r : Register, token ≠ r.name
  memory : ∀ inner (a : Address), token = "[" ++ inner ++ "]" → ¬ a.Written inner
  number : ∀ v : Int64, ¬ IsNumber token.toList v.toInt

theorem isMalformed_iff : IsMalformed token ↔ ∃ f, read token = .malformed f := by
  constructor
  · rintro ⟨hname, hmemory, hnumber⟩
    cases hread : read token with
    | register r => exact absurd (read_eq_register_iff.mp hread) (hname r)
    | memory a =>
        obtain ⟨inner, htoken, ha⟩ := read_eq_memory_iff.mp hread
        exact absurd ha (hmemory inner a htoken)
    | immediate v => exact absurd (read_eq_immediate_iff.mp hread) (hnumber v)
    | malformed f => exact ⟨f, rfl⟩
  · rintro ⟨f, hread⟩
    refine ⟨fun r h => ?_, fun inner a htoken ha => ?_, fun v h => ?_⟩
    · rw [read_eq_register_iff.mpr h] at hread
      cases hread
    · rw [read_eq_memory_iff.mpr ⟨inner, htoken, ha⟩] at hread
      cases hread
    · rw [read_eq_immediate_iff.mpr h] at hread
      cases hread

theorem FaultOf.unique {f f' : Fault} (h : FaultOf token f) (h' : FaultOf token f') : f = f' := by
  cases h with
  | reference h =>
      cases h' with
      | reference => rfl
      | value h' => exact absurd h (h' _)
  | value h =>
      cases h' with
      | reference h' => exact absurd h' (h _)
      | value => rfl

theorem read_eq_malformed_iff {f : Fault} :
    read token = .malformed f ↔ IsMalformed token ∧ FaultOf token f := by
  have hfault : ∀ {f}, read token = .malformed f → FaultOf token f := by
    intro f h
    have hwritten := writtenIn_read token
    rwa [h] at hwritten
  constructor
  · exact fun h => ⟨isMalformed_iff.mpr ⟨f, h⟩, hfault h⟩
  · rintro ⟨hmalformed, hf⟩
    obtain ⟨f', hread⟩ := isMalformed_iff.mp hmalformed
    rw [hread, (hfault hread).unique hf]

end Operand

/-- **Tokens are read exactly.**  A token is a register if it is the name of that register; memory if
it is the address of it in brackets; a number if it is a numeral of that number; and else nothing
that can be read, which is put down to the reference if the token is bracketed, and to the value
otherwise, with the token as it stands. -/
theorem tokens_read_exactly (token : String) :
    (∀ r, Operand.read token = .register r ↔ token = r.name) ∧
    (∀ a, Operand.read token = .memory a ↔
      ∃ inner, token = "[" ++ inner ++ "]" ∧ a.Written inner) ∧
    (∀ v, Operand.read token = .immediate v ↔ IsNumber token.toList v.toInt) ∧
    (∀ f, Operand.read token = .malformed f ↔
      Operand.IsMalformed token ∧ Operand.FaultOf token f) :=
  ⟨fun _ => Operand.read_eq_register_iff, fun _ => Operand.read_eq_memory_iff,
    fun _ => Operand.read_eq_immediate_iff, fun _ => Operand.read_eq_malformed_iff⟩

/-- The least number has more digits than it needs; a sign does not go with hexadecimal digits, and
neither do they with brackets. -/
example :
    Operand.read "[-0009223372036854775808]" = .memory (.absolute Int64.minValue) ∧
      Operand.read "0x+1" = .malformed (.unreadableValue "0x+1") ∧
      Operand.read "[0x1]" = .malformed (.invalidReference "[0x1]") := by
  decide +kernel

end RegisterMachine
