/-!
# Text — Numerals

How numbers are read and written.  A numeral is one or more ASCII digits, with no spaces and no
grouping; a sign may stand in front where the reader admits one, and a value out of range is no
value.  Numbers are written in decimal, or in lower-case hexadecimal digits of a fixed width.
-/

namespace RegisterMachine.Text

/-- The value of a digit below `base`; letters of either case continue the decimal digits. -/
def digit? (base : Nat) (c : Char) : Option Nat :=
  let value :=
    if '0' ≤ c ∧ c ≤ '9' then c.toNat - '0'.toNat
    else if 'a' ≤ c ∧ c ≤ 'z' then c.toNat - 'a'.toNat + 10
    else if 'A' ≤ c ∧ c ≤ 'Z' then c.toNat - 'A'.toNat + 10
    else base
  if value < base then some value else none

/-- Reads digits after a number `acc` that is already read.  The value only grows, so a number
above `limit` is given up at once. -/
def readDigits (base limit : Nat) (acc : Nat) : List Char → Option Nat
  | []      => some acc
  | c :: cs =>
    match digit? base c with
    | none   => none
    | some d =>
      if acc * base + d ≤ limit then readDigits base limit (acc * base + d) cs else none

/-- The value of one or more digits, if it is at most `limit`. -/
def natural? (base limit : Nat) : List Char → Option Nat
  | []      => none
  | c :: cs => readDigits base limit 0 (c :: cs)

/-- The largest signed 64-bit number. -/
def int64Max : Nat := 0x7fffffffffffffff

/-- The largest unsigned 64-bit number. -/
def uint64Max : Nat := 0xffffffffffffffff

/-- A decimal numeral of at most `limit`, with an optional plus sign. -/
def unsigned? (limit : Nat) : List Char → Option Nat
  | '+' :: cs => natural? 10 limit cs
  | cs        => natural? 10 limit cs

/-- A decimal numeral of a signed 64-bit number, with an optional sign. -/
def signed? : List Char → Option Int64
  | '+' :: cs => (natural? 10 int64Max cs).map Int64.ofNat
  | '-' :: cs => (natural? 10 (int64Max + 1) cs).map fun n => -Int64.ofNat n
  | cs        => (natural? 10 int64Max cs).map Int64.ofNat

/-- Hexadecimal digits of a signed 64-bit number; the digits alone cannot say a negative one. -/
def hexadecimal? (cs : List Char) : Option Int64 :=
  (natural? 16 int64Max cs).map Int64.ofNat

/-- A signed number in decimal. -/
def decimal (v : Int64) : String :=
  toString v.toInt

/-- A number in the given base, filled up with zeros on the left to `width` digits. -/
def zeroFilled (base width n : Nat) : String :=
  String.ofList ((Nat.toDigits base n).leftpad width '0')

/-- The 64 bits of a signed number as sixteen hexadecimal digits. -/
def bits (v : Int64) : String :=
  zeroFilled 16 16 v.toUInt64.toNat

example : signed? "-9223372036854775808".toList = some Int64.minValue := by decide +kernel

example : signed? "9223372036854775808".toList = none ∧ signed? "+".toList = none := by
  decide +kernel

example : hexadecimal? "7FFFffffffffffff".toList = some Int64.maxValue := by decide +kernel

example : bits (-1) = "ffffffffffffffff" ∧ zeroFilled 10 4 16 = "0016" := by decide +kernel

end RegisterMachine.Text
