import RegisterMachine.Text.Numeral

/-!
# Journal — Calendar

The date that lies a number of days after 1 January 1970, in the Gregorian calendar without end,
and the text of a time stamp.

The calendar repeats every 400 years, an era of 146097 days.  Within an era the years are counted
from March, so that a leap day is the last day of its year; days in the months then fit the line
`(153 * m + 2) / 5`.
-/

namespace RegisterMachine

/-- A date. -/
structure Date where
  year : Nat
  month : Nat
  day : Nat
deriving DecidableEq, Repr

namespace Date

/-- The days of 400 years. -/
def eraDays : Nat := 146097

/-- The days from 1 March of the year 0 to 1 January 1970. -/
def epoch : Nat := 719468

/-- The year within an era, counted from March, of a day of the era. -/
def yearOfEra (dayOfEra : Nat) : Nat :=
  (dayOfEra - dayOfEra / 1460 + dayOfEra / 36524 - dayOfEra / 146096) / 365

/-- The day within a year, counted from March, of a day of the era. -/
def dayOfYear (dayOfEra : Nat) : Nat :=
  let year := yearOfEra dayOfEra
  dayOfEra - (365 * year + year / 4 - year / 100)

/-- The date that lies `days` days after 1 January 1970.  Day counts are signed 64-bit numbers that
wrap around, and a year keeps its last 32 bits. -/
def ofDays (days : Nat) : Date :=
  let z := (Int64.ofNat days + Int64.ofNat epoch).toInt
  let era := z / (eraDays : Int)
  let dayOfEra := (z % (eraDays : Int)).toNat
  let marchMonth := (5 * dayOfYear dayOfEra + 2) / 153
  let day := dayOfYear dayOfEra - (153 * marchMonth + 2) / 5 + 1
  let month := if marchMonth < 10 then marchMonth + 3 else marchMonth - 9
  let year := yearOfEra dayOfEra + era * 400 + (if month ≤ 2 then 1 else 0)
  ⟨(year % 0x100000000).toNat, month, day⟩

example : ofDays 19782 = ⟨2024, 2, 29⟩ := by decide +kernel

end Date

/-- A date and a time of day. -/
structure Stamp where
  date : Date
  hours : Nat
  minutes : Nat
  seconds : Nat
  milliseconds : Nat
deriving DecidableEq, Repr

namespace Stamp

/-- The stamp of an instant, given in milliseconds since the start of 1970. -/
def ofMilliseconds (instant : Nat) : Stamp :=
  let seconds := instant / 1000
  { date := .ofDays (seconds / 86400)
    hours := seconds / 3600 % 24
    minutes := seconds / 60 % 60
    seconds := seconds % 60
    milliseconds := instant % 1000 }

/-- The text of a stamp: every field is filled up with zeros, and none is cut. -/
def text (s : Stamp) : String :=
  let field := Text.zeroFilled 10
  field 4 s.date.year ++ "-" ++ field 2 s.date.month ++ "-" ++ field 2 s.date.day ++ " "
    ++ field 2 s.hours ++ ":" ++ field 2 s.minutes ++ ":" ++ field 2 s.seconds ++ "."
    ++ field 3 s.milliseconds

end Stamp

end RegisterMachine
