import Mathlib.Logic.Function.Iterate
import Mathlib.Tactic.IntervalCases
import RegisterMachine.Journal.Calendar

/-!
# Proofs — Journal — Calendar

The date of a day is the one that is reached by counting the days one by one, from month to month by
their lengths and from year to year with the leap years of the Gregorian calendar
(`Date.computed_as_counted`).

Between the two stands the place of a day in the row of eras, years from March, months and days
(`Date.Place`).  The next day is at the next place, and has the next date (`IsValid.number_next`,
`IsValid.date_next`); and the divisions by which a date is computed find the place of a day again
(`IsValid.ofNumber_number`).  That no step of the computation leaves the range of its numbers is
said by `Date.ofDays?`, where each of them is looked at.
-/

namespace RegisterMachine

namespace Date

/-! ### Counting day by day -/

/-- A leap year can be divided by 4, and by 100 only if also by 400. -/
def IsLeap (year : Nat) : Prop :=
  4 ∣ year ∧ (¬ 100 ∣ year ∨ 400 ∣ year)

instance : DecidablePred IsLeap :=
  fun _ => inferInstanceAs (Decidable (_ ∧ _))

/-- How many days a month has. -/
def monthLength (year month : Nat) : Nat :=
  match month with
  | 4 | 6 | 9 | 11 => 30
  | 2              => if IsLeap year then 29 else 28
  | _              => 31

/-- There is such a day. -/
structure IsValid (d : Date) : Prop where
  month_pos : 1 ≤ d.month
  month_le : d.month ≤ 12
  day_pos : 1 ≤ d.day
  day_le : d.day ≤ monthLength d.year d.month

/-- The next day. -/
def next (d : Date) : Date :=
  if d.day < monthLength d.year d.month then { d with day := d.day + 1 }
  else if d.month < 12 then ⟨d.year, d.month + 1, 1⟩
  else ⟨d.year + 1, 1, 1⟩

/-- The date `days` days after 1 January 1970. -/
def counted (days : Nat) : Date :=
  next^[days] ⟨1970, 1, 1⟩

theorem monthLength_pos (year month : Nat) : 0 < monthLength year month := by
  unfold monthLength
  split
  case h_5 => split <;> decide
  all_goals decide

theorem monthLength_le (year month : Nat) : monthLength year month ≤ 31 := by
  unfold monthLength
  split
  case h_5 => split <;> decide
  all_goals decide

/-! ### Years of an era -/

/-- The years of an era fall into centuries, and these into groups of four. -/
theorem exists_century {year : Nat} (h : year < 400) :
    ∃ c s t, c < 4 ∧ s < 25 ∧ t < 4 ∧ year = 100 * c + 4 * s + t :=
  ⟨year / 100, year % 100 / 4, year % 4, by omega, by omega, by omega, by omega⟩

/-- How many days of an era are before a year, counted from March. -/
def daysBefore (year : Nat) : Nat :=
  365 * year + year / 4 - year / 100

/-- How many days a year has that is counted from March, and so ends with the February of the next
one. -/
def marchYearLength (year : Nat) : Nat :=
  if IsLeap (year + 1) then 366 else 365

theorem marchYearLength_le (year : Nat) : marchYearLength year ≤ 366 := by
  rw [marchYearLength]
  split <;> decide

theorem le_marchYearLength (year : Nat) : 365 ≤ marchYearLength year := by
  rw [marchYearLength]
  split <;> decide

theorem daysBefore_succ {year : Nat} (h : year < 399) :
    daysBefore (year + 1) = daysBefore year + marchYearLength year := by
  unfold daysBefore marchYearLength
  split
  · next hleap =>
      unfold IsLeap at hleap
      omega
  · next hleap =>
      unfold IsLeap at hleap
      omega

section Century

variable {c s t k : Nat} (hc : c < 4) (hs : s < 25) (ht : t < 4)

include hs ht

theorem daysBefore_century :
    daysBefore (100 * c + 4 * s + t) = 36524 * c + (1461 * s + 365 * t) := by
  unfold daysBefore
  omega

include hc

theorem lt_marchYearLength_century :
    k < marchYearLength (100 * c + 4 * s + t) ↔ k < 365 ∨ k = 365 ∧ t = 3 ∧ (s < 24 ∨ c = 3) := by
  have hleap : IsLeap (100 * c + 4 * s + t + 1) ↔ t = 3 ∧ (s < 24 ∨ c = 3) := by
    unfold IsLeap
    omega
  simp only [marchYearLength, hleap]
  split <;> omega

theorem yearOfEra_century (hk : k < 365 ∨ k = 365 ∧ t = 3 ∧ (s < 24 ∨ c = 3)) :
    yearOfEra (36524 * c + (1461 * s + 365 * t + k)) = 100 * c + 4 * s + t := by
  -- the last day of the era counts as a century too many, and is taken off again
  obtain ⟨b, hb, hb'⟩ : ∃ b, (36524 * c + (1461 * s + 365 * t + k)) / 36524 = c + b ∧
      (36524 * c + (1461 * s + 365 * t + k)) / 146096 = b := by
    have hrest : 1461 * s + 365 * t + k < 36524 ∨ (1461 * s + 365 * t + k = 36524 ∧ c = 3) := by
      omega
    generalize 1461 * s + 365 * t + k = rest at hrest
    rcases hrest with hrest | ⟨rfl, rfl⟩
    · exact ⟨0, by omega, by omega⟩
    · exact ⟨1, rfl, rfl⟩
  -- late in a group of four years its leap day counts already, which leaves the year as it is
  obtain ⟨e, he, hek, hlt⟩ : ∃ e,
      (36524 * c + (1461 * s + 365 * t + k)) / 1460 = 25 * c + s + e ∧ e ≤ k ∧ k - e < 365 := by
    have hgroups : 36524 * c + (1461 * s + 365 * t + k) =
        1460 * (25 * c + s) + (24 * c + s + 365 * t + k) := by omega
    refine ⟨(24 * c + s + 365 * t + k) / 1460, ?_, by omega, by omega⟩
    rw [hgroups, Nat.mul_add_div (by decide)]
  have hsum : 36524 * c + (1461 * s + 365 * t + k) - (25 * c + s + e) + (c + b) - b =
      365 * (100 * c + 4 * s + t) + (k - e) := by omega
  rw [yearOfEra, hb, hb', he, hsum, Nat.mul_add_div (by decide), Nat.div_eq_of_lt hlt, Nat.add_zero]

end Century

section Year

variable {year day : Nat} (hyear : year < 400) (hday : day < marchYearLength year)

include hyear hday

/-- **The year is found again.** -/
theorem yearOfEra_daysBefore : yearOfEra (daysBefore year + day) = year := by
  obtain ⟨c, s, t, hc, hs, ht, rfl⟩ := exists_century hyear
  rw [daysBefore_century hs ht, Nat.add_assoc]
  exact yearOfEra_century hc hs ht ((lt_marchYearLength_century hc hs ht).mp hday)

theorem dayOfYear_daysBefore : dayOfYear (daysBefore year + day) = day := by
  rw [dayOfYear, yearOfEra_daysBefore hyear hday]
  exact Nat.add_sub_cancel_left ..

theorem daysBefore_add_lt : daysBefore year + day < eraDays := by
  obtain ⟨c, s, t, hc, hs, ht, rfl⟩ := exists_century hyear
  rw [lt_marchYearLength_century hc hs ht] at hday
  rw [daysBefore_century hs ht, eraDays]
  omega

end Year

/-! ### Places -/

/-- Where a day stands: in which era, in which year of it and month of that, both counted from
March, and on which day of the month.  All are counted from zero. -/
structure Place where
  era : Nat
  year : Nat
  month : Nat
  day : Nat
deriving DecidableEq, Repr

namespace Place

/-- The date of a place. -/
def date (p : Place) : Date :=
  let month := if p.month < 10 then p.month + 3 else p.month - 9
  ⟨p.year + p.era * 400 + (if month ≤ 2 then 1 else 0), month, p.day + 1⟩

/-- How many days of its year, counted from March, are before a place. -/
def dayOfYear (p : Place) : Nat :=
  (153 * p.month + 2) / 5 + p.day

/-- How many days of its era are before a place. -/
def dayOfEra (p : Place) : Nat :=
  daysBefore p.year + p.dayOfYear

/-- How many days are before a place, from 1 March of the year 0. -/
def number (p : Place) : Nat :=
  eraDays * p.era + p.dayOfEra

/-- There is a day at the place. -/
structure IsValid (p : Place) : Prop where
  year_lt : p.year < 400
  month_lt : p.month < 12
  day_lt : p.day < monthLength p.date.year p.date.month

/-- The place of the next day. -/
def next (p : Place) : Place :=
  if p.day + 1 < monthLength p.date.year p.date.month then { p with day := p.day + 1 }
  else if p.month < 11 then ⟨p.era, p.year, p.month + 1, 0⟩
  else if p.year < 399 then ⟨p.era, p.year + 1, 0, 0⟩
  else ⟨p.era + 1, 0, 0, 0⟩

/-- The place of the day before which there are so many. -/
def ofNumber (n : Nat) : Place :=
  let dayOfEra := n % eraDays
  let month := (5 * Date.dayOfYear dayOfEra + 2) / 153
  ⟨n / eraDays, yearOfEra dayOfEra, month, Date.dayOfYear dayOfEra - (153 * month + 2) / 5⟩

/-- From March to January, the months go on as a line does. -/
theorem add_monthLength_of_lt {p : Place} (h : p.month < 11) :
    (153 * p.month + 2) / 5 + monthLength p.date.year p.date.month =
      (153 * (p.month + 1) + 2) / 5 := by
  obtain ⟨era, year, month, day⟩ := p
  dsimp only at h
  interval_cases month <;> simp [date, monthLength]

theorem date_of_february {p : Place} (h : p.month = 11) :
    p.date = ⟨p.year + p.era * 400 + 1, 2, p.day + 1⟩ := by
  rw [date, h]
  rfl

/-- The year ends with February. -/
theorem add_monthLength_of_eq {p : Place} (h : p.month = 11) :
    (153 * p.month + 2) / 5 + monthLength p.date.year p.date.month = marchYearLength p.year := by
  have hleap : IsLeap (p.year + p.era * 400 + 1) ↔ IsLeap (p.year + 1) := by
    unfold IsLeap
    omega
  rw [date_of_february h, h]
  show 337 + (if IsLeap (p.year + p.era * 400 + 1) then 29 else 28) = marchYearLength p.year
  simp only [hleap, marchYearLength]
  split <;> rfl

variable {p : Place}

theorem IsValid.dayOfYear_lt (h : p.IsValid) : p.dayOfYear < marchYearLength p.year := by
  obtain ⟨-, hmonth, hday⟩ := h
  have hlength := le_marchYearLength p.year
  rw [dayOfYear]
  rcases Nat.lt_or_eq_of_le (Nat.le_of_lt_succ hmonth) with hlt | heq
  · have := add_monthLength_of_lt hlt
    omega
  · have := add_monthLength_of_eq heq
    omega

theorem IsValid.month_eq (h : p.IsValid) : (5 * p.dayOfYear + 2) / 153 = p.month := by
  have hyear := Nat.lt_of_lt_of_le h.dayOfYear_lt (marchYearLength_le p.year)
  obtain ⟨-, hmonth, hday⟩ := h
  rw [dayOfYear] at hyear ⊢
  rcases Nat.lt_or_eq_of_le (Nat.le_of_lt_succ hmonth) with hlt | heq
  · have := add_monthLength_of_lt hlt
    omega
  · omega

theorem IsValid.dayOfEra_lt (h : p.IsValid) : p.dayOfEra < eraDays :=
  daysBefore_add_lt h.year_lt h.dayOfYear_lt

theorem IsValid.number_div (h : p.IsValid) : p.number / eraDays = p.era := by
  rw [number, Nat.mul_add_div (by decide), Nat.div_eq_of_lt h.dayOfEra_lt, Nat.add_zero]

theorem IsValid.number_mod (h : p.IsValid) : p.number % eraDays = p.dayOfEra := by
  rw [number, Nat.mul_add_mod, Nat.mod_eq_of_lt h.dayOfEra_lt]

theorem IsValid.yearOfEra_eq (h : p.IsValid) : yearOfEra p.dayOfEra = p.year :=
  yearOfEra_daysBefore h.year_lt h.dayOfYear_lt

/-- **A day is found at its place again.** -/
theorem IsValid.ofNumber_number (h : p.IsValid) : ofNumber p.number = p := by
  have hdayOfYear : Date.dayOfYear p.dayOfEra = p.dayOfYear :=
    dayOfYear_daysBefore h.year_lt h.dayOfYear_lt
  rw [ofNumber, h.number_div, h.number_mod, h.yearOfEra_eq, hdayOfYear, h.month_eq, dayOfYear,
    Nat.add_sub_cancel_left]

/-! ### The next place -/

/-- The cases of the next place: another day of the month, the first of the next month, the first
of March, and the first of March of the next era. -/
theorem IsValid.next_cases (h : p.IsValid) :
    (p.day + 1 < monthLength p.date.year p.date.month ∧ p.next = { p with day := p.day + 1 }) ∨
    p.day + 1 = monthLength p.date.year p.date.month ∧
      ((p.month < 11 ∧ p.next = ⟨p.era, p.year, p.month + 1, 0⟩) ∨
        p.month = 11 ∧
          ((p.year < 399 ∧ p.next = ⟨p.era, p.year + 1, 0, 0⟩) ∨
            (p.year = 399 ∧ p.next = ⟨p.era + 1, 0, 0, 0⟩))) := by
  obtain ⟨hyear, hmonth, hday⟩ := h
  rw [next]
  split
  · next hlt => exact .inl ⟨hlt, rfl⟩
  · next hlast =>
      refine .inr ⟨by omega, ?_⟩
      split
      · next hlt => exact .inl ⟨hlt, rfl⟩
      · next hlt =>
          refine .inr ⟨by omega, ?_⟩
          split
          · next hlt => exact .inl ⟨hlt, rfl⟩
          · exact .inr ⟨by omega, rfl⟩

theorem IsValid.next (h : p.IsValid) : p.next.IsValid := by
  rcases h.next_cases with ⟨hday, heq⟩ | ⟨-, ⟨hmonth, heq⟩ | ⟨-, ⟨hyear, heq⟩ | ⟨-, heq⟩⟩⟩
  · rw [heq]
    exact ⟨h.year_lt, h.month_lt, hday⟩
  · rw [heq]
    exact ⟨h.year_lt, Nat.succ_lt_succ hmonth, monthLength_pos ..⟩
  · rw [heq]
    exact ⟨Nat.succ_lt_succ hyear, Nat.zero_lt_succ _, monthLength_pos ..⟩
  · rw [heq]
    exact ⟨Nat.zero_lt_succ _, Nat.zero_lt_succ _, monthLength_pos ..⟩

/-- **The next place is one day later.** -/
theorem IsValid.number_next (h : p.IsValid) : p.next.number = p.number + 1 := by
  rcases h.next_cases with
    ⟨-, heq⟩ | ⟨hday, ⟨hmonth, heq⟩ | ⟨hmonth, ⟨hyear, heq⟩ | ⟨hyear, heq⟩⟩⟩
  · rw [heq]
    rfl
  · have hend := add_monthLength_of_lt hmonth
    simp only [heq, number, dayOfEra, dayOfYear]
    omega
  · have hend := add_monthLength_of_eq hmonth
    have hbefore := daysBefore_succ hyear
    simp only [heq, number, dayOfEra, dayOfYear]
    omega
  · have hend := add_monthLength_of_eq hmonth
    rw [hyear] at hend
    have hbefore : daysBefore 399 + marchYearLength 399 = 146097 := by decide
    have hfirst : daysBefore 0 = 0 := rfl
    simp only [heq, number, dayOfEra, dayOfYear, hyear, hfirst, eraDays]
    omega

/-- **The next place has the next date.** -/
theorem IsValid.date_next (h : p.IsValid) : p.next.date = p.date.next := by
  rcases h.next_cases with ⟨hday, heq⟩ | ⟨hday, hrest⟩
  · rw [heq, Date.next]
    exact (if_pos hday).symm
  · have hlast : ¬ p.date.day < monthLength p.date.year p.date.month :=
      Nat.not_lt_of_ge (Nat.le_of_eq hday.symm)
    rw [Date.next, if_neg hlast]
    rcases hrest with ⟨hmonth, heq⟩ | ⟨hmonth, ⟨-, heq⟩ | ⟨hyear, heq⟩⟩
    · rw [heq]
      simp only [date]
      split_ifs <;> simp only [Date.mk.injEq, true_and, and_true] <;> omega
    · rw [heq, date_of_february hmonth]
      refine congrArg (Date.mk · 3 1) ?_
      show p.year + 1 + p.era * 400 = p.year + p.era * 400 + 1
      omega
    · rw [heq, date_of_february hmonth, hyear]
      refine congrArg (Date.mk · 3 1) ?_
      show 0 + (p.era + 1) * 400 = 399 + p.era * 400 + 1
      omega

/-- A place has a date that there is. -/
theorem IsValid.date (h : p.IsValid) : p.date.IsValid := by
  obtain ⟨-, hmonth, hday⟩ := h
  refine ⟨?_, ?_, Nat.le_add_left .., hday⟩
  · show 1 ≤ if p.month < 10 then p.month + 3 else p.month - 9
    split <;> omega
  · show (if p.month < 10 then p.month + 3 else p.month - 9) ≤ 12
    split <;> omega

/-- **Every day has its place.**  It has the date that is counted. -/
theorem ofNumber_counted (days : Nat) :
    (ofNumber (days + epoch)).IsValid ∧ (ofNumber (days + epoch)).number = days + epoch ∧
      (ofNumber (days + epoch)).date = counted days := by
  induction days with
  | zero =>
      have hfirst : ofNumber (0 + epoch) = ⟨4, 369, 10, 0⟩ := by decide +kernel
      rw [hfirst]
      exact ⟨⟨by decide, by decide, by decide⟩, rfl, rfl⟩
  | succ days ih =>
      obtain ⟨hexists, hnumber, hdate⟩ := ih
      have hnext : (ofNumber (days + epoch)).next.number = days + 1 + epoch := by
        rw [hexists.number_next, hnumber]
        omega
      have hplace : ofNumber (days + 1 + epoch) = (ofNumber (days + epoch)).next := by
        rw [← hnext, hexists.next.ofNumber_number]
      rw [hplace, hnext, hexists.date_next, hdate, counted, counted,
        Function.iterate_succ_apply']
      exact ⟨hexists.next, rfl, rfl⟩

end Place

/-! ### The computation -/

/-- A result, if it is an unsigned 32-bit number. -/
def word? (n : Int) : Option Nat :=
  if 0 ≤ n ∧ n ≤ 0xffffffff then some n.toNat else none

/-- A result, if it is a signed 64-bit number. -/
def long? (n : Int) : Option Int :=
  if -0x8000000000000000 ≤ n ∧ n ≤ 0x7fffffffffffffff then some n else none

/-- The year within an era of a day of the era, every result of the way looked at. -/
def yearOfEra? (dayOfEra : Nat) : Option Nat := do
  let n ← word? (dayOfEra - dayOfEra / 1460)
  let n ← word? (n + dayOfEra / 36524)
  let n ← word? (n - dayOfEra / 146096)
  return n / 365

/-- The day within a year of a day of the era, every result of the way looked at. -/
def dayOfYear? (dayOfEra year : Nat) : Option Nat := do
  let n ← word? (365 * year)
  let n ← word? (n + year / 4)
  let n ← word? (n - year / 100)
  word? (dayOfEra - n)

/-- The day of a month, every result of the way looked at. -/
def dayOfMonth? (dayOfYear month : Nat) : Option Nat := do
  let n ← word? (153 * month)
  let n ← word? (n + 2)
  let n ← word? (dayOfYear - n / 5)
  word? (n + 1)

/-- The date that lies `days` days after 1 January 1970, every result of the way looked at.  There
is none if a difference is below zero, or if a number does not fit where it is kept. -/
def ofDays? (days : Nat) : Option Date := do
  let days ← long? days
  let z ← long? (days + epoch)
  let dayOfEra ← word? (z % eraDays)
  let yearOfEra ← yearOfEra? dayOfEra
  let dayOfYear ← dayOfYear? dayOfEra yearOfEra
  let n ← word? (5 * dayOfYear)
  let n ← word? (n + 2)
  let marchMonth := n / 153
  let day ← dayOfMonth? dayOfYear marchMonth
  let month ← word? (if marchMonth < 10 then (marchMonth : Int) + 3 else marchMonth - 9)
  let eraYears ← long? (z / eraDays * 400)
  let year ← long? (yearOfEra + eraYears)
  let year ← long? (year + if month ≤ 2 then 1 else 0)
  let year ← word? year
  return ⟨year, month, day⟩

section Fits

variable {α β : Type} {n : Int} {k : Nat}

theorem bind_of_eq_some {x : Option β} {b : β} (h : x = some b) (f : β → Option α) :
    (x >>= f) = f b := by
  rw [h]
  rfl

theorem word?_of_le (h : n = k) (hk : k ≤ 0xffffffff) : word? n = some k := by
  rw [word?, if_pos (by omega), h, Int.toNat_natCast]

theorem word?_bind (f : Nat → Option α) (h : n = k) (hk : k ≤ 0xffffffff) :
    (word? n >>= f) = f k :=
  bind_of_eq_some (word?_of_le h hk) f

theorem long?_bind (f : Int → Option α) (h : n = k) (hk : k ≤ 0x7fffffffffffffff) :
    (long? n >>= f) = f k := by
  rw [long?, if_pos (by omega), h]
  rfl

end Fits

theorem yearOfEra?_eq {dayOfEra : Nat} (h : dayOfEra < eraDays) :
    yearOfEra? dayOfEra = some (yearOfEra dayOfEra) := by
  rw [eraDays] at h
  rw [yearOfEra?,
    word?_bind _ (k := dayOfEra - dayOfEra / 1460) (by omega) (by omega),
    word?_bind _ (k := dayOfEra - dayOfEra / 1460 + dayOfEra / 36524) (by omega) (by omega),
    word?_bind _ (k := dayOfEra - dayOfEra / 1460 + dayOfEra / 36524 - dayOfEra / 146096)
      (by omega) (by omega)]
  rfl

theorem dayOfYear?_eq {year day : Nat} (hyear : year < 400) (hday : day ≤ 366) :
    dayOfYear? (daysBefore year + day) year = some day := by
  rw [dayOfYear?, daysBefore,
    word?_bind _ (k := 365 * year) (by omega) (by omega),
    word?_bind _ (k := 365 * year + year / 4) (by omega) (by omega),
    word?_bind _ (k := 365 * year + year / 4 - year / 100) (by omega) (by omega),
    word?_of_le (k := day) (by omega) (by omega)]

theorem dayOfMonth?_eq {month day : Nat} (hmonth : month < 12) (hday : day < 31) :
    dayOfMonth? ((153 * month + 2) / 5 + day) month = some (day + 1) := by
  rw [dayOfMonth?,
    word?_bind _ (k := 153 * month) (by omega) (by omega),
    word?_bind _ (k := 153 * month + 2) (by omega) (by omega),
    word?_bind _ (k := day) (by omega) (by omega),
    word?_of_le (k := day + 1) (by omega) (by omega)]

namespace Place

variable {p : Place} {days : Nat}

/-- Days up to a year that fits in 32 bits can be counted in 63. -/
theorem IsValid.number_le (h : p.IsValid) (hyear : p.date.year ≤ 0xffffffff) :
    p.number ≤ 0x7fffffffffffffff := by
  have hera : p.year + p.era * 400 ≤ p.date.year := Nat.le_add_right ..
  have hday := h.dayOfEra_lt
  rw [number]
  rw [eraDays] at hday ⊢
  omega

theorem natCast_number_mod (h : p.IsValid) : (p.number : Int) % (eraDays : Int) = p.dayOfEra := by
  rw [← h.number_mod, Int.natCast_emod]

theorem natCast_number_div (h : p.IsValid) : (p.number : Int) / (eraDays : Int) = p.era := by
  rw [← h.number_div, Int.natCast_ediv]

theorem natCast_year (p : Place) :
    ((p.year + p.era * 400 : Nat) : Int) + (if p.date.month ≤ 2 then 1 else 0) = p.date.year := by
  show _ = ((p.year + p.era * 400 + (if p.date.month ≤ 2 then 1 else 0) : Nat) : Int)
  split <;> rfl

/-- **No result is out of range.** -/
theorem IsValid.ofDays?_eq (h : p.IsValid) (hdays : days + epoch = p.number)
    (hyear : p.date.year ≤ 0xffffffff) : ofDays? days = some p.date := by
  have hnumber := h.number_le hyear
  have hdayOfEra := h.dayOfEra_lt
  have hdayOfYear := Nat.lt_of_lt_of_le h.dayOfYear_lt (marchYearLength_le p.year)
  have hmonth := h.month_lt
  have hday := Nat.lt_of_lt_of_le h.day_lt (monthLength_le ..)
  have heraYears : p.year + p.era * 400 ≤ p.date.year := Nat.le_add_right ..
  have hsum : (days : Int) + epoch = p.number := by
    rw [← hdays, Int.natCast_add]
  have hyearOfEra : yearOfEra? p.dayOfEra = some p.year := by
    rw [yearOfEra?_eq hdayOfEra, h.yearOfEra_eq]
  have hdayOfYear? : dayOfYear? p.dayOfEra p.year = some p.dayOfYear :=
    dayOfYear?_eq h.year_lt (Nat.le_of_lt hdayOfYear)
  have hdayOfMonth? : dayOfMonth? p.dayOfYear p.month = some (p.day + 1) :=
    dayOfMonth?_eq hmonth hday
  have hcalendarMonth :
      (if p.month < 10 then (p.month : Int) + 3 else p.month - 9) = p.date.month := by
    show _ = ((if p.month < 10 then p.month + 3 else p.month - 9 : Nat) : Int)
    split <;> omega
  rw [eraDays] at hdayOfEra
  rw [ofDays?, long?_bind _ (k := days) rfl (by omega), long?_bind _ hsum hnumber,
    word?_bind _ (natCast_number_mod h) (by omega), bind_of_eq_some hyearOfEra,
    bind_of_eq_some hdayOfYear?, word?_bind _ (k := 5 * p.dayOfYear) (by omega) (by omega),
    word?_bind _ (k := 5 * p.dayOfYear + 2) (by omega) (by omega), h.month_eq,
    bind_of_eq_some hdayOfMonth?, word?_bind _ hcalendarMonth (by omega), natCast_number_div h,
    long?_bind _ (k := p.era * 400) (by omega) (by omega),
    long?_bind _ (k := p.year + p.era * 400) (by omega) (by omega),
    long?_bind _ (natCast_year p) (by omega), word?_bind _ rfl hyear]
  rfl

/-- The date of a day is that of its place. -/
theorem IsValid.ofDays_eq (h : p.IsValid) (hdays : days + epoch = p.number)
    (hyear : p.date.year ≤ 0xffffffff) : ofDays days = p.date := by
  have hnumber := h.number_le hyear
  have hsum : (Int64.ofNat days + Int64.ofNat epoch).toInt = p.number := by
    rw [← Int64.ofNat_add, hdays]
    exact Int64.toInt_ofNat_of_lt (Nat.lt_succ_of_le hnumber)
  have hdayOfYear : Date.dayOfYear p.dayOfEra = p.dayOfYear :=
    dayOfYear_daysBefore h.year_lt h.dayOfYear_lt
  rw [ofDays, hsum, natCast_number_mod h, natCast_number_div h, Int.toNat_natCast, h.yearOfEra_eq,
    hdayOfYear, h.month_eq, dayOfYear, Nat.add_sub_cancel_left]
  have hword : (((p.year : Int) + p.era * 400 + if p.date.month ≤ 2 then 1 else 0) %
      0x100000000).toNat = p.date.year := by
    have hfull := natCast_year p
    push_cast at hfull
    rw [hfull, Int.emod_eq_of_lt (Int.natCast_nonneg _) (by omega), Int.toNat_natCast]
  exact congrArg (Date.mk · p.date.month (p.day + 1)) hword

end Place

/-- **Dates are computed as they are counted.**  Count `days` days from 1 January 1970, one by one,
by the lengths of the months and with the leap years of the Gregorian calendar, to a year of at most
32 bits.  Then the date that is computed is the one that was counted to, there is such a day, and on
the way no difference is below zero and no result is too large for where it is kept. -/
theorem computed_as_counted (days : Nat) (h : (counted days).year ≤ 0xffffffff) :
    ofDays days = counted days ∧ (ofDays days).IsValid ∧ ofDays? days = some (ofDays days) := by
  obtain ⟨hexists, hnumber, hdate⟩ := Place.ofNumber_counted days
  rw [← hdate] at h ⊢
  rw [hexists.ofDays_eq hnumber.symm h, hexists.ofDays?_eq hnumber.symm h]
  exact ⟨rfl, hexists.date, rfl⟩

/-- The last day of the last year of 32 bits. -/
theorem computed_as_counted_last_day :
    (counted 1568703873081).year ≤ 0xffffffff ∧
    counted 1568703873081 = ⟨4294967295, 12, 31⟩ ∧
    ofDays? 1568703873081 = some ⟨4294967295, 12, 31⟩ := by
  have hdate := (Place.ofNumber_counted 1568703873081).2.2
  have hyear : (counted 1568703873081).year ≤ 0xffffffff := by
    rw [← hdate]
    decide +kernel
  obtain ⟨heq, -, hchecked⟩ := computed_as_counted 1568703873081 hyear
  have hlast : ofDays 1568703873081 = ⟨4294967295, 12, 31⟩ := by decide +kernel
  exact ⟨hyear, heq.symm.trans hlast, hlast ▸ hchecked⟩

/-- The day after that is in a year that no longer fits. -/
example : ofDays? 1568703873082 = none ∧ ofDays 1568703873082 = ⟨0, 1, 1⟩ := by decide +kernel

end Date

end RegisterMachine
