import BoardSearch.Calendar.Moment
import Mathlib.Data.List.Lex
import Mathlib.Tactic.SplitIfs
import Mathlib.Tactic.Tauto

/-!
# The order of moments on a clock

Moments are compared by the microseconds that their clocks count, which is the order of
what the clocks show: the earlier of two moments is on an earlier date or, on the same
date, at an earlier time of day, and so on part by part. In particular, the moments of a
day are those from its first to its last microsecond.

## Main definitions

* `Date.parts`, `TimeOfDay.parts`, `Moment.parts`: what a clock shows, the most
  significant part first.

## Main statements

* `Date.daysBeforeYear_succ`: a year begins as many days later than the one before as that
  one is long;
* `Date.dayNumber_lt_iff`: dates are numbered in the order of the calendar;
* `Moment.wallMicroseconds_lt_iff`, `Moment.wallMicroseconds_inj`: microseconds are counted
  in the order of what the clock shows;
* `Moment.between_dayBegins_dayEnds`: the moments of a calendar day.
-/

namespace BoardSearch

namespace Date

/-! ## Years and months -/

theorem daysBeforeYear_succ {year : Nat} (h : 1 ≤ year) :
    daysBeforeYear (year + 1) = daysBeforeYear year + daysInYear year := by
  obtain ⟨past, rfl⟩ := Nat.exists_eq_add_of_le' h
  have hcenturies : past / 100 ≤ past / 4 := Nat.div_le_div_left (by decide) (by decide)
  simp only [daysBeforeYear, daysInYear, isLeapYear, Nat.add_sub_cancel, Nat.succ_div,
    Nat.dvd_iff_mod_eq_zero, Bool.and_eq_true, Bool.or_eq_true, beq_iff_eq, bne_iff_ne]
  -- of the quotients it only matters by how much they grow
  generalize past / 4 = quarters at *
  generalize past / 100 = centuries at *
  generalize past / 400 = cycles at *
  split_ifs <;> omega

/-- A later year begins after all days of an earlier one. -/
theorem daysBeforeYear_add_le {year later : Nat} (h : 1 ≤ year) (hlater : year < later) :
    daysBeforeYear year + daysInYear year ≤ daysBeforeYear later := by
  induction later, hlater using Nat.le_induction with
  | base => exact (daysBeforeYear_succ h).ge
  | succ later hyear ih =>
    rw [daysBeforeYear_succ (by omega : 1 ≤ later)]
    omega

theorem daysBeforeMonth_succ {year month : Nat} (h : 1 ≤ month) :
    daysBeforeMonth year (month + 1) = daysBeforeMonth year month + daysInMonth year month := by
  obtain ⟨month, rfl⟩ := Nat.exists_eq_add_of_le' h
  rfl

/-- A later month of a year begins after all days of an earlier one. -/
theorem daysBeforeMonth_add_le (year : Nat) {month later : Nat} (h : 1 ≤ month)
    (hlater : month < later) :
    daysBeforeMonth year month + daysInMonth year month ≤ daysBeforeMonth year later := by
  induction later, hlater using Nat.le_induction with
  | base => exact (daysBeforeMonth_succ h).ge
  | succ later hmonth ih =>
    rw [daysBeforeMonth_succ (by omega : 1 ≤ later)]
    omega

/-- The twelve months make up the year. -/
theorem daysBeforeMonth_thirteen (year : Nat) : daysBeforeMonth year 13 = daysInYear year := by
  simp only [daysBeforeMonth, daysInMonth, daysInYear]
  split <;> rfl

/-! ## Dates -/

/-- A date is within its year. -/
theorem daysBeforeMonth_add_day_le (date : Date) :
    daysBeforeMonth date.year date.month + date.day ≤ daysInYear date.year := by
  obtain ⟨year, month, day, _, _, hmonth, htwelve, _, hday⟩ := date
  have hmonths := daysBeforeMonth_add_le year hmonth (by omega : month < 13)
  rw [daysBeforeMonth_thirteen] at hmonths
  show daysBeforeMonth year month + day ≤ daysInYear year
  omega

/-- Year, month and day. -/
def parts (date : Date) : List Nat := [date.year, date.month, date.day]

theorem parts_injective {date other : Date} (h : date.parts = other.parts) : date = other := by
  obtain ⟨year, month, day, _⟩ := date
  obtain ⟨year', month', day', _⟩ := other
  obtain ⟨rfl, rfl, rfl, -⟩ := h
  rfl

theorem parts_lt_iff {date other : Date} :
    date.parts < other.parts ↔ date.year < other.year ∨ date.year = other.year ∧
      (date.month < other.month ∨ date.month = other.month ∧ date.day < other.day) := by
  simp [parts, List.cons_lt_cons_iff]

/-- A date that the calendar has earlier has a smaller number. -/
theorem dayNumber_lt_of_parts_lt {date other : Date} (h : date.parts < other.parts) :
    date.dayNumber < other.dayNumber := by
  have hwithin := daysBeforeMonth_add_day_le date
  obtain ⟨hyear, _, hmonth, _, _, hday⟩ := date.isDate
  obtain ⟨_, _, _, _, hday', _⟩ := other.isDate
  unfold dayNumber
  -- the first part that differs decides, for the others stay within a year or a month
  obtain hlt | ⟨heq, hlt | ⟨heq', hlt⟩⟩ := parts_lt_iff.mp h
  · have hyears := daysBeforeYear_add_le hyear hlt
    omega
  · have hmonths := daysBeforeMonth_add_le date.year hmonth hlt
    rw [← heq]
    omega
  · rw [← heq, ← heq']
    omega

/-- Dates are numbered in the order of the calendar. -/
theorem dayNumber_lt_iff {date other : Date} :
    date.dayNumber < other.dayNumber ↔ date.parts < other.parts := by
  refine ⟨fun h => ?_, dayNumber_lt_of_parts_lt⟩
  obtain hlt | heq | hgt := lt_trichotomy date.parts other.parts
  · exact hlt
  · rw [parts_injective heq] at h
    omega
  · have hnumber := dayNumber_lt_of_parts_lt hgt
    omega

theorem dayNumber_inj {date other : Date} : date.dayNumber = other.dayNumber ↔ date = other := by
  constructor
  · intro h
    refine parts_injective (le_antisymm (not_lt.mp ?_) (not_lt.mp ?_))
    · rw [← dayNumber_lt_iff]
      omega
    · rw [← dayNumber_lt_iff]
      omega
  · rintro rfl
    rfl

end Date

/-! ## Times of day -/

namespace TimeOfDay

/-- Hours, minutes, seconds and microseconds. -/
def parts (time : TimeOfDay) : List Nat :=
  [time.hour, time.minute, time.second, time.microsecond]

theorem parts_injective {time other : TimeOfDay} (h : time.parts = other.parts) :
    time = other := by
  obtain ⟨hour, minute, second, microsecond, _⟩ := time
  obtain ⟨hour', minute', second', microsecond', _⟩ := other
  obtain ⟨rfl, rfl, rfl, rfl, -⟩ := h
  rfl

theorem microseconds_lt (time : TimeOfDay) : time.microseconds < 86400000000 := by
  obtain ⟨hour, minute, second, microsecond, hhour, hminute, hsecond, hmicrosecond⟩ := time
  simp only [microseconds, minutes]
  omega

/-- Microseconds are counted in the order of the times of day. -/
theorem microseconds_lt_iff {time other : TimeOfDay} :
    time.microseconds < other.microseconds ↔ time.parts < other.parts := by
  obtain ⟨hour, minute, second, microsecond, hhour, hminute, hsecond, hmicrosecond⟩ := time
  obtain ⟨hour', minute', second', microsecond', hhour', hminute', hsecond', hmicrosecond'⟩ := other
  simp only [microseconds, minutes, parts, List.cons_lt_cons_iff, List.not_lt_nil, and_false,
    or_false]
  omega

theorem microseconds_inj {time other : TimeOfDay} :
    time.microseconds = other.microseconds ↔ time = other := by
  constructor
  · intro h
    refine parts_injective (le_antisymm (not_lt.mp ?_) (not_lt.mp ?_))
    · rw [← microseconds_lt_iff]
      omega
    · rw [← microseconds_lt_iff]
      omega
  · rintro rfl
    rfl

theorem microseconds_first : first.microseconds = 0 := by decide

theorem microseconds_last : last.microseconds = 86399999999 := by decide

end TimeOfDay

/-! ## Moments -/

namespace Moment

/-- What the clock shows. -/
def parts (moment : Moment) : List Nat := moment.date.parts ++ moment.time.parts

theorem parts_lt_iff {moment other : Moment} :
    moment.parts < other.parts ↔ moment.date.parts < other.date.parts ∨
      moment.date = other.date ∧ moment.time.parts < other.time.parts := by
  have hdate : moment.date = other.date ↔ moment.date.year = other.date.year ∧
      moment.date.month = other.date.month ∧ moment.date.day = other.date.day := by
    constructor
    · intro h
      rw [h]
      exact ⟨rfl, rfl, rfl⟩
    · rintro ⟨hyear, hmonth, hday⟩
      refine Date.parts_injective ?_
      rw [Date.parts, Date.parts, hyear, hmonth, hday]
  rw [hdate]
  simp only [parts, Date.parts, List.cons_append, List.nil_append, List.cons_lt_cons_iff,
    List.not_lt_nil, and_false, or_false]
  tauto

/-- Microseconds are counted in the order of what the clock shows. -/
theorem wallMicroseconds_lt_iff {moment other : Moment} :
    moment.wallMicroseconds < other.wallMicroseconds ↔ moment.parts < other.parts := by
  have htime := moment.time.microseconds_lt
  have htime' := other.time.microseconds_lt
  rw [parts_lt_iff, ← Date.dayNumber_lt_iff, ← TimeOfDay.microseconds_lt_iff, ← Date.dayNumber_inj]
  unfold wallMicroseconds
  omega

/-- Clocks that count the same microseconds show the same. -/
theorem wallMicroseconds_inj {moment other : Moment} :
    moment.wallMicroseconds = other.wallMicroseconds ↔
      moment.date = other.date ∧ moment.time = other.time := by
  have htime := moment.time.microseconds_lt
  have htime' := other.time.microseconds_lt
  rw [← Date.dayNumber_inj, ← TimeOfDay.microseconds_inj]
  unfold wallMicroseconds
  omega

/-- The moments from the first to the last microsecond of a calendar day are those that the
clock shows on that day. -/
theorem between_dayBegins_dayEnds {moment other : Moment} :
    moment.dayBegins.wallMicroseconds ≤ other.wallMicroseconds ∧
      other.wallMicroseconds ≤ moment.dayEnds.wallMicroseconds ↔ other.date = moment.date := by
  have htime := other.time.microseconds_lt
  rw [← Date.dayNumber_inj]
  simp only [wallMicroseconds, dayBegins, dayEnds, TimeOfDay.microseconds_first,
    TimeOfDay.microseconds_last]
  omega

end Moment

end BoardSearch
