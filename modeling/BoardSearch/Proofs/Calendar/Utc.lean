import BoardSearch.Proofs.Calendar.Order

/-!
# Moments on a UTC clock

A clock with a fixed offset is put to UTC by the minutes of the offset, which may lead into the
day before or into the day after, over the end of a month or of a year as well. The day after a
date has the next number, and the day before it the previous one. So the clock that was put to
UTC counts the microseconds of the same instant, and every instant from the first to the last
year is shown by one UTC clock.

## Main definitions

* `Moment.IsInCalendar`: an instant in the years that have dates.

## Main statements

* `Date.next?_eq_some_iff`, `Date.previous?_eq_some_iff`: neighbouring dates by their numbers;
* `Date.exists_dayNumber_iff`: the numbers of dates;
* `Moment.exists_wallMicroseconds_iff`: the instants that a clock can show;
* `Moment.toUtc?_keeps_instant`: what a moment is on a UTC clock.
-/

namespace BoardSearch

namespace Date

/-! ## Neighbouring dates -/

theorem one_le_dayNumber (date : Date) : 1 ≤ date.dayNumber := by
  obtain ⟨_, _, _, _, hday, _⟩ := date.isDate
  unfold dayNumber
  omega

theorem dayNumber_le (date : Date) : date.dayNumber ≤ daysBeforeYear (lastYear + 1) := by
  have hwithin := daysBeforeMonth_add_day_le date
  obtain ⟨hyear, hlast, -⟩ := date.isDate
  have hyears := daysBeforeYear_add_le hyear (Nat.lt_add_one_of_le hlast)
  unfold dayNumber
  omega

theorem daysBeforeMonth_one (year : Nat) : daysBeforeMonth year 1 = 0 := rfl

theorem daysBeforeMonth_twelve (year : Nat) : daysBeforeMonth year 12 + 31 = daysInYear year := by
  rw [← daysBeforeMonth_thirteen, daysBeforeMonth_succ (by decide)]
  rfl

theorem of?_eq_some {year month day : Nat} (h : IsDate year month day) :
    of? year month day = some ⟨year, month, day, h⟩ := dif_pos h

theorem daysInMonth_pos (year month : Nat) : 1 ≤ daysInMonth year month := by
  unfold daysInMonth
  split
  · split <;> decide
  all_goals decide

/-- The day after has the next number; only the last date has none. -/
theorem next?_cases (date : Date) :
    (∃ next, date.next? = some next ∧ next.dayNumber = date.dayNumber + 1) ∨
      date.next? = none ∧ date.dayNumber = daysBeforeYear (lastYear + 1) := by
  obtain ⟨year, month, day, hdate⟩ := date
  have ⟨hyear, hlast, hmonth, htwelve, hday, hlength⟩ := hdate
  unfold next?
  dsimp only
  split_ifs with hwithin hbefore
  · refine .inl ⟨_, of?_eq_some ⟨hyear, hlast, hmonth, htwelve, by omega, hwithin⟩, ?_⟩
    simp only [dayNumber]
    omega
  -- otherwise it is the last day of the month
  · refine .inl ⟨_, of?_eq_some ⟨hyear, hlast, by omega, by omega, le_rfl,
      daysInMonth_pos _ _⟩, ?_⟩
    simp only [dayNumber, daysBeforeMonth_succ hmonth]
    omega
  · obtain rfl : month = 12 := by omega
    obtain rfl : day = 31 := le_antisymm hlength (not_lt.mp hwithin)
    have hmonths := daysBeforeMonth_twelve year
    have hyears := daysBeforeYear_succ hyear
    by_cases hnext : year + 1 ≤ lastYear
    · refine .inl ⟨_, of?_eq_some ⟨by omega, hnext, le_rfl, by decide, le_rfl,
        daysInMonth_pos _ _⟩, ?_⟩
      simp only [dayNumber, daysBeforeMonth_one]
      omega
    · obtain rfl : year = lastYear := by omega
      refine .inr ⟨dif_neg fun h => hnext h.2.1, ?_⟩
      simp only [dayNumber]
      omega

/-- The day before has the previous number; only the first date has none. -/
theorem previous?_cases (date : Date) :
    (∃ previous, date.previous? = some previous ∧ previous.dayNumber + 1 = date.dayNumber) ∨
      date.previous? = none ∧ date.dayNumber = 1 := by
  obtain ⟨year, month, day, hdate⟩ := date
  have ⟨hyear, hlast, hmonth, htwelve, hday, hlength⟩ := hdate
  unfold previous?
  dsimp only
  split_ifs with hwithin hbefore
  · refine .inl ⟨_, of?_eq_some ⟨hyear, hlast, hmonth, htwelve, by omega, by omega⟩, ?_⟩
    simp only [dayNumber]
    omega
  -- otherwise it is the first day of the month
  · have hmonths : daysBeforeMonth year (month - 1 + 1) = _ := daysBeforeMonth_succ (by omega)
    rw [Nat.sub_add_cancel hmonth] at hmonths
    refine .inl ⟨_, of?_eq_some ⟨hyear, hlast, by omega, by omega, daysInMonth_pos _ _,
      le_rfl⟩, ?_⟩
    simp only [dayNumber]
    omega
  · obtain rfl : month = 1 := by omega
    obtain rfl : day = 1 := by omega
    by_cases hprevious : 1 ≤ year - 1
    · have hyears := daysBeforeYear_succ hprevious
      have hmonths := daysBeforeMonth_twelve (year - 1)
      rw [Nat.sub_add_cancel hyear] at hyears
      refine .inl ⟨_, of?_eq_some ⟨hprevious, by omega, by decide, le_rfl, by decide,
        (le_rfl : 31 ≤ 31)⟩, ?_⟩
      simp only [dayNumber, daysBeforeMonth_one]
      omega
    · obtain rfl : year = 1 := by omega
      refine .inr ⟨dif_neg fun h => hprevious h.1, ?_⟩
      simp only [dayNumber, daysBeforeYear, daysBeforeMonth_one]

theorem next?_eq_some_iff {date next : Date} :
    date.next? = some next ↔ next.dayNumber = date.dayNumber + 1 := by
  have hlast := next.dayNumber_le
  obtain ⟨other, hother, hnumber⟩ | ⟨hnone, hnumber⟩ := date.next?_cases
  · rw [hother, Option.some.injEq, ← hnumber, dayNumber_inj]
    exact eq_comm
  · rw [hnone]
    exact iff_of_false nofun (by omega)

theorem previous?_eq_some_iff {date previous : Date} :
    date.previous? = some previous ↔ previous.dayNumber + 1 = date.dayNumber := by
  have hfirst := previous.one_le_dayNumber
  obtain ⟨other, hother, hnumber⟩ | ⟨hnone, hnumber⟩ := date.previous?_cases
  · rw [hother, Option.some.injEq, ← hnumber, Nat.succ_inj, dayNumber_inj]
    exact eq_comm
  · rw [hnone]
    exact iff_of_false nofun (by omega)

/-- Dates are numbered without gaps. -/
theorem exists_dayNumber_iff {number : Nat} :
    (∃ date : Date, date.dayNumber = number) ↔
      1 ≤ number ∧ number ≤ daysBeforeYear (lastYear + 1) := by
  constructor
  · rintro ⟨date, rfl⟩
    exact ⟨date.one_le_dayNumber, date.dayNumber_le⟩
  · rintro ⟨hfirst, hlast⟩
    -- from each date one gets to the next
    induction number, hfirst using Nat.le_induction with
    | base => exact ⟨⟨1, 1, 1, by decide⟩, by decide⟩
    | succ number _ ih =>
      obtain ⟨date, rfl⟩ := ih (by omega)
      obtain ⟨next, -, hnumber⟩ | ⟨-, hnumber⟩ := date.next?_cases
      · exact ⟨next, hnumber⟩
      · omega

end Date

namespace TimeOfDay

/-! ## Times of day -/

theorem minutes_lt (time : TimeOfDay) : time.minutes < 1440 := by
  have hhour := time.hour_lt
  have hminute := time.minute_lt
  unfold minutes
  omega

/-- In another minute of the day, a clock counts the microseconds of the minutes between more,
or less. -/
theorem microseconds_atMinute (time : TimeOfDay) {minute : Nat} (h : minute < 1440) :
    (time.atMinute minute).microseconds + 60000000 * time.minutes =
      time.microseconds + 60000000 * minute := by
  have hminutes : (time.atMinute minute).minutes = minute := by
    simp only [minutes, atMinute]
    omega
  rw [microseconds, microseconds, hminutes]
  show (60 * minute + time.second) * 1000000 + time.microsecond + _ = _
  omega

/-- Every microsecond of a day is a time of day. -/
theorem exists_microseconds_eq {count : Nat} (h : count < 86400000000) :
    ∃ time : TimeOfDay, time.microseconds = count := by
  refine ⟨⟨count / 3600000000, count / 60000000 % 60, count / 1000000 % 60, count % 1000000,
    by omega, by omega, by omega, by omega⟩, ?_⟩
  simp only [microseconds, minutes]
  omega

end TimeOfDay

namespace Moment

/-! ## Instants -/

/-- The instant, in microseconds from the beginning of year 1 in UTC, is in the years that have
dates. -/
def IsInCalendar (instant : Int) : Prop :=
  0 ≤ instant ∧ instant < Date.daysBeforeYear (lastYear + 1) * 86400000000

instance (instant : Int) : Decidable (IsInCalendar instant) :=
  inferInstanceAs (Decidable (_ ∧ _))

/-- A count of days and of the microseconds of a day is that of one clock. -/
theorem wallMicroseconds_eq_iff {moment : Moment} {number : Int} {time : TimeOfDay} :
    moment.wallMicroseconds = (number - 1) * 86400000000 + time.microseconds ↔
      (moment.date.dayNumber : Int) = number ∧ moment.time = time := by
  have hcount := moment.time.microseconds_lt
  have hcount' := time.microseconds_lt
  rw [← TimeOfDay.microseconds_inj]
  unfold wallMicroseconds
  omega

/-- The instants in the calendar are those that a UTC clock can show. -/
theorem exists_wallMicroseconds_iff {instant : Int} :
    (∃ moment : Moment, moment.zone = .utc ∧ moment.wallMicroseconds = instant) ↔
      IsInCalendar instant := by
  constructor
  · rintro ⟨moment, -, rfl⟩
    have hcount := moment.time.microseconds_lt
    have hfirst := moment.date.one_le_dayNumber
    have hlast := moment.date.dayNumber_le
    unfold IsInCalendar wallMicroseconds
    omega
  · rintro ⟨hbegin, hend⟩
    obtain ⟨date, hdate⟩ := Date.exists_dayNumber_iff.mpr
      (by omega : 1 ≤ (instant / 86400000000).toNat + 1 ∧
        (instant / 86400000000).toNat + 1 ≤ Date.daysBeforeYear (lastYear + 1))
    obtain ⟨time, htime⟩ := TimeOfDay.exists_microseconds_eq
      (by omega : (instant % 86400000000).toNat < 86400000000)
    refine ⟨⟨date, time, .utc⟩, rfl, ?_⟩
    simp only [wallMicroseconds, hdate, htime]
    omega

/-! ## Clocks put to UTC -/

variable {moment utc other : Moment} {minutes : Int}

/-- A moment with another date, if there is one, has the same time of day and the same zone. -/
theorem map_date_eq_some_iff {date? : Option Date} :
    (date?.map fun date => { moment with date }) = some other ↔
      date? = some other.date ∧ other.time = moment.time ∧ other.zone = moment.zone := by
  obtain ⟨date, time, zone⟩ := other
  simp only [Option.map_eq_some_iff, mk.injEq]
  constructor
  · rintro ⟨_, hdate, rfl, rfl, rfl⟩
    exact ⟨hdate, rfl, rfl⟩
  · rintro ⟨hdate, rfl, rfl⟩
    exact ⟨date, hdate, rfl, rfl, rfl⟩

theorem dayBefore?_eq_some_iff :
    moment.dayBefore? = some other ↔ other.date.dayNumber + 1 = moment.date.dayNumber ∧
      other.time = moment.time ∧ other.zone = moment.zone := by
  rw [dayBefore?, map_date_eq_some_iff, Date.previous?_eq_some_iff]

theorem dayAfter?_eq_some_iff :
    moment.dayAfter? = some other ↔ other.date.dayNumber = moment.date.dayNumber + 1 ∧
      other.time = moment.time ∧ other.zone = moment.zone := by
  rw [dayAfter?, map_date_eq_some_iff, Date.next?_eq_some_iff]

/-- The microseconds of a moment less those of an offset are counted on the day, and at the minute
of the day, that the minutes less the offset come to. -/
theorem wallMicroseconds_eq_sub_iff (number : Int) (minute : Nat) (hminute : minute < 1440)
    (hshift : number * 1440 + minute =
      moment.date.dayNumber * 1440 + (moment.time.minutes - minutes)) :
    utc.wallMicroseconds = moment.wallMicroseconds - minutes * 60000000 ↔
      (utc.date.dayNumber : Int) = number ∧ utc.time = moment.time.atMinute minute := by
  have hmicroseconds := moment.time.microseconds_atMinute hminute
  have hcount : moment.wallMicroseconds - minutes * 60000000 =
      (number - 1) * 86400000000 + (moment.time.atMinute minute).microseconds := by
    unfold wallMicroseconds
    omega
  rw [hcount, wallMicroseconds_eq_iff]

/-- A clock with an offset of less than a day is put to UTC as one that counts the microseconds
of the offset less. -/
theorem toUtc?_eq_some_iff (hzone : moment.zone = .offset minutes) (hday : minutes.natAbs < 1440) :
    moment.toUtc? = some utc ↔
      utc.zone = .utc ∧ utc.wallMicroseconds = moment.wallMicroseconds - minutes * 60000000 := by
  have hminutes := moment.time.minutes_lt
  unfold toUtc?
  rw [hzone]
  dsimp only
  -- it may be the day before or the day after in UTC
  split_ifs with hbefore hafter
  · have hnumber : utc.date.dayNumber + 1 = moment.date.dayNumber ↔
        (utc.date.dayNumber : Int) = moment.date.dayNumber - 1 := by omega
    rw [dayBefore?_eq_some_iff, wallMicroseconds_eq_sub_iff (moment.date.dayNumber - 1)
      (moment.time.minutes - minutes + 1440).toNat (by omega) (by omega), ← hnumber, ← and_assoc]
    exact and_comm
  · have hnumber : utc.date.dayNumber = moment.date.dayNumber + 1 ↔
        (utc.date.dayNumber : Int) = moment.date.dayNumber + 1 := by omega
    rw [dayAfter?_eq_some_iff, wallMicroseconds_eq_sub_iff (moment.date.dayNumber + 1)
      (moment.time.minutes - minutes - 1440).toNat (by omega) (by omega), ← hnumber, ← and_assoc]
    exact and_comm
  · rw [wallMicroseconds_eq_sub_iff moment.date.dayNumber
      (moment.time.minutes - minutes).toNat (by omega) (by omega), Int.natCast_inj,
      Date.dayNumber_inj, Option.some.injEq]
    constructor
    · rintro rfl
      exact ⟨rfl, rfl, rfl⟩
    · obtain ⟨date, time, zone⟩ := utc
      rintro ⟨rfl, rfl, rfl⟩
      rfl

theorem toUtc?_of_utc (hzone : moment.zone = .utc) : moment.toUtc? = some moment := by
  obtain ⟨date, time, zone⟩ := moment
  obtain rfl : zone = .utc := hzone
  rfl

theorem zone_of_toUtc? (h : moment.toUtc? = some utc) : utc.zone = .utc := by
  unfold toUtc? at h
  dsimp only at h
  split at h
  · exact Option.some.inj h ▸ rfl
  · exact Option.some.inj h ▸ rfl
  · split_ifs at h
    · exact (dayBefore?_eq_some_iff.mp h).2.2
    · exact (dayAfter?_eq_some_iff.mp h).2.2
    · exact Option.some.inj h ▸ rfl

theorem instant?_eq_some_iff_of_utc {instant : Int} (hzone : utc.zone = .utc) :
    utc.instant? = some instant ↔ utc.wallMicroseconds = instant := by
  rw [instant?, hzone, Zone.minutes?, Option.map_some, Option.some.injEq, Int.zero_mul,
    Int.sub_zero]

/-- A moment on a clock with a fixed offset of less than a day is the same instant on a UTC clock,
and there is one just where the instant is in the calendar. A clock without a stated zone is taken
to show UTC, and shows the same afterwards. A moment in UTC stays as it is, so that a moment that
was put to UTC is not changed again. -/
theorem toUtc?_keeps_instant (moment : Moment) :
    (∀ minutes instant, moment.zone = .offset minutes → minutes.natAbs < 1440 →
      moment.instant? = some instant →
        ((∃ utc, moment.toUtc? = some utc) ↔ IsInCalendar instant) ∧
        ∀ utc, moment.toUtc? = some utc ↔ utc.zone = .utc ∧ utc.instant? = some instant) ∧
    (moment.zone = .unstated → ∃ utc, moment.toUtc? = some utc ∧ utc.zone = .utc ∧
      utc.date = moment.date ∧ utc.time = moment.time) ∧
    (moment.zone = .utc → moment.toUtc? = some moment) ∧
    ∀ utc, moment.toUtc? = some utc → utc.toUtc? = some utc := by
  refine ⟨?_, ?_, toUtc?_of_utc, fun utc h => toUtc?_of_utc (zone_of_toUtc? h)⟩
  · intro minutes instant hzone hday hinstant
    obtain rfl : moment.wallMicroseconds - minutes * 60000000 = instant := by
      rw [instant?, hzone] at hinstant
      exact Option.some.inj hinstant
    constructor
    · rw [← exists_wallMicroseconds_iff]
      exact exists_congr fun utc => toUtc?_eq_some_iff hzone hday
    · intro utc
      rw [toUtc?_eq_some_iff hzone hday]
      exact and_congr_right fun hutc => (instant?_eq_some_iff_of_utc hutc).symm
  · obtain ⟨date, time, zone⟩ := moment
    rintro rfl
    exact ⟨_, rfl, rfl, rfl, rfl⟩

/-- The last microsecond of a leap day, on a clock so far behind UTC that it is March there. -/
def leapNight : Moment := ⟨⟨2020, 2, 29, by decide⟩, .last, .offset (-1439)⟩

/-- The same instant in UTC, a day and a month later. -/
def marchNight : Moment := ⟨⟨2020, 3, 1, by decide⟩, .atMinute .last 1438, .utc⟩

theorem toUtc?_keeps_instant_leapNight :
    leapNight.zone = .offset (-1439) ∧ (-1439 : Int).natAbs < 1440 ∧
    leapNight.instant? = some 63718703939999999 ∧ IsInCalendar 63718703939999999 ∧
    leapNight.toUtc? = some marchNight ∧ marchNight.toUtc? = some marchNight ∧
    ∃ utc, { leapNight with zone := .unstated }.toUtc? = some utc ∧ utc.zone = .utc ∧
      utc.date = leapNight.date ∧ utc.time = leapNight.time := by
  have hinstant : leapNight.instant? = some 63718703939999999 := by decide
  have hmarch : marchNight.instant? = some 63718703939999999 := by decide
  obtain ⟨hoffset, -, -, hagain⟩ := toUtc?_keeps_instant leapNight
  obtain ⟨hexists, hunique⟩ := hoffset (-1439) _ rfl (by decide) hinstant
  have hutc : leapNight.toUtc? = some marchNight := (hunique marchNight).mpr ⟨rfl, hmarch⟩
  refine ⟨rfl, by decide, hinstant, hexists.mp ⟨_, hutc⟩, hutc, hagain _ hutc, ?_⟩
  exact (toUtc?_keeps_instant { leapNight with zone := .unstated }).2.1 rfl

end Moment

end BoardSearch
