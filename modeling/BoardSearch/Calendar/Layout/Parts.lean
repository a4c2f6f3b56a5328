import BoardSearch.Calendar.Layout.Matching

/-!
# Moments from the parts that were read

The fields that were read under a layout name a moment together. Where two of them
name the same part, the later one counts.

## Main definitions

* `Layout.Parts`: the parts of a moment, as far as they were read;
* `Layout.Parts.date`: the date that they name;
* `Layout.Parts.moment`: the moment that they name, in UTC.

## Design notes

Without a year a text is of 1900, but a day of the year is looked up in a leap year
if the text names 29 February. A day of a week goes by the week that it is in, if one
was read.
-/

namespace BoardSearch.Layout

/-- A week of a year, with the day that weeks begin on. -/
structure Week where
  number : Nat
  fromMonday : Bool
deriving DecidableEq

/-- The parts of a moment that were read. Weekdays are counted from 0 for Monday. -/
structure Parts where
  year : Option Nat
  month : Nat
  day : Nat
  hour : Nat
  minute : Nat
  second : Nat
  microsecond : Nat
  weekday : Option Nat
  dayOfYear : Option Nat
  week : Option Week
  weekYear : Option Nat
  weekNumber : Option Nat
deriving DecidableEq

namespace Parts

/-- The parts of a moment of which nothing was read. -/
def unread : Parts := ⟨none, 1, 1, 0, 0, 0, 0, none, none, none, none, none⟩

/-- The year that two digits stand for. -/
def fullYear (year : Nat) : Nat := if year ≤ 68 then year + 2000 else year + 1900

/-- The hour of a day of an hour of its halves, the second of which begins at noon. -/
def fullHour (hour : Nat) (afternoon : Bool) : Nat :=
  if afternoon then (if hour = 12 then 12 else hour + 12) else if hour = 12 then 0 else hour

/-- The parts with those of one more reading. -/
def note (afternoon : Bool) (parts : Parts) (reading : Reading) : Parts :=
  let value := reading.value
  match reading.field with
  | .year => { parts with year := some value }
  | .shortYear => { parts with year := some (fullYear value) }
  | .month => { parts with month := value }
  | .monthName | .shortMonthName => { parts with month := value + 1 }
  | .day => { parts with day := value }
  | .dayOfYear => { parts with dayOfYear := some value }
  | .hour => { parts with hour := value }
  | .halfDayHour => { parts with hour := fullHour value afternoon }
  | .halfDay => parts
  | .minute => { parts with minute := value }
  | .second => { parts with second := value }
  | .fraction => { parts with microsecond := value }
  | .weekdayName | .shortWeekdayName => { parts with weekday := some value }
  | .weekdayFromSunday => { parts with weekday := some ((value + 6) % 7) }
  | .weekdayFromMonday => { parts with weekday := some (value - 1) }
  | .weekFromSunday => { parts with week := some ⟨value, false⟩ }
  | .weekFromMonday => { parts with week := some ⟨value, true⟩ }
  | .weekYear => { parts with weekYear := some value }
  | .weekNumber => { parts with weekNumber := some value }

/-- The second half of the day was read. -/
def isAfternoon (readings : List Reading) : Bool :=
  readings.any fun reading => reading.field = .halfDay && reading.value = 1

/-- The parts that were read. -/
def ofReadings (readings : List Reading) : Parts :=
  readings.foldl (note (isAfternoon readings)) unread

/-- The date with this year, month and day. -/
def dateOf (year month day : Nat) : Except LayoutError Date :=
  match Date.of? year month day with
  | some date => .ok date
  | none =>
    if year < 1 || lastYear < year then .error (.noSuchYear year) else .error .noSuchDay

/-- The date on a day of a year, which may lie in a neighbouring year. -/
def dateOfDay (year : Nat) (day : Int) : Except LayoutError Date :=
  if year < 1 || lastYear < year then .error (.noSuchYear year)
  else
    match Date.ofDayNumber? ((Date.daysBeforeYear year : Int) + day).toNat with
    | some date => .ok date
    | none => .error (.noSuchYear (if day < 1 then 0 else year + 1))

/-- The day of the year on a day of a week; it may lie in the year before. -/
def dayOfWeek (year : Nat) (week : Week) (weekday : Nat) : Int :=
  let first := (Date.daysBeforeYear year + (if week.fromMonday then 0 else 1)) % 7
  let weekday := if week.fromMonday then weekday else (weekday + 1) % 7
  if week.number = 0 then 1 + (weekday : Int) - first
  else 1 + ((7 - (first : Int)) % 7 + 7 * ((week.number : Int) - 1)) + weekday

/-- A year of weeks has 53 of them: it begins on a Thursday, or is a leap year that
begins on a Wednesday. -/
def hasLongWeekYear (year : Nat) : Bool :=
  let first := Date.daysBeforeYear year % 7
  first == 3 || (first == 2 && isLeapYear year)

/-- The date on a day of a numbered week. -/
def dateOfWeek (year week weekday : Nat) : Except LayoutError Date :=
  if year < 1 || lastYear < year then .error (.noSuchWeekYear year)
  else if week = 0 || 53 < week || (week = 53 && !hasLongWeekYear year) then
    .error (.noSuchWeek week)
  else
    let first := Date.daysBeforeYear year % 7
    let monday : Int := if first ≤ 3 then 1 - (first : Int) else 8 - (first : Int)
    dateOfDay year (monday + 7 * ((week : Int) - 1) + weekday)

/-- What is wrong with a year of weeks or a numbered week, given the other parts. -/
def weekFault? (parts : Parts) : Option LayoutError :=
  match parts.weekYear, parts.weekNumber with
  | some _, number =>
    if number.isNone || parts.weekday.isNone then some .lonelyWeekYear
    else if parts.dayOfYear.isSome then some .weekYearWithDay
    else none
  | none, some _ =>
    if parts.week.isSome then none
    else some (if parts.weekday.isNone then .lonelyWeek else .weekWithoutYear)
  | none, none => none

/-- The date that the parts name in a given year. -/
def dateInYear (parts : Parts) (year : Nat) : Except LayoutError Date :=
  match parts.dayOfYear, parts.weekday, parts.week, parts.weekYear, parts.weekNumber with
  | some day, _, _, _, _ => dateOfDay year day
  | none, some weekday, some week, _, _ => dateOfDay year (dayOfWeek year week weekday)
  | none, some weekday, none, some weekYear, some number => dateOfWeek weekYear number weekday
  | _, _, _, _, _ => dateOf year parts.month parts.day

/-- The year of texts that name none. -/
def usualYear : Nat := 1900

/-- A leap year for texts that name 29 February and no year. -/
def leapYear : Nat := 1904

/-- The date that the parts name. -/
def date (parts : Parts) : Except LayoutError Date :=
  match weekFault? parts with
  | some fault => .error fault
  | none =>
    match parts.year with
    | some year => parts.dateInYear year
    | none =>
      if parts.month = 2 && parts.day = 29 then do
        let date ← parts.dateInYear leapYear
        dateOf usualYear date.month date.day
      else parts.dateInYear usualYear

/-- The moment that the parts name, in UTC. -/
def moment (parts : Parts) : Except LayoutError Moment := do
  let date ← parts.date
  match TimeOfDay.of? parts.hour parts.minute parts.second parts.microsecond with
  | some time => return ⟨date, time, .utc⟩
  | none => .error .leapSecond

end Parts

end BoardSearch.Layout
