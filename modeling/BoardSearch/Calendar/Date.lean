/-!
# Calendar dates

Dates of the Gregorian calendar, extended backwards, from year 1 to year 9999.
A date carries the proof that it is one, and is numbered by the days since the
last day of the year before year 1.

## Main definitions

* `Date`: a valid date;
* `Date.of?`: the date with a given year, month and day, if there is one;
* `Date.dayNumber`: 1 for 1 January of year 1, and one more each day;
* `Date.next?`, `Date.previous?`: the neighbouring dates;
* `Date.ofDayNumber?`: the date with a given number.
-/

namespace BoardSearch

/-- A leap year: every fourth, but of the full centuries only every fourth. -/
def isLeapYear (year : Nat) : Bool :=
  year % 4 == 0 && (year % 100 != 0 || year % 400 == 0)

/-- The days of a month, which is counted from 1. -/
def daysInMonth (year month : Nat) : Nat :=
  match month with
  | 2 => if isLeapYear year then 29 else 28
  | 4 | 6 | 9 | 11 => 30
  | _ => 31

/-- The days of a year. -/
def daysInYear (year : Nat) : Nat := if isLeapYear year then 366 else 365

/-- The last year that has dates. -/
def lastYear : Nat := 9999

/-- Year, month and day name a date. -/
def IsDate (year month day : Nat) : Prop :=
  1 ≤ year ∧ year ≤ lastYear ∧ 1 ≤ month ∧ month ≤ 12 ∧ 1 ≤ day ∧ day ≤ daysInMonth year month

instance (year month day : Nat) : Decidable (IsDate year month day) :=
  inferInstanceAs (Decidable (_ ∧ _ ∧ _ ∧ _ ∧ _ ∧ _))

/-- A date of the Gregorian calendar. -/
structure Date where
  year : Nat
  month : Nat
  day : Nat
  isDate : IsDate year month day
deriving DecidableEq

namespace Date

/-- The date with this year, month and day, if there is one. -/
def of? (year month day : Nat) : Option Date :=
  if h : IsDate year month day then some ⟨year, month, day, h⟩ else none

/-- The days before 1 January of a year. -/
def daysBeforeYear (year : Nat) : Nat :=
  let past := year - 1
  365 * past + past / 4 - past / 100 + past / 400

/-- The days of a year before the first of a month. -/
def daysBeforeMonth (year : Nat) : Nat → Nat
  | 0 => 0
  | 1 => 0
  | month + 2 => daysBeforeMonth year (month + 1) + daysInMonth year (month + 1)

/-- The number of a date, counted from 1 January of year 1. -/
def dayNumber (date : Date) : Nat :=
  daysBeforeYear date.year + daysBeforeMonth date.year date.month + date.day

/-- The day after. -/
def next? (date : Date) : Option Date :=
  if date.day < daysInMonth date.year date.month then of? date.year date.month (date.day + 1)
  else if date.month < 12 then of? date.year (date.month + 1) 1
  else of? (date.year + 1) 1 1

/-- The day before. -/
def previous? (date : Date) : Option Date :=
  if 1 < date.day then of? date.year date.month (date.day - 1)
  else if 1 < date.month then
    of? date.year (date.month - 1) (daysInMonth date.year (date.month - 1))
  else of? (date.year - 1) 12 31

/-- The year of the day with a number from 1 on. The mean length of a year
gives it up to one. -/
def yearOfDay (number : Nat) : Nat :=
  let guess := (number - 1) * 400 / 146097 + 1
  if number ≤ daysBeforeYear guess then guess - 1
  else if daysBeforeYear (guess + 1) < number then guess + 1
  else guess

/-- The month that a day of a year falls in, trying the months from `month` on;
`fuel` is the number of months left to try. -/
def monthOfDay (year dayOfYear : Nat) : Nat → Nat → Nat
  | 0, month => month
  | fuel + 1, month =>
    if dayOfYear ≤ daysBeforeMonth year (month + 1) then month
    else monthOfDay year dayOfYear fuel (month + 1)

/-- The date of a day of a year, both counted from 1. -/
def ofDayOfYear? (year dayOfYear : Nat) : Option Date :=
  let month := monthOfDay year dayOfYear 11 1
  of? year month (dayOfYear - daysBeforeMonth year month)

/-- The date with a given number. -/
def ofDayNumber? (number : Nat) : Option Date :=
  let year := yearOfDay number
  ofDayOfYear? year (number - daysBeforeYear year)

/-- The day of the week, 0 for Monday. -/
def weekday (date : Date) : Nat := (date.dayNumber + 6) % 7

/-- A number with at least `width` decimal digits. -/
def padded (width n : Nat) : List Char :=
  let digits := Nat.toDigits 10 n
  List.replicate (width - digits.length) '0' ++ digits

/-- Year, month and day with hyphens between them. -/
def chars (date : Date) : List Char :=
  padded 4 date.year ++ '-' :: padded 2 date.month ++ '-' :: padded 2 date.day

/-- The date as it is written. -/
def text (date : Date) : String := String.ofList date.chars

end Date

end BoardSearch
