import BoardSearch.Calendar.Moment
import BoardSearch.Number.Binary64

/-!
# Timestamps

A timestamp counts seconds from the beginning of 1970 in UTC. Its fraction is
turned into microseconds by one rounded product, which is then rounded half to
even.

## Main definitions

* `Timestamp`: seconds and microseconds;
* `Timestamp.ofBinary64`: the timestamp that a number is;
* `Timestamp.toMoment`: the UTC moment of a timestamp;
* `LongDate`: a day in any year;
* `Timestamp.longChars`: a timestamp as it is written in any year.
-/

namespace BoardSearch

/-- Why a timestamp is no moment. -/
inductive TimestampError where
  /-- The timestamp is not a number. -/
  | notANumber
  /-- The seconds do not fit 64 bits. -/
  | beyondSeconds
  /-- The year does not fit 32 bits. -/
  | beyondYears
  /-- The year has no dates. -/
  | noSuchYear (year : Int)
deriving DecidableEq

/-- Seconds from the beginning of 1970, with the microseconds that follow them. -/
structure Timestamp where
  seconds : Int
  microseconds : Nat
deriving DecidableEq

namespace Timestamp

/-- The number of 1 January 1970. -/
def epochDay : Int := 719163

/-- The days before 1 January of a year of any sign. -/
def daysBeforeYear (year : Int) : Int :=
  let past := year - 1
  365 * past + past.fdiv 4 - past.fdiv 100 + past.fdiv 400

/-- The year of a day of any number. -/
def yearOfDay (number : Int) : Int :=
  let guess := ((number - 1) * 400).fdiv 146097 + 1
  if number ≤ daysBeforeYear guess then guess - 1
  else if daysBeforeYear (guess + 1) < number then guess + 1
  else guess

/-- The seconds of a timestamp are below this bound, which is also that of 64 bits. -/
def secondsBound : Int := Nat.pow 2 63

/-- Years are counted from 1900 in 32 bits. -/
def yearBound : Int := Nat.pow 2 31

/-- The number of the day of a timestamp, and its year. -/
def dayAndYear (stamp : Timestamp) : Except TimestampError (Int × Int) :=
  if stamp.seconds < -secondsBound || secondsBound ≤ stamp.seconds then .error .beyondSeconds
  else
    let number := epochDay + stamp.seconds.fdiv 86400
    let year := yearOfDay number
    if year < 1900 - yearBound || 1900 + yearBound ≤ year then .error .beyondYears
    else .ok (number, year)

/-- The time of day of a timestamp whose microseconds are below a million. -/
def timeOfDay? (stamp : Timestamp) : Option TimeOfDay :=
  let second := (stamp.seconds.fmod 86400).toNat
  TimeOfDay.of? (second / 3600) (second / 60 % 60) (second % 60) stamp.microseconds

/-- The UTC moment of a timestamp whose microseconds are below a million. -/
def toMoment (stamp : Timestamp) : Except TimestampError Moment := do
  let (number, year) ← stamp.dayAndYear
  let moment := do
    return (⟨← Date.ofDayNumber? number.toNat, ← stamp.timeOfDay?, .utc⟩ : Moment)
  match moment with
  | some moment => if 1 ≤ year then .ok moment else .error (.noSuchYear year)
  | none => .error (.noSuchYear (if year < yearBound then year else year - 2 * yearBound))

/-- The integer nearest to a number, the even one on a tie. -/
def nearestInteger? : Binary64 → Option Int
  | .finite negative mantissa exponent =>
    let (p, q) := Binary64.ratio mantissa exponent
    some (Binary64.signed negative (Binary64.roundQuotient p q))
  | _ => none

/-- Seconds and microseconds of a number. -/
def ofBinary64 (x : Binary64) : Except TimestampError Timestamp :=
  match x.trunc? with
  | none => .error (if x = .nan then .notANumber else .beyondSeconds)
  | some whole =>
    let fraction := x.sub (.ofInt whole)
    let rounded := (nearestInteger? (fraction.mul (.ofInt 1000000))).getD 0
    if 1000000 ≤ rounded then .ok ⟨whole + 1, (rounded - 1000000).toNat⟩
    else if rounded < 0 then .ok ⟨whole - 1, (rounded + 1000000).toNat⟩
    else .ok ⟨whole, rounded.toNat⟩

end Timestamp

/-- A day of a calendar that goes on beyond the first and the last year with dates. -/
structure LongDate where
  year : Int
  month : Nat
  day : Nat
deriving DecidableEq

namespace LongDate

/-- The day with a number. Its year has the months of one between 400 and 799, since
leap years come back after 400 years. -/
def ofDayNumber (number : Int) : LongDate :=
  let year := Timestamp.yearOfDay number
  let alike := (year.fmod 400).toNat + 400
  let dayOfYear := (number - Timestamp.daysBeforeYear year).toNat
  let month := Date.monthOfDay alike dayOfYear 11 1
  ⟨year, month, dayOfYear - Date.daysBeforeMonth alike month⟩

/-- Year, month and day with hyphens between them. The year is not padded. -/
def chars (date : LongDate) : List Char :=
  (toString date.year).toList ++ '-' :: Date.padded 2 date.month ++ '-' :: Date.padded 2 date.day

end LongDate

/-- Date and time of a timestamp in UTC, to the second. The year has to fit 32 bits. -/
def Timestamp.longChars (stamp : Timestamp) : Except TimestampError (List Char) := do
  let (number, year) ← stamp.dayAndYear
  if yearBound ≤ year then throw .beyondSeconds
  let time := ((⟨stamp.seconds, 0⟩ : Timestamp).timeOfDay?).getD .first
  return (LongDate.ofDayNumber number).chars ++ ' ' :: time.chars

end BoardSearch
