import BoardSearch.Calendar.Date

/-!
# Moments

A moment is a date with a time of day, to the microsecond, and what is known of
the zone its clock shows.

## Main definitions

* `TimeOfDay`: hours, minutes, seconds and microseconds within their bounds;
* `Zone`: unstated, the UTC zone, or a fixed offset;
* `Moment`: a date, a time of day and a zone;
* `Moment.toUtc?`: the same moment on a UTC clock;
* `Date.begins`, `Date.ends`, `Moment.dayBegins`, `Moment.dayEnds`: the first and
  the last moment of a calendar day.

## Design notes

A fixed offset of zero is not the UTC zone: it is converted like any other
offset, though both are written alike.
-/

namespace BoardSearch

/-- A time of day. -/
structure TimeOfDay where
  hour : Nat
  minute : Nat
  second : Nat
  microsecond : Nat
  hour_lt : hour < 24
  minute_lt : minute < 60
  second_lt : second < 60
  microsecond_lt : microsecond < 1000000
deriving DecidableEq

namespace TimeOfDay

/-- The time of day with these parts, if they are within their bounds. -/
def of? (hour minute second microsecond : Nat) : Option TimeOfDay :=
  if h : hour < 24 ∧ minute < 60 ∧ second < 60 ∧ microsecond < 1000000 then
    some ⟨hour, minute, second, microsecond, h.1, h.2.1, h.2.2.1, h.2.2.2⟩
  else none

/-- The beginning of a day. -/
def first : TimeOfDay := ⟨0, 0, 0, 0, by decide, by decide, by decide, by decide⟩

/-- The last microsecond of a day. -/
def last : TimeOfDay := ⟨23, 59, 59, 999999, by decide, by decide, by decide, by decide⟩

/-- The whole minutes since the beginning of the day. -/
def minutes (time : TimeOfDay) : Nat := 60 * time.hour + time.minute

/-- The same seconds and microseconds in another minute of the day. -/
def atMinute (time : TimeOfDay) (minute : Nat) : TimeOfDay :=
  ⟨minute / 60 % 24, minute % 60, time.second, time.microsecond,
    Nat.mod_lt _ (by decide), Nat.mod_lt _ (by decide), time.second_lt, time.microsecond_lt⟩

/-- The microseconds since the beginning of the day. -/
def microseconds (time : TimeOfDay) : Nat :=
  (60 * time.minutes + time.second) * 1000000 + time.microsecond

/-- Hours, minutes and seconds with colons between them, and the six digits of
the microseconds unless they are zero. -/
def chars (time : TimeOfDay) : List Char :=
  Date.padded 2 time.hour ++ ':' :: Date.padded 2 time.minute ++ ':' ::
    Date.padded 2 time.second ++
    if time.microsecond = 0 then [] else '.' :: Date.padded 6 time.microsecond

end TimeOfDay

/-- What is known of the zone of a clock. -/
inductive Zone where
  /-- Nothing. -/
  | unstated
  /-- The UTC zone. -/
  | utc
  /-- A clock so many minutes ahead of UTC. -/
  | offset (minutes : Int)
deriving DecidableEq

/-- The minutes that a clock is ahead of UTC, where that is known. -/
def Zone.minutes? : Zone → Option Int
  | .unstated => none
  | .utc => some 0
  | .offset minutes => some minutes

/-- A date with a time of day and a zone. -/
structure Moment where
  date : Date
  time : TimeOfDay
  zone : Zone
deriving DecidableEq

/-- The first moment of a date, in no stated zone. -/
def Date.begins (date : Date) : Moment := ⟨date, .first, .unstated⟩

/-- The last moment of a date, in no stated zone. -/
def Date.ends (date : Date) : Moment := ⟨date, .last, .unstated⟩

namespace Moment

/-- The first moment of the calendar day, on the same clock. -/
def dayBegins (moment : Moment) : Moment := { moment with time := .first }

/-- The last moment of the calendar day, on the same clock. -/
def dayEnds (moment : Moment) : Moment := { moment with time := .last }

/-- The same time of day on the day before. -/
def dayBefore? (moment : Moment) : Option Moment :=
  moment.date.previous?.map fun date => { moment with date }

/-- The same time of day on the day after. -/
def dayAfter? (moment : Moment) : Option Moment :=
  moment.date.next?.map fun date => { moment with date }

/-- The same moment on a UTC clock. A clock without a stated zone is taken to
show UTC. There is none when the UTC date has no date of its own. -/
def toUtc? (moment : Moment) : Option Moment :=
  match moment.zone with
  | .unstated | .utc => some { moment with zone := .utc }
  | .offset offset =>
    let minute := (moment.time.minutes : Int) - offset
    if minute < 0 then
      let time := moment.time.atMinute (minute + 1440).toNat
      dayBefore? ⟨moment.date, time, .utc⟩
    else if 1440 ≤ minute then
      let time := moment.time.atMinute (minute - 1440).toNat
      dayAfter? ⟨moment.date, time, .utc⟩
    else some ⟨moment.date, moment.time.atMinute minute.toNat, .utc⟩

/-- The microseconds a clock counts from the beginning of year 1. -/
def wallMicroseconds (moment : Moment) : Int :=
  ((moment.date.dayNumber : Int) - 1) * 86400000000 + moment.time.microseconds

/-- The microseconds from the beginning of year 1 in UTC, where the zone is known. -/
def instant? (moment : Moment) : Option Int :=
  moment.zone.minutes?.map fun minutes => moment.wallMicroseconds - minutes * 60000000

/-- An offset as sign, hours and minutes. -/
def offsetChars (minutes : Int) : List Char :=
  (if minutes < 0 then '-' else '+') ::
    Date.padded 2 (minutes.natAbs / 60) ++ ':' :: Date.padded 2 (minutes.natAbs % 60)

/-- Date and time with a separator between them, and the offset where it is known. -/
def textWith (separator : Char) (moment : Moment) : String :=
  String.ofList (moment.date.chars ++ separator :: moment.time.chars ++
    (moment.zone.minutes?.map offsetChars).getD [])

/-- The moment as it is written inside a request: an offset of zero is a `Z`. -/
def requestText (moment : Moment) : String :=
  let zone := match moment.zone.minutes? with
    | none => []
    | some 0 => ['Z']
    | some minutes => offsetChars minutes
  String.ofList (moment.date.chars ++ 'T' :: moment.time.chars ++ zone)

end Moment

end BoardSearch
