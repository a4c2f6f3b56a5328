import BoardSearch.Calendar.Moment
import BoardSearch.Text.Blank
import BoardSearch.Text.Digit
import BoardSearch.Text.Letter
import BoardSearch.Text.Quoted

/-!
# Layouts of written moments

A layout describes how a moment is written: characters that stand for
themselves, blanks, and fields such as `%Y` or `%d`.

## Main definitions

* `Layout.Field`, `Layout.Piece`: what a layout is made of;
* `Layout.LayoutError`: why a text denotes no moment under a layout;
* `Layout.Field.alternatives`: the rows of characters a field may be read from, in order;
* `Layout.ofText`: the layout written with percent signs.
-/

namespace BoardSearch.Layout

/-- Why a text denotes no moment under a layout. -/
inductive LayoutError where
  /-- The layout asks for a zone. -/
  | zoned (layout : String)
  /-- A percent sign stands before something that is no field. -/
  | badField (field : Char) (layout : String)
  /-- The layout ends in a percent sign. -/
  | strayPercent (layout : String)
  /-- The layout cannot be read at the beginning of the text. -/
  | mismatch (text layout : String)
  /-- The layout leaves a part of the text. -/
  | leftover (rest : String)
  /-- A name was read from letters that only resemble its own. -/
  | unlistedName (name : String)
  /-- The year has no dates. -/
  | noSuchYear (year : Nat)
  /-- The month has no such day. -/
  | noSuchDay
  /-- The second is a leap second. -/
  | leapSecond
  /-- A field stands in the layout twice: as two groups of the pattern that the layout
  stands for, the second of which is named at a place of the pattern. -/
  | repeated (letter : Char) (group first place : Nat)
  /-- The year of the weeks is given without a week or without a day of the week. -/
  | lonelyWeekYear
  /-- The year of the weeks is given with a day of the year. -/
  | weekYearWithDay
  /-- The week is given without its year and without a day of the week. -/
  | lonelyWeek
  /-- The week is given with a day of the week and without its year. -/
  | weekWithoutYear
  /-- The year of the weeks has no dates. -/
  | noSuchWeekYear (year : Nat)
  /-- The year has no such week. -/
  | noSuchWeek (week : Nat)
deriving DecidableEq

/-- The wording of a text that denotes no moment. -/
def LayoutError.message : LayoutError → String
  | .zoned layout => "Cannot use strptime_utc with timezone-aware format " ++ layout
  | .badField field layout =>
    "'" ++ field.toString ++ "' is a bad directive in format '" ++ layout ++ "'"
  | .strayPercent layout => "stray % in format '" ++ layout ++ "'"
  | .mismatch text layout =>
    "time data " ++ Text.quoted text ++ " does not match format " ++ Text.quoted layout
  | .leftover rest => "unconverted data remains: " ++ rest
  | .unlistedName name => Text.quoted name ++ " is not in list"
  | .noSuchYear year => "year " ++ toString year ++ " is out of range"
  | .noSuchDay => "day is out of range for month"
  | .leapSecond => "second must be in 0..59"
  | .repeated letter group first place =>
    "redefinition of group name '" ++ letter.toString ++ "' as group " ++ toString group
      ++ "; was group " ++ toString first ++ " at position " ++ toString place
  | .lonelyWeekYear =>
    "ISO year directive '%G' must be used with the ISO week directive '%V' and a weekday directive "
      ++ "('%A', '%a', '%w', or '%u')."
  | .weekYearWithDay =>
    "Day of the year directive '%j' is not compatible with ISO year directive '%G'. "
      ++ "Use '%Y' instead."
  | .lonelyWeek =>
    "ISO week directive '%V' must be used with the ISO year directive '%G' and a weekday directive "
      ++ "('%A', '%a', '%w', or '%u')."
  | .weekWithoutYear =>
    "ISO week directive '%V' is incompatible with the year directive '%Y'. "
      ++ "Use the ISO year '%G' instead."
  | .noSuchWeekYear year => "Year is out of range: " ++ toString year
  | .noSuchWeek week => "Invalid week: " ++ toString week

/-- A part of a moment that a layout names. -/
inductive Field where
  /-- The year with four digits. -/
  | year
  /-- The year within the century from 1969 to 2068. -/
  | shortYear
  | month
  | monthName
  | shortMonthName
  | day
  | dayOfYear
  | hour
  /-- The hour of half a day, 1 to 12. -/
  | halfDayHour
  /-- Before or after noon. -/
  | halfDay
  | minute
  | second
  /-- The microseconds, as the digits after a decimal point. -/
  | fraction
  | weekdayName
  | shortWeekdayName
  /-- The day of the week, 0 for Sunday. -/
  | weekdayFromSunday
  /-- The day of the week, 1 for Monday. -/
  | weekdayFromMonday
  /-- The week of the year, where weeks begin on Sundays. -/
  | weekFromSunday
  /-- The week of the year, where weeks begin on Mondays. -/
  | weekFromMonday
  /-- The year that a numbered week belongs to, with four digits. -/
  | weekYear
  /-- The number of a week; the first one has the first Thursday of its year. -/
  | weekNumber
deriving DecidableEq

/-- A part of a layout. -/
inductive Piece where
  /-- A character that stands for itself, in either case. -/
  | letter (c : Char)
  /-- One or more blanks. -/
  | blanks
  | field (f : Field)
deriving DecidableEq

/-- What one character of a field may be. -/
inductive Cell where
  /-- A character between two given ones. -/
  | span (first last : Char)
  /-- A decimal digit of any script. -/
  | digit
deriving DecidableEq

/-- The cell holds only this character. -/
def Cell.only (c : Char) : Cell := .span c c

/-- A character fits a cell. -/
def Cell.holds (c : Char) : Cell → Bool
  | .span first last => first ≤ c && c ≤ last
  | .digit => Text.isDigit c

/-- The names of the months, January first. -/
def monthNames : List String :=
  ["january", "february", "march", "april", "may", "june", "july", "august", "september",
    "october", "november", "december"]

/-- The names of the days of the week, Monday first. -/
def weekdayNames : List String :=
  ["monday", "tuesday", "wednesday", "thursday", "friday", "saturday", "sunday"]

/-- The first three letters of a name. -/
def shortName (name : String) : String := String.ofList (name.toList.take 3)

/-- The names a field is chosen from, in the order of their numbers. -/
def Field.names : Field → List String
  | .monthName => monthNames
  | .shortMonthName => monthNames.map shortName
  | .weekdayName => weekdayNames
  | .shortWeekdayName => weekdayNames.map shortName
  | .halfDay => ["am", "pm"]
  | _ => []

/-- The rows of characters that a field of digits may be read from, in the order
in which they are tried. -/
def Field.alternatives : Field → List (List Cell)
  | .year => [[.digit, .digit, .digit, .digit]]
  | .shortYear => [[.digit, .digit]]
  | .month => [[.only '1', .span '0' '2'], [.only '0', .span '1' '9'], [.span '1' '9']]
  | .day =>
    [[.only '3', .span '0' '1'], [.span '1' '2', .digit], [.only '0', .span '1' '9'],
      [.span '1' '9'], [.only ' ', .span '1' '9']]
  | .dayOfYear =>
    [[.only '3', .only '6', .span '0' '6'], [.only '3', .span '0' '5', .digit],
      [.span '1' '2', .digit, .digit], [.only '0', .span '1' '9', .digit],
      [.only '0', .only '0', .span '1' '9'], [.span '1' '9', .digit],
      [.only '0', .span '1' '9'], [.span '1' '9']]
  | .hour => [[.only '2', .span '0' '3'], [.span '0' '1', .digit], [.digit]]
  | .halfDayHour => [[.only '1', .span '0' '2'], [.only '0', .span '1' '9'], [.span '1' '9']]
  | .minute => [[.span '0' '5', .digit], [.digit]]
  | .second => [[.only '6', .span '0' '1'], [.span '0' '5', .digit], [.digit]]
  | .fraction => [6, 5, 4, 3, 2, 1].map fun n => List.replicate n (.span '0' '9')
  | .weekdayFromSunday => [[.span '0' '6']]
  | .weekdayFromMonday => [[.span '1' '7']]
  | .weekFromSunday | .weekFromMonday =>
    [[.only '5', .span '0' '3'], [.span '0' '4', .digit], [.digit]]
  | .weekYear => [[.digit, .digit, .digit, .digit]]
  | .weekNumber =>
    [[.only '5', .span '0' '3'], [.only '0', .span '1' '9'], [.span '1' '4', .digit], [.digit]]
  | _ => []

/-- The letter that stands for a field. -/
def Field.letter : Field → Char
  | .year => 'Y'
  | .shortYear => 'y'
  | .month => 'm'
  | .monthName => 'B'
  | .shortMonthName => 'b'
  | .day => 'd'
  | .dayOfYear => 'j'
  | .hour => 'H'
  | .halfDayHour => 'I'
  | .halfDay => 'p'
  | .minute => 'M'
  | .second => 'S'
  | .fraction => 'f'
  | .weekdayName => 'A'
  | .shortWeekdayName => 'a'
  | .weekdayFromSunday => 'w'
  | .weekdayFromMonday => 'u'
  | .weekFromSunday => 'U'
  | .weekFromMonday => 'W'
  | .weekYear => 'G'
  | .weekNumber => 'V'

/-- Every field. -/
def Field.all : List Field :=
  [.year, .shortYear, .month, .monthName, .shortMonthName, .day, .dayOfYear, .hour, .halfDayHour,
    .halfDay, .minute, .second, .fraction, .weekdayName, .shortWeekdayName, .weekdayFromSunday,
    .weekdayFromMonday, .weekFromSunday, .weekFromMonday, .weekYear, .weekNumber]

/-- There are no other fields. -/
theorem Field.mem_all (field : Field) : field ∈ all := by
  cases field <;> decide

/-- The pieces that a letter after a percent sign stands for. -/
def fieldPieces (c : Char) : Option (List Piece) :=
  match c with
  | 'X' => some clock
  | 'x' => some [.field .month, .letter '/', .field .day, .letter '/', .field .shortYear]
  | 'c' => some ([.field .shortWeekdayName, .blanks, .field .shortMonthName, .blanks,
      .field .day, .blanks] ++ clock ++ [.blanks, .field .year])
  | '%' => some [.letter '%']
  | c => (Field.all.find? fun field => field.letter == c).map fun field => [.field field]
where
  /-- Hours, minutes and seconds with colons between them. -/
  clock : List Piece :=
    [.field .hour, .letter ':', .field .minute, .letter ':', .field .second]

/-- A mark that patterns of characters are written with. -/
def isMark (c : Char) : Bool := "\\.^$*+?()\x7b\x7d[]|".toList.contains c

/-- The pieces of a layout written with percent signs; a row of blanks is one
piece. A percent sign before a blank or a mark that matching gives a meaning is
itself the bad field. -/
def pieces (layout : String) : List Char → Except LayoutError (List Piece)
  | [] => .ok []
  | ['%'] => .error (.strayPercent layout)
  | '%' :: c :: rest => do
    match fieldPieces c with
    | some found => return found ++ (← pieces layout rest)
    | none => .error (.badField (if Text.isBlank c || isMark c then '%' else c) layout)
  | c :: rest => do
    let later ← pieces layout rest
    if Text.isBlank c then
      return if later.head? = some .blanks then later else .blanks :: later
    else return .letter c :: later

/-- The layout holds a percent sign directly before `z` or `Z`. -/
def asksForZone : List Char → Bool
  | '%' :: c :: rest => c == 'z' || c == 'Z' || asksForZone (c :: rest)
  | _ :: rest => asksForZone rest
  | [] => false

/-! ## Patterns

The report on a field that stands in a layout twice counts places in the pattern that
the layout stands for: every field is a group of its alternatives, blanks are three
characters, and marks are escaped. -/

/-- The characters that a cell takes in a pattern. -/
def Cell.patternLength : Cell → Nat
  | .span first last => if first = last then 1 else 5
  | .digit => 2

/-- The characters that come before the name of a group. -/
def groupOpening : Nat := 4

/-- The sum of lengths. -/
def total (lengths : List Nat) : Nat := lengths.foldl Nat.add 0

/-- The characters that alternatives of given lengths take, with a bar between two. -/
def alternativesLength (lengths : List Nat) : Nat := total lengths + (lengths.length - 1)

/-- The characters that a field takes in a pattern. A fraction is one class of digits
with bounds for their number. -/
def Field.patternLength (field : Field) : Nat :=
  let body := match field with
    | .fraction => 10
    | field =>
      alternativesLength (field.names.map (·.length)
        ++ field.alternatives.map fun cells => total (cells.map Cell.patternLength))
  groupOpening + 2 + body + 1

/-- The characters that a piece takes in a pattern. -/
def Piece.patternLength : Piece → Nat
  | .letter c => if isMark c then 2 else 1
  | .blanks => 3
  | .field f => f.patternLength

/-- The first field that stands in the rest of a layout for the second time, where
`seen` are the fields before it, and `place` the length of the pattern before it. -/
def findRepeated (seen : List Field) (place : Nat) : List Piece → Option LayoutError
  | [] => none
  | .field f :: rest =>
    match seen.idxOf? f with
    | some first => some (.repeated f.letter (seen.length + 1) (first + 1) (place + groupOpening))
    | none => findRepeated (seen ++ [f]) (place + f.patternLength) rest
  | piece :: rest => findRepeated seen (place + piece.patternLength) rest

/-- The layout that a text with percent signs describes. -/
def ofText (layout : String) : Except LayoutError (List Piece) :=
  if asksForZone layout.toList then .error (.zoned layout)
  else do
    let pieces ← pieces layout layout.toList
    match findRepeated [] 0 pieces with
    | some repeated => .error repeated
    | none => return pieces

end BoardSearch.Layout
