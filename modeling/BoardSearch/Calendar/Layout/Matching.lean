import BoardSearch.Calendar.Layout.Basic

/-!
# Reading texts under layouts

A field can be read from a text in several ways, which are tried in a fixed order;
the first way in which the whole layout can be read counts.

## Main definitions

* `Layout.Reading`: what a field was read as, and whether it is spelled like that;
* `Layout.Field.readings`, `Layout.Piece.readings`: the ways to read a field or a piece;
* `Layout.read?`: the first way to read a layout at the beginning of a text.

## Design notes

Letters are compared without regard to case. A digit that a row of characters
does not name may be of any script. A name may be read from letters that resemble
its own, such as the long s; it is then found in no list of names.
-/

namespace BoardSearch.Layout

/-- The text after a row of cells, if it begins with characters that fit. -/
def readCells : List Cell → List Char → Option (List Char × List Char)
  | [], text => some ([], text)
  | _ :: _, [] => none
  | cell :: cells, c :: text =>
    if cell.holds c then
      (readCells cells text).map fun (read, rest) => (c :: read, rest)
    else none

/-- The text after a name, if it begins with it in either case. -/
def readName : List Char → List Char → Option (List Char)
  | [], text => some text
  | _ :: _, [] => none
  | n :: name, c :: text => if Text.sameLetter n c then readName name text else none

/-- What a field was read as: the value of its digits, or the number of its name. -/
structure Reading where
  field : Field
  /-- The characters that were read. -/
  text : List Char
  value : Nat
deriving DecidableEq

/-- The small form of a name that was read and is not in the list of its names. -/
def Reading.unlisted? (reading : Reading) : Option String :=
  let name := Text.lowerCase (String.ofList reading.text)
  if reading.field.names.isEmpty || reading.field.names.contains name then none else some name

/-- The value of the characters of a field. The digits of a fraction count from
the decimal point. -/
def valueOf (field : Field) (read : List Char) : Nat :=
  let digits := read.filterMap Text.digitValue?
  match field with
  | .fraction => Text.positional digits * Nat.pow 10 (6 - digits.length)
  | _ => Text.positional digits

/-- The ways to read a field at the beginning of a text, in order. Longer names
come before shorter ones. -/
def Field.readings (field : Field) (text : List Char) : List (Reading × List Char) :=
  let byLength := field.names.zipIdx.mergeSort fun a b => b.1.length ≤ a.1.length
  let named := byLength.filterMap fun (name, number) =>
    (readName name.toList text).map fun rest => (⟨field, text.take name.length, number⟩, rest)
  let numbered := field.alternatives.filterMap fun cells =>
    (readCells cells text).map fun (read, rest) => (⟨field, read, valueOf field read⟩, rest)
  named ++ numbered

/-- The ways to skip one or more blanks, the longest first. -/
def skipBlanks : List Char → List (List Char)
  | [] => []
  | c :: text => if Text.isBlank c then skipBlanks text ++ [text] else []

/-- The ways to read a piece at the beginning of a text, in order. -/
def Piece.readings (piece : Piece) (text : List Char) : List (List Reading × List Char) :=
  match piece with
  | .letter l =>
    match text with
    | c :: rest => if Text.sameLetter l c then [([], rest)] else []
    | [] => []
  | .blanks => (skipBlanks text).map fun rest => ([], rest)
  | .field f => (f.readings text).map fun (reading, rest) => ([reading], rest)

/-- The first way to read all pieces at the beginning of a text, with the rest
of the text. -/
def read? : List Piece → List Char → Option (List Reading × List Char)
  | [], text => some ([], text)
  | piece :: pieces, text =>
    (piece.readings text).findSome? fun (read, rest) =>
      (read? pieces rest).map fun (later, after) => (read ++ later, after)

end BoardSearch.Layout
