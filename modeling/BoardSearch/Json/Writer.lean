import BoardSearch.Json.Basic
import BoardSearch.Number.Shortest
import BoardSearch.Text.Quoted

/-!
# Writing JSON

A document is written on one line or, with an indentation, with every item and
member on a line of its own. Texts are written in ASCII unless the style lets
other characters stand for themselves.

## Main definitions

* `Json.Style`: indentation, separators and the use of ASCII;
* `Json.escaped`: a text between double quotes;
* `Json.chars`, `Json.write`: the text of a document.

## Design notes

Numbers that are not finite are written with the three words that readers of
this dialect know, although they are no JSON numbers.
-/

namespace BoardSearch.Json

/-- How a document is written. -/
structure Style where
  /-- What a level of nesting is indented with, if lines are broken at all. -/
  indent : Option String
  /-- What stands between two items. -/
  itemSeparator : String
  /-- What stands between a name and its value. -/
  nameSeparator : String
  /-- Whether characters outside ASCII are written as escapes. -/
  ascii : Bool

namespace Style

/-- One line, with a space after commas and colons. -/
def line : Style := ⟨none, ", ", ": ", true⟩

/-- One line without spaces. -/
def compact : Style := ⟨none, ",", ":", true⟩

/-- A line for every item, indented by a text for each level. -/
def indented (indent : String) : Style := ⟨some indent, ",", ": ", true⟩

end Style

/-- A 16-bit unit as an escape. -/
def unitEscape (unit : Nat) : List Char := '\\' :: 'u' :: Text.hex 4 unit

/-- A character as one escaped unit, or as two beyond the first plane. -/
def unitEscapes (c : Char) : List Char :=
  if c.toNat < 0x10000 then unitEscape c.toNat
  else
    let offset := c.toNat - 0x10000
    unitEscape (0xD800 + offset / 0x400) ++ unitEscape (0xDC00 + offset % 0x400)

/-- A character inside a text. -/
def escapedChar (ascii : Bool) (c : Char) : List Char :=
  if c = '"' then ['\\', '"']
  else if c = '\\' then ['\\', '\\']
  else if c = '\n' then ['\\', 'n']
  else if c = '\r' then ['\\', 'r']
  else if c = '\t' then ['\\', 't']
  else if c = '\x0c' then ['\\', 'f']
  else if c = '\x08' then ['\\', 'b']
  else if c.toNat < 0x20 || (ascii && 0x7F ≤ c.toNat) then unitEscapes c
  else [c]

/-- A text between double quotes. -/
def escaped (ascii : Bool) (text : String) : List Char :=
  '"' :: text.toList.flatMap (escapedChar ascii) ++ ['"']

/-- A number of the binary64 format; the infinities and what is not a number are words. -/
def floatText : Binary64 → String
  | .nan => "NaN"
  | .infinite true => "-Infinity"
  | .infinite false => "Infinity"
  | x => x.text

/-- The break before a line at a level of nesting; nothing without an indentation. -/
def Style.newline (style : Style) (level : Nat) : List Char :=
  match style.indent with
  | none => []
  | some indent => '\n' :: (List.replicate level indent.toList).flatten

/-- Written items between brackets. -/
def Style.enclosed (style : Style) (level : Nat) (opening closing : Char)
    (items : List (List Char)) : List Char :=
  if items.isEmpty then [opening, closing]
  else
    let separator := style.itemSeparator.toList ++ style.newline (level + 1)
    opening :: style.newline (level + 1) ++ List.intercalate separator items
      ++ style.newline level ++ [closing]

mutual

/-- A document at a level of nesting. -/
def chars (style : Style) (level : Nat) : Json → List Char
  | .null => ['n', 'u', 'l', 'l']
  | .bool true => ['t', 'r', 'u', 'e']
  | .bool false => ['f', 'a', 'l', 's', 'e']
  | .int n => (toString n).toList
  | .float x => (floatText x).toList
  | .text s => escaped style.ascii s
  | .array items => style.enclosed level '[' ']' (itemChars style (level + 1) items)
  | .object members =>
    style.enclosed level '\x7b' '\x7d' (memberChars style (level + 1) members)
  | .vacated => '\x7b' :: style.newline (level + 1) ++ style.newline level ++ ['\x7d']
termination_by structural document => document

/-- The items of an array. -/
def itemChars (style : Style) (level : Nat) : List Json → List (List Char)
  | [] => []
  | item :: rest => chars style level item :: itemChars style level rest
termination_by structural items => items

/-- The members of an object. -/
def memberChars (style : Style) (level : Nat) : List (String × Json) → List (List Char)
  | [] => []
  | (name, value) :: rest =>
    (escaped style.ascii name ++ style.nameSeparator.toList ++ chars style level value)
      :: memberChars style level rest
termination_by structural members => members

end

/-- The text of a document. -/
def write (style : Style) (document : Json) : String :=
  String.ofList (chars style 0 document)

end BoardSearch.Json
