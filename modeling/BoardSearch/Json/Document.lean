import BoardSearch.Failure
import BoardSearch.Json.Writer
import BoardSearch.Value.Order

/-!
# Values as JSON documents

Every value but a range condition, a tag grouping and a request has a JSON form.
Rows of any kind become arrays, dates and moments their texts, bytes the UTF-8
text they encode. A key that is no text is written as one where JSON has a word
for it.

## Main definitions

* `Json.Choices`: what is done about keys, numbers and order;
* `Json.indentation`: the text that a level is indented by;
* `Value.document`: the document of a value;
* `Value.serialize`: its text;
* `Json.toValue`: the value that a document stands for.

## Design notes

An indentation is refused for its width where a text of so many spaces cannot be
named at all. Whether the machine has room for it is none of the writer's concern.
-/

namespace BoardSearch

/-- How values are turned into documents and written. -/
structure Json.Choices where
  style : Json.Style
  /-- Entries under a key without a JSON form are left out. -/
  skipKeys : Bool
  /-- Members are sorted by their keys. -/
  sortKeys : Bool
  /-- Numbers that are not finite are written. -/
  allowNonFinite : Bool

/-- One line, with every number written. -/
def Json.Choices.standard : Json.Choices := ⟨.line, false, false, true⟩

/-- The spaces of an indentation are fewer than this. -/
def Json.indentationBound : Nat := Nat.pow 2 63

/-- The indentation of so many spaces, which are none below zero. -/
def Json.indentation (width : Int) : Except Failure String :=
  if width < indentationBound then .ok (String.ofList (List.replicate width.toNat ' '))
  else .error .wideIndentation

namespace Value

/-- The failure of a number that is not finite. -/
def nonFinite (choices : Json.Choices) (x : Binary64) : Failure :=
  .nonFinite (if choices.style.indent.isSome then some x.text else none)

/-- A number of the binary64 format may be written. -/
def writable (choices : Json.Choices) (x : Binary64) : Bool :=
  choices.allowNonFinite || x.value?.isSome

/-- The name of a member; `none` for a key that is left out. -/
def memberName (choices : Json.Choices) (key : Value) : Except Failure (Option String) :=
  match key with
  | .text s => .ok (some s)
  | .operator op => .ok (some op.text)
  | .int n => .ok (some (toString n))
  | .bool b => .ok (some (if b then "true" else "false"))
  | .null => .ok (some "null")
  | .float x =>
    if writable choices x then .ok (some (Json.floatText x)) else .error (nonFinite choices x)
  | _ => if choices.skipKeys then .ok none else .error .mistyped

/-- Entries in the order in which they are written. -/
def inOrder {α : Type} (choices : Json.Choices) (entries : List (Value × α)) :
    Except Failure (List (Value × α)) :=
  if !choices.sortKeys then .ok entries
  else match sorted? entries with
    | some entries => .ok entries
    | none => .error .mistyped

/-- The members of an object, from entries whose values are documents already. -/
def members (choices : Json.Choices) :
    List (Value × Except Failure Json) → Except Failure (List (String × Json))
  | [] => .ok []
  | (key, document) :: rest => do
    match ← memberName choices key with
    | none => members choices rest
    | some name => return (name, ← document) :: (← members choices rest)

/-- The text that bytes encode. -/
def decoded (octets : List UInt8) : Except Failure String :=
  match String.fromUTF8? ⟨octets.toArray⟩ with
  | some s => .ok s
  | none => .error .undecodable

mutual

/-- The document of a value. The first fault in the order of writing counts. -/
def document (choices : Json.Choices) : Value → Except Failure Json
  | .null => .ok .null
  | .bool b => .ok (.bool b)
  | .int n => .ok (.int n)
  | .float x => if writable choices x then .ok (.float x) else .error (nonFinite choices x)
  | .text s => .ok (.text s)
  | .bytes octets => (decoded octets).map .text
  | .date d => .ok (.text d.text)
  | .moment m => .ok (.text m.requestText)
  | .list items | .tuple items | .set items | .frozenSet items =>
    (documents choices items).map .array
  | .mapping entries =>
    ((inOrder choices (documentEntries choices entries)).bind (members choices)).map
      fun members => if members.isEmpty && !entries.isEmpty then .vacated else .object members
  | .operator op => .ok (.text op.text)
  | .range _ _ _ | .tags _ _ _ | .request _ => .error .unserializable
termination_by structural value => value

/-- The documents of a row of values. -/
def documents (choices : Json.Choices) : List Value → Except Failure (List Json)
  | [] => .ok []
  | value :: rest => do return (← document choices value) :: (← documents choices rest)
termination_by structural values => values

/-- The entries of a mapping, each with the document of its value. -/
def documentEntries (choices : Json.Choices) :
    List (Value × Value) → List (Value × Except Failure Json)
  | [] => []
  | (key, value) :: rest => (key, document choices value) :: documentEntries choices rest
termination_by structural entries => entries

end

/-- The JSON text of a value. -/
def serialize (choices : Json.Choices) (value : Value) : Except Failure String :=
  (document choices value).map (Json.write choices.style)

end Value

namespace Json

mutual

/-- The value that a document stands for. -/
def toValue : Json → Value
  | .null => .null
  | .bool b => .bool b
  | .int n => .int n
  | .float x => .float x
  | .text s => .text s
  | .array items => .list (itemValues items)
  | .object members => .mapping (memberValues members)
  | .vacated => .mapping []
termination_by structural document => document

/-- The values of the items of an array. -/
def itemValues : List Json → List Value
  | [] => []
  | item :: rest => toValue item :: itemValues rest
termination_by structural items => items

/-- The entries of the members of an object. -/
def memberValues : List (String × Json) → List (Value × Value)
  | [] => []
  | (name, document) :: rest => (.text name, toValue document) :: memberValues rest
termination_by structural members => members

end

end Json

end BoardSearch
