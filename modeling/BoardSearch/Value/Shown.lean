import BoardSearch.Number.Shortest
import BoardSearch.Text.Quoted
import BoardSearch.Value.Basic

/-!
# Values as text

A value has two texts. The quoted one tells values of different forms apart and
is used in error messages; the plain one is used where a value becomes part of a
pattern or of another text. They differ for texts, operators, dates and moments
only, and only at the top: inside a list every value is quoted.

## Main definitions

* `Value.quoted`: the quoted text;
* `Value.shown`: the plain text;
* `Value.kindName`: the name of the form a value has.
-/

namespace BoardSearch

/-- Texts with a comma between them. -/
def commaSeparated (texts : List String) : String := String.intercalate ", " texts

/-- A truth value as text. -/
def boolText (b : Bool) : String := if b then "True" else "False"

/-- An operator as a quoted value. -/
def RangeOperator.quoted (op : RangeOperator) : String :=
  let name := match op with
    | .oneOf => "in_"
    | _ => op.text
  "<RangeOperator." ++ name ++ ": " ++ Text.quoted op.text ++ ">"

/-- A date as a quoted value. -/
def Date.quoted (d : Date) : String :=
  "datetime.date(" ++ commaSeparated ([d.year, d.month, d.day].map toString) ++ ")"

/-- The zone of a moment as a quoted value. An offset is given in seconds of the
day, with a day taken off for a clock behind UTC. -/
def Zone.quoted? : Zone → Option String
  | .unstated => none
  | .utc => some "<UTC>"
  | .offset minutes =>
    if minutes = 0 then some "datetime.timezone.utc"
    else
      let seconds := toString (minutes % 1440 * 60)
      let days := if minutes < 0 then "days=-1, " else ""
      some ("datetime.timezone(datetime.timedelta(" ++ days ++ "seconds=" ++ seconds ++ "))")

/-- A moment as a quoted value. Seconds and microseconds are left out from the
end where they are zero. -/
def Moment.quoted (m : Moment) : String :=
  let time := [m.time.hour, m.time.minute]
    ++ (if m.time.second = 0 ∧ m.time.microsecond = 0 then [] else [m.time.second])
    ++ (if m.time.microsecond = 0 then [] else [m.time.microsecond])
  let parts := ([m.date.year, m.date.month, m.date.day] ++ time).map toString
  let zone := (m.zone.quoted?.map fun zone => ["tzinfo=" ++ zone]).getD []
  "datetime.datetime(" ++ commaSeparated (parts ++ zone) ++ ")"

/-- A tuple of quoted values; the comma stays where there is only one. -/
def tupleText : List String → String
  | [text] => "(" ++ text ++ ",)"
  | texts => "(" ++ commaSeparated texts ++ ")"

/-- A set of quoted values. -/
def setText (texts : List String) : String :=
  if texts.isEmpty then "set()" else "\x7b" ++ commaSeparated texts ++ "\x7d"

/-- A set that can be an entry of a set, of quoted values. -/
def frozenSetText (texts : List String) : String :=
  if texts.isEmpty then "frozenset()"
  else "frozenset(\x7b" ++ commaSeparated texts ++ "\x7d)"

/-- A mapping of quoted entries. -/
def mappingText (texts : List String) : String := "\x7b" ++ commaSeparated texts ++ "\x7d"

namespace Value

mutual

/-- A value as it is quoted in messages. -/
def quoted : Value → String
  | .null => "None"
  | .bool b => boolText b
  | .int n => toString n
  | .float x => x.text
  | .text s => Text.quoted s
  | .bytes octets => Text.quotedBytes octets
  | .date d => d.quoted
  | .moment m => m.quoted
  | .list items => "[" ++ commaSeparated (quotedItems items) ++ "]"
  | .tuple items => tupleText (quotedItems items)
  | .set items => setText (quotedItems items)
  | .frozenSet items => frozenSetText (quotedItems items)
  | .mapping entries => mappingText (quotedEntries entries)
  | .operator op => op.quoted
  | .range op bound upper =>
    "RangeCondition(operator=" ++ op.quoted ++ ", value=" ++ quoted bound
      ++ ", value2=" ++ quoted upper ++ ")"
  | .tags included excluded related =>
    "TagGrouping(include=" ++ tupleText (quotedItems included)
      ++ ", exclude=" ++ tupleText (quotedItems excluded)
      ++ ", related=" ++ tupleText (quotedItems related) ++ ")"
  | .request entries =>
    "ParsedRequest(metatags=mappingproxy(" ++ mappingText (quotedFields entries) ++ "))"
termination_by structural value => value

/-- The values of a row, quoted. -/
def quotedItems : List Value → List String
  | [] => []
  | value :: rest => quoted value :: quotedItems rest
termination_by structural values => values

/-- The entries of a mapping, quoted. -/
def quotedEntries : List (Value × Value) → List String
  | [] => []
  | (key, value) :: rest => (quoted key ++ ": " ++ quoted value) :: quotedEntries rest
termination_by structural entries => entries

/-- The metatags of a request, quoted. -/
def quotedFields : List (String × Value) → List String
  | [] => []
  | (key, value) :: rest => (Text.quoted key ++ ": " ++ quoted value) :: quotedFields rest
termination_by structural entries => entries

end

/-- A value as a text of its own. -/
def shown : Value → String
  | .text s => s
  | .operator op => op.text
  | .date d => d.text
  | .moment m => m.textWith ' '
  | value => value.quoted

/-- The name of the form a value has, as messages give it. -/
def kindName : Value → String
  | .null => "NoneType"
  | .bool _ => "bool"
  | .int _ => "int"
  | .float _ => "float"
  | .text _ => "str"
  | .bytes _ => "bytes"
  | .date _ => "datetime.date"
  | .moment _ => "datetime.datetime"
  | .list _ => "list"
  | .tuple _ => "tuple"
  | .set _ => "set"
  | .frozenSet _ => "frozenset"
  | .mapping _ => "dict"
  | .operator _ => "RangeOperator"
  | .range _ _ _ => "RangeCondition"
  | .tags _ _ _ => "TagGrouping"
  | .request _ => "ParsedRequest"

end Value

end BoardSearch
