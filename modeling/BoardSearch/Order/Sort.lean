import BoardSearch.Failure
import BoardSearch.Order.Token

/-!
# Sort keys

A sort order is a list of keys, the most significant one first. A key is a field
with a direction and, if need be, the place of posts that lack the field.

## Main definitions

* `SortDirection.ofValue`, `MissingValues.ofValue`: the readings of the two words;
* `SortKey`: a key;
* `SortKey.toValue`: the key as the engine is given it;
* `SortKey.tiesById`: a field, with the identifier to break ties.
-/

namespace BoardSearch

/-- The direction that a value is the word for. -/
def SortDirection.ofValue (value : Value) : Except Failure SortDirection :=
  match all.find? fun direction => value.isText direction.text with
  | some direction => .ok direction
  | none => .error (.noMember value.quoted .sortDirection)

/-- Where posts go that have no value to sort by. -/
inductive MissingValues where
  | first
  | last
deriving DecidableEq

/-- The place of missing values as it is written. -/
def MissingValues.text : MissingValues → String
  | first => "_first"
  | last => "_last"

/-- Every place. -/
def MissingValues.all : List MissingValues := [first, last]

/-- The place that a value is the word for. -/
def MissingValues.ofValue (value : Value) : Except Failure MissingValues :=
  match all.find? fun place => value.isText place.text with
  | some place => .ok place
  | none => .error (.noMember value.quoted .missingValues)

/-- One key of a sort order. -/
structure SortKey where
  field : String
  direction : SortDirection
  missing : Option MissingValues
deriving DecidableEq

namespace SortKey

/-- A field in ascending order. -/
def asc (field : String) : SortKey := ⟨field, .asc, none⟩

/-- A field in descending order. -/
def desc (field : String) : SortKey := ⟨field, .desc, none⟩

/-- The key with posts that lack the field in a stated place. -/
def placing (key : SortKey) (missing : MissingValues) : SortKey :=
  { key with missing := some missing }

/-- A field, and the identifier in the same direction to break ties. -/
def tiesById (field : String) (direction : SortDirection) : List SortKey :=
  [⟨field, direction, none⟩, ⟨"id", direction, none⟩]

/-- The key as the engine is given it. -/
def toValue (key : SortKey) : Value :=
  let direction := Value.text key.direction.text
  match key.missing with
  | none => .record [(key.field, direction)]
  | some missing =>
    .record [(key.field, .record [("order", direction), ("missing", .text missing.text)])]

end SortKey

end BoardSearch
