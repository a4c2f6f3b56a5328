import BoardSearch.Keyed
import BoardSearch.Number.Binary64

/-!
# JSON documents

The tree of a JSON text. Integers and floats are kept apart, because they are
written apart; the members of an object stay in the order they are written in.

## Main definitions

* `Json`: the documents;
* `Json.field?`: a member of an object.
-/

namespace BoardSearch

/-- A JSON document. -/
inductive Json where
  | null
  | bool (b : Bool)
  | int (n : Int)
  | float (x : Binary64)
  | text (s : String)
  | array (items : List Json)
  | object (members : List (String × Json))
  /-- An object whose members have all been left out, which is still written over
  several lines where lines are broken. -/
  | vacated

namespace Json

instance : Inhabited Json := ⟨.null⟩

/-- A member of an object; other documents have none. -/
def field? (name : String) : Json → Option Json
  | .object members => Keyed.find? name members
  | _ => none

/-- The items of an array; other documents have none. -/
def items : Json → List Json
  | .array items => items
  | _ => []

/-- The text that a document is. -/
def asText? : Json → Option String
  | .text s => some s
  | _ => none

/-- The integer that a document is. -/
def asInt? : Json → Option Int
  | .int n => some n
  | _ => none

end Json

end BoardSearch
