import BoardSearch.Failure
import BoardSearch.Value.Same
import BoardSearch.Value.Written

/-!
# Requests

A request is the mapping from metatag names to values that a search is compiled
from. Each accessor asks for a value of one shape and takes a value of any other
shape for absent, so a metatag that makes no sense is ignored.

## Main definitions

* `Request`: the metatags in order;
* `Request.scalar?`, `Request.range?`, `Request.values?`, `Request.tags?`: the
  accessors for the four shapes;
* `Request.integer`: the integer that a scalar begins with.
-/

namespace BoardSearch

/-- The metatags of a search, each name at most once. -/
structure Request where
  metatags : List (String × Value)

namespace Request

/-- The value of a metatag, of whatever shape. -/
def get? (request : Request) (name : String) : Option Value :=
  Keyed.find? name request.metatags

/-- A metatag is there. -/
def has (request : Request) (name : String) : Bool := (request.get? name).isSome

/-- The names of the metatags. -/
def names (request : Request) : List String := request.metatags.map (·.1)

/-- The scalar that a value is. The empty text counts as missing, and so does the
absent value. -/
def scalarOf? : Value → Option Value
  | .null | .range _ _ _ | .tags _ _ _ | .mapping _ | .list _ | .tuple _ | .set _ => none
  | .text s => if s = "" then none else some (.text s)
  | value => some value

/-- A single value, such as a rating. -/
def scalar? (request : Request) (name : String) : Option Value :=
  (request.get? name).bind scalarOf?

/-- The integer that a scalar begins with, if it begins with one. A number of the
binary64 format is read as the text it is shown with. -/
def integerOf? : Value → Except Failure (Option Int)
  | .bool b => .ok (some (if b then 1 else 0))
  | .int n => .ok (some n)
  | value => do
    match Text.Numeral.ofPrefix? (← value.written).toList with
    | none => return none
    | some numeral => (numeral.toInt.map some).mapError .numeral

/-- The integer that a metatag begins with, if it is a scalar that does. -/
def integer? (request : Request) (name : String) : Except Failure (Option Int) :=
  match request.scalar? name with
  | none => .ok none
  | some value => integerOf? value

/-- The integer that a metatag begins with, or else `default`. -/
def integer (request : Request) (name : String) (default : Int) : Except Failure Int :=
  (request.integer? name).map (·.getD default)

/-- A range condition. -/
def range? (request : Request) (name : String) : Option RangeCondition :=
  (request.get? name).bind RangeCondition.ofValue?

/-- The items of a list or a tuple. -/
def valuesOf? : Value → Option (List Value)
  | .list items | .tuple items => some items
  | _ => none

/-- A list of values, such as the posts of a pool. -/
def values? (request : Request) (name : String) : Option (List Value) :=
  (request.get? name).bind valuesOf?

/-- A list of values, which is empty where there is none. -/
def values (request : Request) (name : String) : List Value := (request.values? name).getD []

/-- A grouping of tags. -/
def tags? (request : Request) (name : String) : Option TagGrouping :=
  (request.get? name).bind TagGrouping.ofValue?

/-- The request as a value. -/
def toValue (request : Request) : Value := .request request.metatags

end Request

end BoardSearch
