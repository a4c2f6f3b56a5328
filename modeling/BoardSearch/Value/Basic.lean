import BoardSearch.Calendar.Moment
import BoardSearch.Number.Binary64

/-!
# Values

The values a search is asked with are loosely typed: a metatag may hold
anything that the tokenizer or a JSON reader hands over. `Value` is the closed
world of those values. Two of its forms, range conditions and tag groupings, are
what a request turns recognised tuples and mappings into.

## Main definitions

* `RangeOperator`: the comparisons a range condition can make;
* `Value`: the values;
* `RangeCondition`, `TagGrouping`: the two structured forms by themselves.

## Design notes

An operator counts as the text it is written with wherever texts are compared or
printed. A mapping keeps its entries in the order in which they were written,
under keys that are pairwise different.
-/

namespace BoardSearch

/-- The comparisons of a range condition. -/
inductive RangeOperator where
  | eq
  | gt
  | gte
  | lt
  | lte
  | oneOf
  | between
deriving DecidableEq

namespace RangeOperator

/-- The word for an operator. -/
def text : RangeOperator → String
  | eq => "eq"
  | gt => "gt"
  | gte => "gte"
  | lt => "lt"
  | lte => "lte"
  | oneOf => "in"
  | between => "between"

/-- Every operator. -/
def all : List RangeOperator := [eq, gt, gte, lt, lte, oneOf, between]

/-- The operator that a word stands for. -/
def ofText? (word : String) : Option RangeOperator :=
  all.find? fun op => op.text == word

/-- The operator of a word is the one written with that word. -/
theorem ofText?_text (op : RangeOperator) : ofText? op.text = some op := by
  cases op <;> decide

end RangeOperator

/-- A value of a metatag, or of a part of one. -/
inductive Value where
  /-- The absent value. -/
  | null
  | bool (b : Bool)
  | int (n : Int)
  | float (x : Binary64)
  | text (s : String)
  | bytes (octets : List UInt8)
  | date (d : Date)
  | moment (m : Moment)
  | list (items : List Value)
  | tuple (items : List Value)
  | set (items : List Value)
  /-- A set that can be an entry of another set. -/
  | frozenSet (items : List Value)
  | mapping (entries : List (Value × Value))
  | operator (op : RangeOperator)
  /-- A range condition with its bound and, for `between`, its upper bound. -/
  | range (op : RangeOperator) (bound upper : Value)
  /-- The tags of which one must match, none may match, and all must match. -/
  | tags (included excluded related : List Value)
  /-- The metatags of a whole request. -/
  | request (entries : List (String × Value))

namespace Value

instance : Inhabited Value := ⟨.null⟩

/-- The value is absent. -/
def isNull : Value → Bool
  | .null => true
  | _ => false

/-- The text that a value is, an operator being its word. -/
def asText? : Value → Option String
  | .text s => some s
  | .operator op => some op.text
  | _ => none

/-- The value is the given text. -/
def isText (word : String) (value : Value) : Bool :=
  value.asText? == some word

/-- The operator that a value names, by being it or its word. -/
def asOperator? : Value → Option RangeOperator
  | .text s => RangeOperator.ofText? s
  | .operator op => some op
  | _ => none

/-- The items of a value that has items: a text is the row of its characters, and
a mapping the row of its keys. -/
def items? : Value → Option (List Value)
  | .list items | .tuple items | .set items | .frozenSet items => some items
  | .text s => some (s.toList.map fun c => .text c.toString)
  | .operator op => some (op.text.toList.map fun c => .text c.toString)
  | .bytes octets => some (octets.map fun octet => .int octet.toNat)
  | .mapping entries => some (entries.map (·.1))
  | .request metatags => some (metatags.map fun entry => .text entry.1)
  | _ => none

mutual

/-- The number of rows and mappings that lie within each other. -/
def depth : Value → Nat
  | .list items | .tuple items | .set items | .frozenSet items => depthOfItems items + 1
  | .mapping entries => depthOfEntries entries + 1
  | _ => 0
termination_by structural value => value

/-- The greatest depth of the values of a row. -/
def depthOfItems : List Value → Nat
  | [] => 0
  | value :: rest => max (depth value) (depthOfItems rest)
termination_by structural values => values

/-- The greatest depth of the values of a mapping. -/
def depthOfEntries : List (Value × Value) → Nat
  | [] => 0
  | (_, value) :: rest => max (depth value) (depthOfEntries rest)
termination_by structural entries => entries

end

/-- A mapping with texts for keys. -/
def record (entries : List (String × Value)) : Value :=
  .mapping (entries.map fun entry => (.text entry.1, entry.2))

end Value

/-- A comparison against a numeric or temporal field. The upper bound matters
for `between` only. -/
structure RangeCondition where
  operator : RangeOperator
  bound : Value
  upper : Value

namespace RangeCondition

/-- The condition as a value. -/
def toValue (condition : RangeCondition) : Value :=
  .range condition.operator condition.bound condition.upper

/-- The condition that a value is. -/
def ofValue? : Value → Option RangeCondition
  | .range op bound upper => some ⟨op, bound, upper⟩
  | _ => none

/-- The bound is a date or a moment. -/
def comparesTimes (condition : RangeCondition) : Bool :=
  match condition.bound with
  | .date _ | .moment _ => true
  | _ => false

end RangeCondition

/-- The plain tags of a search: one of `included` must match, all of `related`,
and none of `excluded`. -/
structure TagGrouping where
  included : List Value
  excluded : List Value
  related : List Value

namespace TagGrouping

/-- The grouping as a value. -/
def toValue (grouping : TagGrouping) : Value :=
  .tags grouping.included grouping.excluded grouping.related

/-- The grouping that a value is. -/
def ofValue? : Value → Option TagGrouping
  | .tags included excluded related => some ⟨included, excluded, related⟩
  | _ => none

end TagGrouping

end BoardSearch
