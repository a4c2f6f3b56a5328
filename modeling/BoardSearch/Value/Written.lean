import BoardSearch.Failure

/-!
# Values written out

A text has the decimal digits of the integers in it, and no integer is written out
that has more than `Text.maxDigits` of them. So a value has a text only if the
integers in it are short enough.

## Main definitions

* `Value.hasText`: the integers in a value are short enough to be written out;
* `Value.written`: the plain text of a value, if it has one.
-/

namespace BoardSearch.Value

/-- An integer of at most `Text.maxDigits` digits. -/
def isShort (n : Int) : Bool := n.natAbs < Nat.pow 10 Text.maxDigits

mutual

/-- Every integer in a value is short enough to be written out. -/
def hasText : Value → Bool
  | .int n => isShort n
  | .list items | .tuple items | .set items | .frozenSet items => itemsHaveText items
  | .mapping entries => entriesHaveText entries
  | .range _ bound upper => hasText bound && hasText upper
  | .tags included excluded related =>
    itemsHaveText included && itemsHaveText excluded && itemsHaveText related
  | .request entries => fieldsHaveText entries
  | .null | .bool _ | .float _ | .text _ | .bytes _ | .date _ | .moment _ | .operator _ => true
termination_by structural value => value

/-- The values of a row can be written out. -/
def itemsHaveText : List Value → Bool
  | [] => true
  | value :: rest => hasText value && itemsHaveText rest
termination_by structural values => values

/-- The keys and values of a mapping can be written out. -/
def entriesHaveText : List (Value × Value) → Bool
  | [] => true
  | (key, value) :: rest => hasText key && hasText value && entriesHaveText rest
termination_by structural entries => entries

/-- The metatags of a request can be written out. -/
def fieldsHaveText : List (String × Value) → Bool
  | [] => true
  | (_, value) :: rest => hasText value && fieldsHaveText rest
termination_by structural entries => entries

end

/-- A value as a text of its own, if it can be written out. -/
def written (value : Value) : Except Failure String :=
  if value.hasText then .ok value.shown else .error (.numeral .unwritable)

end BoardSearch.Value
