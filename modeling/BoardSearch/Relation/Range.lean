import BoardSearch.Query.Basic

/-!
# Ranges

The clauses that a range condition contributes for a field.

## Main definitions

* `RangeCondition.clauses`: the clauses of a condition.

## Design notes

A date or a moment stands for the whole of its calendar day when it is asked for
by equality.
-/

namespace BoardSearch

namespace Value

/-- The first moment of the calendar day of a date or a moment; other values stay. -/
def dayBegins : Value → Value
  | .date d => .moment d.begins
  | .moment m => .moment m.dayBegins
  | value => value

/-- The last moment of the calendar day of a date or a moment; other values stay. -/
def dayEnds : Value → Value
  | .date d => .moment d.ends
  | .moment m => .moment m.dayEnds
  | value => value

/-- The members of a collection; other values have none. -/
def members? : Value → Option (List Value)
  | .list items | .tuple items | .set items | .frozenSet items => some items
  | _ => none

end Value

namespace RangeCondition

/-- The clauses of a condition on a field. There are none without a bound, nor
where a collection of bounds is called for and the bound is no collection. -/
def clauses (condition : RangeCondition) (field : String) : List Query :=
  if condition.bound.isNull then []
  else
    match condition.operator with
    | .eq =>
      if condition.comparesTimes then
        [.range field "gte" condition.bound.dayBegins, .range field "lte" condition.bound.dayEnds]
      else [.term field condition.bound]
    | .gt => [.range field "gt" condition.bound]
    | .gte => [.range field "gte" condition.bound]
    | .lt => [.range field "lt" condition.bound]
    | .lte => [.range field "lte" condition.bound]
    | .oneOf =>
      match condition.bound.members? with
      | some bounds => [.oneOf field bounds]
      | none => []
    | .between => [.range field "gte" condition.bound, .range field "lte" condition.upper]

end RangeCondition

end BoardSearch
