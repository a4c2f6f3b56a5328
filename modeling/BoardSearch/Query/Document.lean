import BoardSearch.Keyed
import BoardSearch.Query.Basic

/-!
# Queries as mappings

A query is written as a mapping with one entry, from its kind to its parameters.
Parts that hold no queries or no functions are left out.

## Main definitions

* `Query.toValue`: the mapping that a query is written as.
-/

namespace BoardSearch

/-- The mapping of a clause. -/
def Clause.toValue : Clause → Value
  | .term field value => .record [("term", .record [(field, value)])]
  | .matching field value => .record [("match", .record [(field, value)])]
  | .range field operation bound =>
    .record [("range", .record [(field, .record [(operation, bound)])])]
  | .present field => .record [("exists", .record [("field", .text field)])]
  | .wildcard field pattern => .record [("wildcard", .record [(field, .text pattern)])]
  | .beginsWith field text => .record [("prefix", .record [(field, .text text)])]
  | .oneOf field values => .record [("terms", .record [(field, .list values)])]
  | .other kind parameters => .record [(kind, parameters)]

namespace Query

/-- A named list of values, if it holds any. -/
def part (name : String) (values : List Value) : List (String × Value) :=
  if values.isEmpty then [] else [(name, .list values)]

/-- A named value, if there is one. -/
def onePart (name : String) (value : Option Value) : List (String × Value) :=
  (value.map fun value => (name, value)).toList

/-- Parameters with further ones, in the order of a query. -/
def Details.arrange (details : Details) (parameters : List (String × Value)) : Value :=
  let all := parameters ++ details.settings
  let first := details.order.filterMap fun name => (Keyed.find? name all).map (name, ·)
  .record (first ++ all.filter fun parameter => !details.order.contains parameter.1)

mutual

/-- The mapping of a query. -/
def toValue : Query → Value
  | .clause single => single.toValue
  | .matchAll settings => .record [("match_all", .record settings)]
  | .matchNone settings => .record [("match_none", .record settings)]
  | .bool should must mustNot filter minimum details =>
    .record [("bool", details.arrange (part "should" (toValues should)
      ++ part "must" (toValues must) ++ part "must_not" (toValues mustNot)
      ++ part "filter" (toValues filter) ++ onePart "minimum_should_match" minimum))]
  | .functionScore query filter functions details =>
    .record [("function_score", details.arrange (onePart "query" (toValue? query)
      ++ onePart "filter" (toValue? filter) ++ part "functions" functions))]
termination_by structural query => query

/-- The mapping of a query, if there is one. -/
def toValue? : Option Query → Option Value
  | none => none
  | some query => some (toValue query)
termination_by structural query => query

/-- The mappings of queries. -/
def toValues : List Query → List Value
  | [] => []
  | query :: rest => toValue query :: toValues rest
termination_by structural queries => queries

end

end Query

end BoardSearch
