import BoardSearch.Failure
import BoardSearch.Value.Same

/-!
# Kinds of queries

The search engine knows a fixed number of kinds of queries, and of functions that
score. Some of their parameters are queries themselves.

## Main definitions

* `Query.kinds`, `Query.scoreKinds`: the names of the kinds;
* `Query.ParameterForm`: what a parameter holds;
* `Query.parameterForm`: what a parameter of a query holds;
* `Query.kindOf`: the kind that a value names.
-/

namespace BoardSearch.Query

/-- The kinds that are made of other queries, each with the parameters that are a query
and those that are several queries. -/
def compoundKinds : List (String × List String × List String) :=
  [("bool", [], ["must", "should", "must_not", "filter"]),
    ("function_score", ["query", "filter"], []),
    ("boosting", ["positive", "negative"], []),
    ("constant_score", ["query", "filter"], []),
    ("dis_max", [], ["queries"]),
    ("filtered", ["query", "filter"], []),
    ("indices", ["query", "no_match_query"], []),
    ("nested", ["query"], []),
    ("has_child", ["query"], []),
    ("has_parent", ["query"], []),
    ("top_children", ["query"], []),
    ("span_first", ["match"], []),
    ("span_multi", ["match"], []),
    ("span_near", [], ["clauses"]),
    ("span_not", ["exclude", "include"], []),
    ("span_or", [], ["clauses"]),
    ("field_masking_span", ["query"], []),
    ("span_containing", ["little", "big"], []),
    ("span_within", ["little", "big"], []),
    ("script_score", ["query"], [])]

/-- The kinds that are not made of other queries. -/
def simpleKinds : List String :=
  ["match_all", "match_none", "combined_fields", "common", "distance_feature", "exists", "fuzzy",
    "fuzzy_like_this", "fuzzy_like_this_field", "geo_bounding_box", "geo_distance",
    "geo_distance_range", "geo_polygon", "geo_shape", "geohash_cell", "ids", "intervals", "knn",
    "limit", "match", "match_bool_prefix", "match_phrase", "match_phrase_prefix",
    "more_like_this", "more_like_this_field", "multi_match", "parent_id", "percolate", "prefix",
    "query_string", "range", "rank_feature", "regexp", "script", "shape", "simple_query_string",
    "span_term", "template", "term", "terms", "terms_set", "type", "wildcard", "wrapper"]

/-- The kinds of queries. -/
def kinds : List String := compoundKinds.map (·.1) ++ simpleKinds

/-- The kinds of functions that score. -/
def scoreKinds : List String :=
  ["script_score", "boost_factor", "random_score", "field_value_factor", "linear", "gauss", "exp"]

/-- What a parameter holds. -/
inductive ParameterForm where
  | plain
  | query
  | queries
  | functions
deriving DecidableEq

/-- What a parameter of a query holds. -/
def parameterForm (kind name : String) : ParameterForm :=
  if kind = "function_score" && name = "functions" then .functions
  else
    match Keyed.find? kind compoundKinds with
    | some (single, several) =>
      if single.contains name then .query
      else if several.contains name then .queries
      else .plain
    | none => .plain

/-- The kind that a value names, among the kinds of a family. -/
def kindOf (family : Failure.ClauseFamily) (known : List String) (name : Value) :
    Except Failure String :=
  match name.asText? with
  | some kind => if known.contains kind then .ok kind else .error (.unknownKind kind family)
  | none =>
    if name.hashable then .error (.unknownKind name.shown family) else .error .mistyped

end BoardSearch.Query
