import BoardSearch.Search
import BoardSearch.Search.Aggregation

/-!
# Bodies of searches

A search is read from its body. The parts of a body that hold queries and
aggregations are written anew, and parts that say nothing are left out. Everything
that is not known here is kept as it is.

## Main definitions

* `Search.indicesOf`: the indices that a value names;
* `Search.ofBody`: the search with a given body.
-/

namespace BoardSearch.Search

/-- The items of a list, or the value by itself. -/
def listed : Value → List Value
  | .list items | .tuple items => items
  | value => [value]

/-- The indices that a value names; none where it says nothing. -/
def indicesOf : Value → Option (List Value)
  | .list items | .tuple items => some items
  | value => if value.truthy then some [value] else none

/-- The value under a name, and the entries without it. -/
def takeEntry (name : String) (entries : List (Value × Value)) :
    Option Value × List (Value × Value) :=
  (Value.find? name entries, Keyed.remove (.text name) entries)

/-- A value of a form of which a part can be taken. -/
def isRow : Value → Bool
  | .text _ | .operator _ | .bytes _ | .list _ | .tuple _ => true
  | _ => false

/-- A value of a form that can be changed without changing the one it comes from. -/
def isContainer : Value → Bool
  | .list _ | .set _ | .frozenSet _ | .mapping _ => true
  | _ => false

/-- The flaw of a sort that is no row. -/
def sortFlaw (sort : Option Value) : Option Flaw :=
  if sort.all isRow then none else some .noRow

/-- The flaw of a part that is no container. -/
def containerFlaw (part : Option Value) : Option Flaw :=
  if part.all isContainer then none else some .noContainer

/-- A named part, unless it says nothing. -/
def partOf (name : String) (value : Option Value) : List (Value × Value) :=
  match value with
  | some value => if value.truthy then [(.text name, value)] else []
  | none => []

/-- The aggregations, as they are written. -/
def readAggregations (value : Option Value) : Except Failure (Option Value) :=
  match value with
  | some value => if value.truthy then (Aggregation.readAll value).map some else .ok none
  | none => .ok none

/-- What is marked in documents: the fields, and how that is done. -/
def readHighlight : Option Value → Except Failure (Option (Value × List (Value × Value)))
  | none => .ok none
  | some (.mapping entries) =>
    match takeEntry "fields" entries with
    | (some fields, rest) => .ok (some (fields, rest))
    | (none, _) => .error (.missingEntry "fields")
  | some (.list _) | some (.set _) => .error .mistyped
  | some _ => .error .noMapping

/-- What is marked, as it is written; nothing without fields. -/
def highlightPart (highlight : Option (Value × List (Value × Value))) :
    List (Value × Value) :=
  match highlight with
  | some (fields, rest) =>
    if fields.truthy then [(.text "highlight", .mapping ((.text "fields", fields) :: rest))]
    else []
  | none => []

/-- A suggester, with a text for it if it has none of its own. -/
def withText (text : Value) : Value → Except Failure Value
  | .mapping entries =>
    .ok (.mapping (if Keyed.has (.text "text") entries then entries
      else entries ++ [(.text "text", text)]))
  | _ => .error .noMapping

/-- The suggesters. A text beside them is for each of them. A value is asked whether
there is such a text, so it has to have items. -/
def readSuggesters : Value → Except Failure Value
  | .mapping entries =>
    match takeEntry "text" entries with
    | (some text, rest) => do
      return .mapping (← rest.mapM fun (name, value) => return (name, ← withText text value))
    | (none, _) => .ok (.mapping entries)
  | .bytes _ => .error .mistyped
  | value =>
    match value.items?, value with
    | none, _ => .error .mistyped
    | some items, .list _ | some items, .set _ =>
      if items.any (·.isText "text") then .error .mistyped else .ok value
    | some _, _ => .ok value

/-- The search with a given body. -/
def ofBody (indices : Option (List Value)) (body : Value) : Except Failure Search :=
  match body with
  | .mapping entries => do
    let (query, rest) := takeEntry "query" entries
    let query ← query.mapM Query.ofValue
    let (postFilter, rest) := takeEntry "post_filter" rest
    let postFilter ← postFilter.mapM fun value => (Query.ofValue value).map (·.toValue)
    let (older, rest) := takeEntry "aggregations" rest
    let (aggregations, rest) := takeEntry "aggs" rest
    let aggregations ← readAggregations (aggregations.or older)
    let (sort, rest) := takeEntry "sort" rest
    let (source, rest) := takeEntry "_source" rest
    let (highlight, rest) := takeEntry "highlight" rest
    let highlight ← readHighlight highlight
    let (suggesters, rest) := takeEntry "suggest" rest
    let suggesters ← suggesters.mapM readSuggesters
    let (scripts, rest) := takeEntry "script_fields" rest
    let flaw := (sortFlaw sort).or ((containerFlaw (highlight.map (·.1))).or
      ((containerFlaw suggesters).or (containerFlaw scripts)))
    let written := fun (name : String) (value : Option Value) =>
      (value.map fun value => (Value.text name, value)).toList
    let extra := written "post_filter" postFilter ++ written "aggs" aggregations ++ rest
      ++ highlightPart highlight ++ partOf "suggest" suggesters ++ partOf "script_fields" scripts
    return ⟨indices, query, (sort.map listed).getD [], extra, source, flaw⟩
  | .list _ | .set _ => .error .mistyped
  | _ => .error .noMapping

end BoardSearch.Search
