import BoardSearch.Query.Document
import BoardSearch.Query.Kind

/-!
# Reading queries

A query is read from a mapping with one entry, from its kind to its parameters, or
from the name of its kind alone. A parameter that holds several queries may hold one
by itself.

## Main definitions

* `Query.readFunction`: the function that a value spells, as it is written;
* `Query.readParameter`: a parameter of a query;
* `Query.ofValue`: the query that a value spells.

## Design notes

Each reader takes the reader of the queries within as an argument, which
`Query.ofValueWithin` ties together up to a depth.
-/

namespace BoardSearch.Query

/-- How the queries within a query are read. -/
abbrev Reader := Value → Except Failure Query

/-- Parameters under their names, which have to be texts that are not reserved. -/
def namedParameters (entries : List (Value × Value)) :
    Except Failure (List (String × Value)) :=
  entries.mapM fun (key, value) =>
    match key.asText? with
    | some name => if reservedNames.contains name then .error .mistyped else .ok (name, value)
    | none => .error .mistyped

/-! ## Functions that score -/

/-- The parameters that stand beside a function and not within it. -/
def besideFunction : List String := ["query", "filter", "weight"]

/-- A parameter of a function. Queries within are written anew. -/
def functionParameter (inner : Reader) (name : String) (value : Value) : Except Failure Value :=
  if name = "query" || name = "filter" then (inner value).map (·.toValue) else .ok value

/-- A function as it is written. A factor by itself is written as its value. -/
def writtenFunction (kind : String) (parameters : List (String × Value)) : Value :=
  let beside := besideFunction.filterMap fun name =>
    (Keyed.find? name parameters).map (name, ·)
  let within := parameters.filter fun parameter => !besideFunction.contains parameter.1
  if kind = "boost_factor" then
    .record (onePart kind (Keyed.find? "value" within) ++ beside)
  else .record ((kind, .record within) :: beside)

/-- A function of a kind, with the parameters beside it and those within it. -/
def makeFunction (inner : Reader) (name : Value) (beside : List (String × Value))
    (within : List (Value × Value)) : Except Failure Value := do
  let kind ← kindOf .scoreFunction scoreKinds name
  let parameters := Keyed.ofEntries (beside ++ (← namedParameters within))
  let parameters ← (Keyed.ofEntries (parameters.map fun (name, value) =>
    (fieldPath name, value))).mapM fun (name, value) =>
      return (name, ← functionParameter inner name value)
  return writtenFunction kind parameters

/-- The function that a value spells, as it is written. Without a kind it is a
factor. -/
def readFunction (inner : Reader) (value : Value) : Except Failure Value :=
  match value with
  | .mapping entries =>
    let beside := besideFunction.filterMap fun name =>
      (Value.find? name entries).map (name, ·)
    let isBeside := fun (key : Value) => besideFunction.any fun name => key.isText name
    match entries.filter fun entry => !isBeside entry.1 with
    | [] => makeFunction inner (.text "boost_factor") beside []
    | [(name, .mapping within)] => makeFunction inner name beside within
    | [(name, value)] => makeFunction inner name beside [(.text "value", value)]
    | rest => .error (.surplusFunctions (Value.mapping rest).quoted)
  | name => makeFunction inner name [] []

/-! ## Queries -/

/-- The items of a row, or the value by itself. -/
def rowOf : Value → List Value
  | .list items | .tuple items => items
  | value => [value]

/-- A parameter that has been read. -/
inductive Parameter where
  | plain (value : Value)
  | query (query : Query)
  | queries (queries : List Query)
  | functions (functions : List Value)

/-- A parameter of a form. -/
def readParameter (inner : Reader) (form : ParameterForm) (value : Value) :
    Except Failure Parameter :=
  match form with
  | .plain => .ok (.plain value)
  | .query => (inner value).map .query
  | .queries => ((rowOf value).mapM inner).map .queries
  | .functions => ((rowOf value).mapM (readFunction inner)).map .functions

/-- A parameter as it is written, if it is. -/
def Parameter.toValue? : Parameter → Option Value
  | plain value => some value
  | query single => some single.toValue
  | queries all => if all.isEmpty then none else some (.list (toValues all))
  | functions all => if all.isEmpty then none else some (.list all)

/-- Parameters that have been read, by name. -/
abbrev Parameters := List (String × Parameter)

namespace Parameters

/-- The queries under a name. -/
def queries (parameters : Parameters) (name : String) : List Query :=
  match Keyed.find? name parameters with
  | some (.queries queries) => queries
  | _ => []

/-- The query under a name. -/
def query? (parameters : Parameters) (name : String) : Option Query :=
  match Keyed.find? name parameters with
  | some (.query query) => some query
  | _ => none

/-- The value under a name. -/
def value? (parameters : Parameters) (name : String) : Option Value :=
  match Keyed.find? name parameters with
  | some (.plain value) => some value
  | _ => none

/-- The functions that score. -/
def functions (parameters : Parameters) : List Value :=
  match Keyed.find? "functions" parameters with
  | some (.functions functions) => functions
  | _ => []

/-- The parameters that are written, in their order. -/
def written (parameters : Parameters) : List (String × Value) :=
  parameters.filterMap fun (name, parameter) => parameter.toValue?.map (name, ·)

/-- The parameters that hold plain values, but for the named ones. -/
def details (parameters : Parameters) (others : List String) : Details :=
  let settings := parameters.filterMap fun (name, parameter) =>
    match parameter with
    | .plain value => if others.contains name then none else some (name, value)
    | _ => none
  ⟨settings, parameters.map (·.1)⟩

end Parameters

/-- The query of a kind with its parameters. -/
def make (kind : String) (parameters : Parameters) : Query :=
  if kind = "bool" then
    .bool (parameters.queries "should") (parameters.queries "must")
      (parameters.queries "must_not") (parameters.queries "filter")
      (parameters.value? "minimum_should_match") (parameters.details ["minimum_should_match"])
  else if kind = "function_score" then
    .functionScore (parameters.query? "query") (parameters.query? "filter") parameters.functions
      (parameters.details [])
  else if kind = "match_all" then .matchAll parameters.written
  else if kind = "match_none" then .matchNone parameters.written
  else .clause (.other kind (.record parameters.written))

/-- The parameters of a function score. Without a list of functions, the functions
stand among the other parameters, and are taken in the order of their kinds. -/
def collectFunctions (parameters : List (String × Value)) : List (String × Value) :=
  if Keyed.has "functions" parameters then parameters
  else
    let functions := scoreKinds.filterMap fun kind =>
      (Keyed.find? kind parameters).map fun value => Value.record [(kind, value)]
    (parameters.filter fun parameter => !scoreKinds.contains parameter.1)
      ++ [("functions", .list functions)]

/-- The parameters of a kind, as they are meant. -/
def prepared (kind : String) (parameters : List (String × Value)) : List (String × Value) :=
  if kind = "function_score" then collectFunctions parameters else parameters

/-- The query of a named kind, from the value of its parameters. -/
def readKind (inner : Reader) (name parameters : Value) : Except Failure Query := do
  let kind ← kindOf .query kinds name
  match parameters with
  | .mapping entries =>
    let named := prepared kind (← namedParameters entries)
    let read ← named.mapM fun (name, value) =>
      return (name, ← readParameter inner (parameterForm kind name) value)
    return make kind read
  | _ => throw .mistyped

/-- The query that a value spells, with queries within that are read as given. -/
def readQuery (inner : Reader) (value : Value) : Except Failure Query :=
  match value with
  | .mapping [(kind, parameters)] => readKind inner kind parameters
  | .mapping _ => .error (.noSingleQuery value.quoted)
  | name => readKind inner name (.mapping [])

/-- The query that a value spells, with at most `depth` queries within each other. -/
def ofValueWithin : Nat → Reader
  | 0, _ => .error .mistyped
  | depth + 1, value => readQuery (ofValueWithin depth) value

/-- The query that a value spells. -/
def ofValue (value : Value) : Except Failure Query := ofValueWithin (value.depth + 1) value

end BoardSearch.Query
