import BoardSearch.Value.Basic

/-!
# Queries

What the search engine is asked: clauses about single fields, combined by bool
queries and scored by function scores.

## Main definitions

* `Clause`: the queries about a field, and those of a kind not known here;
* `Query.Details`: what a query says besides the queries it is made of;
* `Query`: the queries;
* `Query.atLeastOne`: one of several queries has to match;
* `fieldPath`: a field name with its parts.
-/

namespace BoardSearch

/-- The characters of a field name, in which a pair of underscores stands for the
point between two parts. -/
def fieldPathChars : List Char → List Char
  | '_' :: '_' :: rest => '.' :: fieldPathChars rest
  | c :: rest => c :: fieldPathChars rest
  | [] => []

/-- A field name with points between its parts. -/
def fieldPath (field : String) : String := String.ofList (fieldPathChars field.toList)

/-- The name of a query itself, which no parameter of it can have. -/
def ownName : String := "self"

/-- The name of the choice whether a pair of underscores stands for a point. What is given
under it is that choice and no parameter. -/
def expansionName : String := "_expand__to_dot"

/-- The names that no parameter can have. -/
def reservedNames : List String := [ownName, expansionName]

/-- A query that is not made of other queries. -/
inductive Clause where
  /-- The field has the value. -/
  | term (field : String) (value : Value)
  /-- The analyzed text of the field has the words. -/
  | matching (field : String) (value : Value)
  /-- The field compares with the bound. -/
  | range (field operation : String) (bound : Value)
  /-- The field has a value. -/
  | present (field : String)
  /-- The field matches the wildcard pattern. -/
  | wildcard (field pattern : String)
  /-- The field begins with the text. -/
  | beginsWith (field text : String)
  /-- The field has one of the values. -/
  | oneOf (field : String) (values : List Value)
  /-- A query of another kind, with its parameters. -/
  | other (kind : String) (parameters : Value)

/-- The kind of a clause that has a parameter named after its field. -/
def Clause.kindNamed? : Clause → Option String
  | .term _ _ => some "term"
  | .matching _ _ => some "match"
  | .range _ _ _ => some "range"
  | .wildcard _ _ => some "wildcard"
  | .beginsWith _ _ => some "prefix"
  | .oneOf _ _ => some "terms"
  | .present _ | .other _ _ => none

/-- What a query says besides the queries it is made of. -/
structure Query.Details where
  /-- Further parameters. -/
  settings : List (String × Value)
  /-- The names of parameters in the order in which they are written. Others follow. -/
  order : List String

/-- No further parameters, and the usual order. -/
def Query.Details.usual : Query.Details := ⟨[], []⟩

/-- A query. -/
inductive Query where
  | clause (single : Clause)
  | matchAll (settings : List (String × Value))
  | matchNone (settings : List (String × Value))
  /-- Every query in `must` and `filter` has to match, none in `mustNot` may, and
  at least `minimum` of those in `should` have to, where that is an integer. -/
  | bool (should must mustNot filter : List Query) (minimum : Option Value)
    (details : Query.Details)
  /-- What matches `query` and `filter`, scored by functions. -/
  | functionScore (query filter : Option Query) (functions : List Value)
    (details : Query.Details)

namespace Query

/-- The kind of a query that is a clause with a parameter named after its field. -/
def kindNamed? : Query → Option String
  | .clause single => single.kindNamed?
  | _ => none

/-- The query without the parameter that is named after its field. -/
def unnamed (query : Query) : Query :=
  match query.kindNamed? with
  | some kind => .clause (.other kind (.record []))
  | none => query

/-- The field has the value. -/
def term (field : String) (value : Value) : Query := .clause (.term (fieldPath field) value)

/-- The analyzed text of the field has the words. -/
def matching (field : String) (value : Value) : Query :=
  .clause (.matching (fieldPath field) value)

/-- The field compares with the bound. -/
def range (field operation : String) (bound : Value) : Query :=
  .clause (.range (fieldPath field) operation bound)

/-- The field has a value. Its name is taken as it is. -/
def present (field : String) : Query := .clause (.present field)

/-- The field matches the wildcard pattern. -/
def wildcard (field pattern : String) : Query := .clause (.wildcard (fieldPath field) pattern)

/-- The field begins with the text. -/
def beginsWith (field text : String) : Query := .clause (.beginsWith (fieldPath field) text)

/-- The field has one of the values. -/
def oneOf (field : String) (values : List Value) : Query :=
  .clause (.oneOf (fieldPath field) values)

/-- At least one of the queries has to match. The number is stated even where a
bool query without other parts would imply it. -/
def atLeastOne (queries : List Query) : Query :=
  .bool queries [] [] [] (some (.int 1)) .usual

/-- The number of `should` queries that have to match where none is stated: one,
unless there are none or other queries have to match already. -/
def impliedMinimum (should must filter : List Query) : Int :=
  if should.isEmpty || !must.isEmpty || !filter.isEmpty then 0 else 1

end Query

end BoardSearch
