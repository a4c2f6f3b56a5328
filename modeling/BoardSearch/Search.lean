import BoardSearch.Failure
import BoardSearch.Query.Conjunction
import BoardSearch.Query.Document

/-!
# Searches

The body of a request to the search engine, with the indices that it goes to. A
search that has a query already can be given another one; then both have to
match.

## Main definitions

* `Search`: the parts of a request;
* `Search.toValue`: the body of a search;
* `Search.withQuery`: a search narrowed down by a query.
-/

namespace BoardSearch

/-- What can be wrong with the form of a part of a request, so that nothing can be built onto
it. -/
inductive Search.Flaw where
  /-- A part of which parts are taken is no row. -/
  | noRow
  /-- A part that is to be changed is no container. -/
  | noContainer
deriving DecidableEq

/-- The failure that a flaw leads to. -/
def Search.Flaw.failure : Search.Flaw → Failure
  | noRow => .mistyped
  | noContainer => .noMapping

/-- A request to the search engine. -/
structure Search where
  /-- The indices that are searched; all of them if none is named. -/
  indices : Option (List Value)
  query : Option Query
  sort : List Value
  /-- Other parts of the body. -/
  extra : List (Value × Value)
  /-- The parts of the documents that come back. -/
  source : Option Value
  /-- What is wrong with the form of the parts, if anything is. -/
  malformed : Option Search.Flaw

namespace Search

/-- Why nothing can be built onto a search, where a part of it has a wrong form. -/
def flaw (search : Search) : Option Failure := search.malformed.map (·.failure)

/-- The search that asks for nothing. -/
def empty : Search := ⟨none, none, [], [], none, none⟩

/-- The search in which a query has to match too. -/
def withQuery (search : Search) (query : Query) : Search :=
  { search with query := some (match search.query with
    | none => query
    | some present => present.and query) }

/-- The search with other sort keys. -/
def withSort (search : Search) (keys : List Value) : Search := { search with sort := keys }

/-- The search with other parts of the documents coming back. -/
def withSource (search : Search) (source : Value) : Search :=
  { search with source := some source }

/-- The search with one of the other parts of the body set. -/
def withExtra (search : Search) (name : String) (value : Value) : Search :=
  { search with extra := Keyed.put (.text name) value search.extra }

/-- The body of a search. -/
def toValue (search : Search) : Value :=
  let part := fun (name : String) (value : Value) => (Value.text name, value)
  let query := (search.query.map fun query => part "query" query.toValue).toList
  let sort := if search.sort.isEmpty then [] else [part "sort" (.list search.sort)]
  let source := (search.source.map (part "_source")).toList
  .mapping (query ++ sort ++ search.extra ++ source)

end Search

end BoardSearch
