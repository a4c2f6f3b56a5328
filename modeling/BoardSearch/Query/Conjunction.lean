import BoardSearch.Query.Basic
import BoardSearch.Value.Same

/-!
# Conjunction of queries

The query that asks for what two queries ask for together. Bool queries are
merged; their optional parts keep a count of how many of them have to match, and
move among the required ones where that count says so.

## Main definitions

* `Query.and`: the conjunction;
* `Query.Merged`: the required and the optional queries of two bool queries.

## Design notes

A number of optional queries that is no integer, such as a percentage, is kept as it
is. What else a bool query says stays with the first of the two.
-/

namespace BoardSearch.Query

/-- The parts of a merged bool query that depend on the optional queries of the
two it is made of. -/
structure Merged where
  must : List Query
  should : List Query
  minimum : Option Value

/-- The stated number is an integer that asks for all of the queries. -/
def asksForAll (should : List Query) (minimum : Value) : Bool :=
  minimum.asInt?.any fun count => (should.length : Int) ≤ count

/-- Optional queries of which `minimum` have to match join a merged bool query.
When all of them have to match they are required. Else they become the optional
queries, if there are none yet or if no number is asked of either; and else they
are one more required query. -/
def Merged.join (merged : Merged) (should : List Query) (minimum : Value) : Merged :=
  if asksForAll should minimum then { merged with must := merged.must ++ should }
  else if merged.should.isEmpty then { merged with should, minimum := some minimum }
  else if merged.minimum.any (· == .int 0) && minimum == .int 0 then
    { merged with should := merged.should ++ should }
  else { merged with must := merged.must ++ [.bool should [] [] [] (some minimum) .usual] }

/-- The number of optional queries that have to match: the stated one, or what the
other parts imply. -/
def effectiveMinimum (should must filter : List Query) (minimum : Option Value) : Value :=
  match minimum with
  | none | some .null => .int (impliedMinimum should must filter)
  | some minimum => minimum

/-- A bool query to which a required query is added. If only its optional queries
said what it matches, one of them still has to. -/
def require (should must mustNot filter : List Query) (minimum : Option Value)
    (details : Details) (query : Query) : Query :=
  let minimum :=
    if must.isEmpty && filter.isEmpty && !should.isEmpty then some (minimum.getD (.int 1))
    else minimum
  .bool should (must ++ [query]) mustNot filter minimum details

/-- The conjunction of two queries. -/
def and : Query → Query → Query
  | .matchAll _, query => query
  | .matchNone settings, _ => .matchNone settings
  | .bool s m n f c d, .bool s' m' n' f' c' _ =>
    let merged : Merged := ⟨m ++ m', [], none⟩
    let merged := merged.join s (effectiveMinimum s m f c)
    let merged := merged.join s' (effectiveMinimum s' m' f' c')
    .bool merged.should merged.must (n ++ n') (f ++ f') merged.minimum d
  | .bool s m n f c d, query => require s m n f c d query
  | query, .bool s m n f c d => require s m n f c d query
  | query, query' => .bool [] [query, query'] [] [] none .usual

end BoardSearch.Query
