import BoardSearch.Query.Basic

/-!
# Scoring

Some orders give the posts that a query finds a score of their own. The score is
put around the query and has no say in what the query matches.

## Main definitions

* `Scoring`: functions that make a score, and how it combines with the query's own;
* `Scoring.random`: a shuffle, which a seed makes repeatable;
* `Scoring.wrap`: a query with a score;
* `Query.ranked`: the score by votes and age.
-/

namespace BoardSearch

/-- A score for the posts of a query. -/
structure Scoring where
  functions : List Value
  boostMode : String

namespace Scoring

/-- A random score in place of the query's own. Without a seed every search is
shuffled anew. -/
def random (seed : Option Value) : Scoring :=
  let settings := match seed with
    | some seed => [("seed", seed), ("field", .text "id")]
    | none => []
  ⟨[.record [("random_score", .record settings)]], "replace"⟩

/-- A query whose posts get the score. -/
def wrap (scoring : Scoring) (query : Query) : Query :=
  .functionScore (some query) none scoring.functions
    ⟨[("boost_mode", .text scoring.boostMode)], []⟩

end Scoring

/-- The natural logarithm of 3. -/
def naturalLogOfThree : Binary64 := .ofDecimal false 10986122886681098 (-16)

/-- 24 May 2005, in seconds since 1970. -/
def rankEpoch : Int := 1116936000

/-- The rank of a post: the logarithm of its score to base 3, and a point for
every 35000 seconds since the epoch. -/
def rankScript : String :=
  "Math.log(doc['score'].value) / params.log3 + "
    ++ "(doc['created_at'].value.millis / 1000 - params.date2005_05_24) / 35000"

/-- Every post, scored by its rank. -/
def Query.ranked : Query :=
  let parameters := Value.record
    [("log3", .float naturalLogOfThree), ("date2005_05_24", .int rankEpoch)]
  let script := Value.record [("params", parameters), ("source", .text rankScript)]
  .functionScore (some (.matchAll [])) none
    [.record [("script_score", .record [("script", script)])]] .usual

end BoardSearch
