import BoardSearch.Query.Basic

/-!
# What queries ask for

A query is met by a post or not, depending on which clauses hold of the post. A bool
query is met when every query in `must` and `filter` is, none in `mustNot` is, and
enough of those in `should` are. A score has no say in it.

## Main definitions

* `Truth`: what holds of a post;
* `Truth.required`: how many optional queries have to be met;
* `Truth.meets`: a post meets a query.

## Main statements

* `Truth.meets_bool`: when a post meets a bool query;
* `Truth.meets_conjunction`: the case without optional queries;
* `Truth.meets_atLeastOne`: the case of alternatives.

## Design notes

How many queries a percentage stands for is left open: a `Truth` says so for every
stated number that is no integer.
-/

namespace BoardSearch

/-- What holds of a post. -/
structure Truth where
  /-- The clause holds of the post. -/
  holds : Clause → Bool
  /-- How many out of so many queries a stated number asks for that is no integer. -/
  share : Value → Nat → Int

namespace Truth

variable (τ : Truth)

/-- How many of the optional queries have to be met. Where no number is stated, it is
one if nothing else has to be met, and else none. A negative number says how many need
not be met. -/
def required (should must filter : List Query) : Option Value → Int
  | none | some .null =>
    match should, must, filter with
    | _ :: _, [], [] => 1
    | _, _, _ => 0
  | some (.int n) => if n < 0 then should.length + n else n
  | some stated => τ.share stated should.length

mutual

/-- The post meets a query. -/
def meets : Query → Bool
  | .clause single => τ.holds single
  | .matchAll _ => true
  | .matchNone _ => false
  | .bool should must mustNot filter minimum _ =>
    meetsAll must && meetsAll filter && !meetsAny mustNot
      && decide (τ.required should must filter minimum ≤ countMet should)
  | .functionScore query filter _ _ => meetsOption query && meetsOption filter
termination_by structural query => query

/-- The post meets every query of a row. -/
def meetsAll : List Query → Bool
  | [] => true
  | query :: rest => meets query && meetsAll rest
termination_by structural queries => queries

/-- The post meets some query of a row. -/
def meetsAny : List Query → Bool
  | [] => false
  | query :: rest => meets query || meetsAny rest
termination_by structural queries => queries

/-- How many queries of a row the post meets. -/
def countMet : List Query → Nat
  | [] => 0
  | query :: rest => (if meets query then 1 else 0) + countMet rest
termination_by structural queries => queries

/-- The post meets a query, if there is one. -/
def meetsOption : Option Query → Bool
  | none => true
  | some query => meets query
termination_by structural query => query

end

@[simp]
theorem meetsAll_eq_true {queries : List Query} :
    τ.meetsAll queries = true ↔ ∀ q ∈ queries, τ.meets q = true := by
  induction queries with
  | nil => simp [meetsAll]
  | cons q rest ih => simp [meetsAll, ih]

@[simp]
theorem meetsAny_eq_false {queries : List Query} :
    τ.meetsAny queries = false ↔ ∀ q ∈ queries, τ.meets q = false := by
  induction queries with
  | nil => simp [meetsAny]
  | cons q rest ih => simp [meetsAny, ih]

/-- A bool query is met by its required parts, its excluded ones, and by enough of the
optional ones. -/
theorem meets_bool {should must mustNot filter : List Query} {minimum : Option Value}
    {details : Query.Details} :
    τ.meets (.bool should must mustNot filter minimum details) = true ↔
      (∀ q ∈ must, τ.meets q = true) ∧ (∀ q ∈ filter, τ.meets q = true) ∧
        (∀ q ∈ mustNot, τ.meets q = false) ∧
        τ.required should must filter minimum ≤ τ.countMet should := by
  simp [meets, and_assoc]

/-- Where a bool query without optional parts states no number, none is asked for. -/
theorem required_nil (must filter : List Query) : τ.required [] must filter none = 0 := rfl

/-- A bool query without optional parts asks for its required parts and against its
excluded ones. -/
theorem meets_conjunction {must mustNot filter : List Query} {details : Query.Details} :
    τ.meets (.bool [] must mustNot filter none details) = true ↔
      (∀ q ∈ must, τ.meets q = true) ∧ (∀ q ∈ filter, τ.meets q = true) ∧
        ∀ q ∈ mustNot, τ.meets q = false := by
  rw [meets_bool, required_nil, countMet]
  simp

theorem countMet_pos {queries : List Query} :
    0 < τ.countMet queries ↔ ∃ q ∈ queries, τ.meets q = true := by
  induction queries with
  | nil => simp [countMet]
  | cons q rest ih =>
    rw [countMet]
    by_cases hq : τ.meets q = true
    · have hpos : 0 < 1 + τ.countMet rest := by omega
      simp [hq, hpos]
    · simpa [hq] using ih

/-- One of several queries has to be met. -/
theorem meets_atLeastOne {queries : List Query} :
    τ.meets (.atLeastOne queries) = true ↔ ∃ q ∈ queries, τ.meets q = true := by
  have hrequired : τ.required queries [] [] (some (.int 1)) = 1 := rfl
  rw [← countMet_pos, Query.atLeastOne, meets_bool, hrequired]
  simp only [List.mem_nil_iff, false_implies, implies_true, true_and]
  omega

/-- A score does not change what a query asks for. -/
theorem meets_functionScore {query : Query} {functions : List Value}
    {details : Query.Details} :
    τ.meets (.functionScore (some query) none functions details) = τ.meets query := by
  simp [meets, meetsOption]

end Truth

end BoardSearch
