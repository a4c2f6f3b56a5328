import BoardSearch.Order.Scoring
import BoardSearch.Query.Conjunction

/-!
# What queries compare with

A clause compares its field with one value, or with each of a row. What is asked of those
values holds of a query when it holds of every clause that is anywhere in it.

## Main definitions

* `Clause.values`: the values that a clause compares its field with;
* `Query.clauses`: the clauses of a query;
* `Query.Compares`: everything that a query compares with has a property;
* `Query.ComesDownTo`: a property of queries is one of the values that they compare with.

## Main statements

* `Query.compares_bool`, `Query.compares_functionScore`: a query that is made of others
  compares with what those compare with;
* `Query.comesDownTo_compares`: what a query compares with is such a property.
-/

namespace BoardSearch

/-- The values that a clause compares its field with. What a query of another kind compares
with is not known, so its parameters stand for that. -/
def Clause.values : Clause → List Value
  | .term _ value | .matching _ value | .range _ _ value => [value]
  | .present _ => []
  | .wildcard _ pattern => [.text pattern]
  | .beginsWith _ text => [.text text]
  | .oneOf _ values => values
  | .other _ parameters => [parameters]

namespace Query

mutual

/-- The clauses of a query, however deep they are in it. -/
def clauses : Query → List Clause
  | .clause single => [single]
  | .matchAll _ | .matchNone _ => []
  | .bool should must mustNot filter _ _ =>
    clausesOfAll should ++ clausesOfAll must ++ clausesOfAll mustNot ++ clausesOfAll filter
  | .functionScore query filter _ _ => clausesOfOption query ++ clausesOfOption filter
termination_by structural query => query

/-- The clauses of the queries of a row. -/
def clausesOfAll : List Query → List Clause
  | [] => []
  | query :: rest => clauses query ++ clausesOfAll rest
termination_by structural queries => queries

/-- The clauses of a query, if there is one. -/
def clausesOfOption : Option Query → List Clause
  | none => []
  | some query => clauses query
termination_by structural query => query

end

@[simp]
theorem mem_clausesOfAll {single : Clause} {queries : List Query} :
    single ∈ clausesOfAll queries ↔ ∃ q ∈ queries, single ∈ q.clauses := by
  induction queries with
  | nil => simp [clausesOfAll]
  | cons q rest ih => simp [clausesOfAll, ih]

/-- Everything that a clause of the query compares its field with has the property. -/
def Compares (P : Value → Prop) (query : Query) : Prop :=
  ∀ single ∈ query.clauses, ∀ value ∈ single.values, P value

variable {P : Value → Prop}

theorem compares_clause {single : Clause} :
    (clause single).Compares P ↔ ∀ value ∈ single.values, P value := by
  simp [Compares, clauses]

@[simp]
theorem compares_term {field : String} {value : Value} :
    (term field value).Compares P ↔ P value := by
  simp [term, compares_clause, Clause.values]

@[simp]
theorem compares_matching {field : String} {value : Value} :
    (matching field value).Compares P ↔ P value := by
  simp [matching, compares_clause, Clause.values]

@[simp]
theorem compares_range {field operation : String} {bound : Value} :
    (range field operation bound).Compares P ↔ P bound := by
  simp [range, compares_clause, Clause.values]

@[simp]
theorem compares_present {field : String} : (present field).Compares P := by
  simp [present, compares_clause, Clause.values]

@[simp]
theorem compares_wildcard {field pattern : String} :
    (wildcard field pattern).Compares P ↔ P (.text pattern) := by
  simp [wildcard, compares_clause, Clause.values]

@[simp]
theorem compares_beginsWith {field text : String} :
    (beginsWith field text).Compares P ↔ P (.text text) := by
  simp [beginsWith, compares_clause, Clause.values]

@[simp]
theorem compares_oneOf {field : String} {values : List Value} :
    (oneOf field values).Compares P ↔ ∀ value ∈ values, P value := by
  simp [oneOf, compares_clause, Clause.values]

@[simp]
theorem compares_matchAll {settings : List (String × Value)} :
    (matchAll settings).Compares P := by
  simp [Compares, clauses]

/-- A bool query compares with what its parts compare with, the excluded ones too. -/
theorem compares_bool {should must mustNot filter : List Query} {minimum : Option Value}
    {details : Details} :
    (bool should must mustNot filter minimum details).Compares P ↔
      (∀ q ∈ should, q.Compares P) ∧ (∀ q ∈ must, q.Compares P) ∧
        (∀ q ∈ mustNot, q.Compares P) ∧ ∀ q ∈ filter, q.Compares P := by
  have hrow : ∀ queries : List Query, (∀ q ∈ queries, q.Compares P) ↔
      ∀ single ∈ clausesOfAll queries, ∀ value ∈ single.values, P value := by
    intro queries
    simp only [mem_clausesOfAll]
    exact ⟨fun h single ⟨q, hq, hsingle⟩ => h q hq single hsingle,
      fun h q hq single hsingle => h single ⟨q, hq, hsingle⟩⟩
  rw [hrow should, hrow must, hrow mustNot, hrow filter]
  simp only [Compares, clauses, List.forall_mem_append, and_assoc]

/-- A score around a query adds nothing that is compared. -/
theorem compares_functionScore {query : Query} {functions : List Value} {details : Details} :
    (functionScore (some query) none functions details).Compares P ↔ query.Compares P := by
  simp [Compares, clauses, clausesOfOption]

/-- The property `R` holds of a query of the filters and orders just where `P` holds of the
values that its clauses compare their fields with. -/
structure ComesDownTo (R : Query → Prop) (P : Value → Prop) : Prop where
  term : ∀ field value, R (term field value) ↔ P value
  matching : ∀ field value, R (matching field value) ↔ P value
  range : ∀ field operation bound, R (range field operation bound) ↔ P bound
  present : ∀ field, R (present field)
  wildcard : ∀ field pattern, R (wildcard field pattern) ↔ P (.text pattern)
  beginsWith : ∀ field text, R (beginsWith field text) ↔ P (.text text)
  oneOf : ∀ field values, R (oneOf field values) ↔ ∀ value ∈ values, P value
  everything : R (.matchAll [])
  bool : ∀ should must mustNot minimum, minimum ∈ [none, some (.int 1)] →
    (R (.bool should must mustNot [] minimum .usual) ↔
      (∀ q ∈ should, R q) ∧ (∀ q ∈ must, R q) ∧ ∀ q ∈ mustNot, R q)
  ranked : R .ranked

theorem ComesDownTo.atLeastOne {R : Query → Prop} (h : ComesDownTo R P) (queries : List Query) :
    R (atLeastOne queries) ↔ ∀ q ∈ queries, R q := by
  rw [Query.atLeastOne, h.bool queries [] [] (some (.int 1)) (by simp)]
  simp

theorem comesDownTo_compares : ComesDownTo (Compares P) P where
  term _ _ := compares_term
  matching _ _ := compares_matching
  range _ _ _ := compares_range
  present _ := compares_present
  wildcard _ _ := compares_wildcard
  beginsWith _ _ := compares_beginsWith
  oneOf _ _ := compares_oneOf
  everything := compares_matchAll
  bool _ _ _ _ _ := by simp [compares_bool]
  ranked := compares_functionScore.mpr compares_matchAll

end Query

end BoardSearch
