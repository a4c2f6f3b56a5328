import BoardSearch.Proofs.Query.Values
import BoardSearch.Proofs.Value.Document
import BoardSearch.Query.Document

/-!
# What queries are written as

A query is written as a record of records and lists, at whose ends stand the values that its
clauses compare with. A property of values that is one of what they are made of holds of
what a query is written as where it holds of those values.

## Main definitions

* `Value.IsHereditary`: a property of values that is one of what they are made of.

## Main statements

* `Value.isHereditary_sound`, `Value.isHereditary_isWritable`: two of those properties;
* `Query.comesDownTo_toValue`: what a query is written as has such a property just where the
  values that it compares with have it.
-/

namespace BoardSearch

/-! ## Properties of what values are made of -/

/-- The property holds of truth values, texts, moments and the constants of scores, and of a
list or a record just where it holds of all that is in it. -/
structure Value.IsHereditary (P : Value → Prop) : Prop where
  bool : ∀ b, P (.bool b)
  text : ∀ s, P (.text s)
  moment : ∀ m, P (.moment m)
  zero : P (.int 0)
  one : P (.int 1)
  logarithm : P (.float naturalLogOfThree)
  epoch : P (.int rankEpoch)
  list : ∀ items, P (.list items) ↔ ∀ item ∈ items, P item
  record : ∀ entries : List (String × Value), (entries.map (·.1)).Nodup →
    (P (.record entries) ↔ ∀ entry ∈ entries, P entry.2)

namespace Value

theorem isHereditary_sound : IsHereditary Sound where
  bool := .bool
  text := .text
  moment := .moment
  zero := .int (by decide +kernel)
  one := .int (by decide +kernel)
  logarithm := .float (Binary64.canonical_ofDecimal ..)
  epoch := .int (by decide +kernel)
  list _ := sound_list
  record _ := sound_record

theorem isHereditary_isWritable : IsHereditary fun value => value.isWritable = true where
  bool _ := rfl
  text _ := rfl
  moment _ := rfl
  zero := rfl
  one := rfl
  logarithm := by decide +kernel
  epoch := rfl
  list _ := isWritable_list
  record _ _ := isWritable_record

namespace IsHereditary

variable {P : Value → Prop} (h : IsHereditary P)

include h

theorem singleton (name : String) (value : Value) : P (.record [(name, value)]) ↔ P value := by
  rw [h.record [(name, value)] (List.nodup_singleton name), List.forall_mem_singleton]

end IsHereditary

end Value

namespace Query

/-! ## Queries -/

theorem toValues_eq (queries : List Query) : toValues queries = queries.map toValue := by
  induction queries with
  | nil => rfl
  | cons q rest ih => rw [toValues, ih, List.map_cons]

theorem arrange_eq {details : Details} (horder : details.order = [])
    (parameters : List (String × Value)) :
    details.arrange parameters = .record (parameters ++ details.settings) := by
  simp [Details.arrange, horder]

theorem names_part (name : String) (values : List Value) :
    ((part name values).map (·.1)).Sublist [name] := by
  unfold part
  split <;> simp

theorem names_onePart (name : String) (value : Option Value) :
    ((onePart name value).map (·.1)).Sublist [name] := by
  cases value <;> simp [onePart]

variable {P : Value → Prop} (h : Value.IsHereditary P)

include h

theorem forall_mem_part (name : String) (values : List Value) :
    (∀ entry ∈ part name values, P entry.2) ↔ ∀ value ∈ values, P value := by
  cases values with
  | nil => simp [part]
  | cons value rest => exact List.forall_mem_singleton.trans (h.list _)

/-- What a bool query is written as has the property where its parts have it. -/
theorem toValue_bool (should must mustNot : List Query) {minimum : Option Value}
    (hminimum : minimum ∈ [none, some (.int 1)]) :
    P (toValue (.bool should must mustNot [] minimum .usual)) ↔ (∀ q ∈ should, P q.toValue) ∧
      (∀ q ∈ must, P q.toValue) ∧ ∀ q ∈ mustNot, P q.toValue := by
  have hnames := ((((names_part "should" (toValues should)).append
    (names_part "must" (toValues must))).append (names_part "must_not" (toValues mustNot))).append
      (names_part "filter" (toValues []))).append (names_onePart "minimum_should_match" minimum)
  -- whichever parts there are, no two of them have the same name
  rw [← List.map_append, ← List.map_append, ← List.map_append, ← List.map_append] at hnames
  have hone : ∀ entry ∈ onePart "minimum_should_match" minimum, P entry.2 := by
    obtain rfl | hminimum := List.mem_cons.mp hminimum
    · simp [onePart]
    · rw [List.mem_singleton.mp hminimum]
      exact List.forall_mem_singleton.mpr h.one
  rw [toValue, h.singleton, arrange_eq rfl, Details.usual, List.append_nil,
    h.record _ (hnames.nodup (by decide))]
  simp only [List.forall_mem_append, forall_mem_part h, toValues_eq, List.forall_mem_map]
  rw [and_iff_left hone]
  simp [and_assoc]

/-- What a query with a score around it is written as has the property where the query and
the functions have it. -/
theorem toValue_functionScore (query : Query) (functions : List Value) (details : Details)
    (horder : details.order = []) (hsettings : ∀ entry ∈ details.settings, P entry.2)
    (hnames : (details.settings.map (·.1)).Sublist ["boost_mode"]) :
    P (toValue (.functionScore (some query) none functions details)) ↔
      P query.toValue ∧ ∀ function ∈ functions, P function := by
  have hparts := (((names_onePart "query" (toValue? (some query))).append
    (names_onePart "filter" (toValue? none))).append (names_part "functions" functions)).append
      hnames
  rw [← List.map_append, ← List.map_append, ← List.map_append] at hparts
  rw [toValue, h.singleton, arrange_eq horder, h.record _ (hparts.nodup (by decide))]
  simp only [List.forall_mem_append, forall_mem_part h]
  rw [and_iff_left hsettings]
  simp [onePart, toValue?]

theorem toValue_matchAll : P (toValue (.matchAll [])) :=
  (h.singleton _ _).mpr ((h.record [] List.nodup_nil).mpr (List.forall_mem_nil _))

theorem toValue_ranked : P Query.ranked.toValue := by
  have hnames : (([("params", Value.record [("log3", .float naturalLogOfThree),
      ("date2005_05_24", .int rankEpoch)]), ("source", .text rankScript)] :
        List (String × Value)).map (·.1)).Nodup := by
    decide
  unfold Query.ranked
  refine (toValue_functionScore h _ _ .usual rfl (List.forall_mem_nil _) (List.nil_sublist _)).mpr
    ⟨toValue_matchAll h, List.forall_mem_singleton.mpr ?_⟩
  refine (h.singleton _ _).mpr ((h.singleton _ _).mpr ((h.record _ hnames).mpr ?_))
  refine List.forall_mem_cons.mpr ⟨?_, List.forall_mem_singleton.mpr (h.text _)⟩
  refine (h.record _ (by decide)).mpr (List.forall_mem_cons.mpr ⟨h.logarithm, ?_⟩)
  exact List.forall_mem_singleton.mpr h.epoch

/-- A random score around a query adds the seed to what it is written as. -/
theorem toValue_random {seed : Option Value} (hseed : ∀ value, seed = some value → P value)
    (query : Query) : P ((Scoring.random seed).wrap query).toValue ↔ P query.toValue := by
  have hfunctions : ∀ function ∈ (Scoring.random seed).functions, P function := by
    refine List.forall_mem_singleton.mpr ((h.singleton _ _).mpr ?_)
    cases seed with
    | none => exact (h.record [] List.nodup_nil).mpr (List.forall_mem_nil _)
    | some value =>
      refine (h.record [("seed", value), ("field", .text "id")] (by simp)).mpr ?_
      exact List.forall_mem_cons.mpr ⟨hseed value rfl, List.forall_mem_singleton.mpr (h.text _)⟩
  have hsettings : ∀ entry ∈ [("boost_mode", Value.text (Scoring.random seed).boostMode)],
      P entry.2 := List.forall_mem_singleton.mpr (h.text _)
  exact (toValue_functionScore h query _ ⟨_, []⟩ rfl hsettings (List.Sublist.refl _)).trans
    (and_iff_left hfunctions)

/-- What a query is written as has the property just where the values that it compares with
have it. -/
theorem comesDownTo_toValue : ComesDownTo (fun q => P q.toValue) P where
  term _ _ := (h.singleton _ _).trans (h.singleton _ _)
  matching _ _ := (h.singleton _ _).trans (h.singleton _ _)
  range _ _ _ := ((h.singleton _ _).trans (h.singleton _ _)).trans (h.singleton _ _)
  present _ := ((h.singleton _ _).trans (h.singleton _ _)).mpr (h.text _)
  wildcard _ _ := (h.singleton _ _).trans (h.singleton _ _)
  beginsWith _ _ := (h.singleton _ _).trans (h.singleton _ _)
  oneOf _ _ := ((h.singleton _ _).trans (h.singleton _ _)).trans (h.list _)
  everything := toValue_matchAll h
  bool should must mustNot _ := toValue_bool h should must mustNot
  ranked := toValue_ranked h

end Query

end BoardSearch
