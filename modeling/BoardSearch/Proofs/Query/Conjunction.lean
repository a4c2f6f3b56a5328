import BoardSearch.Proofs.Query.Meaning
import BoardSearch.Query.Conjunction

/-!
# What a conjunction asks for

However two queries are merged, the second one loses nothing: whoever meets the
conjunction meets it. That needs nothing of the first query, whose optional parts may
come with any number; the second one has no optional parts.

## Main definitions

* `Query.Strict`: a query without optional parts.

## Main statements

* `Query.Merged.must_subset_join`: joining optional parts takes no required one away;
* `Truth.meets_right_of_and`: a conjunction asks for all that the second query does.
-/

namespace BoardSearch

/-- The query is no bool query with optional parts. -/
def Query.Strict : Query → Prop
  | .bool should _ _ _ minimum _ => should = [] ∧ minimum = none
  | _ => True

/-- The required parts stay when optional ones join. -/
theorem Query.Merged.must_subset_join (merged : Merged) (should : List Query)
    (minimum : Value) : merged.must ⊆ (merged.join should minimum).must := by
  unfold Query.Merged.join
  split
  · exact List.subset_append_left _ _
  · split
    · exact List.Subset.refl _
    · split
      · exact List.Subset.refl _
      · exact List.subset_append_left _ _

namespace Truth

variable {τ : Truth}

/-- Two bool queries are merged with the parts of the second one among the parts of
the same kind. -/
theorem meets_right_of_bool_and_bool {s m n f : List Query} {c : Option Value}
    {d : Query.Details} {m' n' f' : List Query} {d' : Query.Details}
    (h : τ.meets ((Query.bool s m n f c d).and (.bool [] m' n' f' none d')) = true) :
    τ.meets (.bool [] m' n' f' none d') = true := by
  rw [Query.and] at h
  obtain ⟨hmust, hfilter, hnot, _⟩ := τ.meets_bool.mp h
  refine τ.meets_conjunction.mpr ⟨fun q hq => hmust q ?_, fun q hq => hfilter q ?_,
    fun q hq => hnot q ?_⟩
  · -- the optional parts of either query may join the required ones, one after another
    apply Query.Merged.must_subset_join
    apply Query.Merged.must_subset_join
    exact List.mem_append_right m hq
  · exact List.mem_append_right f hq
  · exact List.mem_append_right n hq

/-- A query that a bool query is made to require is met with it. -/
theorem meets_of_require {s m n f : List Query} {c : Option Value} {d : Query.Details}
    {query : Query} (h : τ.meets (Query.require s m n f c d query) = true) :
    τ.meets query = true := by
  rw [Query.require] at h
  obtain ⟨hmust, _⟩ := τ.meets_bool.mp h
  exact hmust query (List.mem_append_right m (List.mem_singleton.mpr rfl))

/-- A bool query without optional parts loses nothing when it is made to require
another query. -/
theorem meets_self_of_require {m n f : List Query} {d : Query.Details} {query : Query}
    (h : τ.meets (Query.require [] m n f none d query) = true) :
    τ.meets (.bool [] m n f none d) = true := by
  have hminimum : (if m.isEmpty && f.isEmpty && !([] : List Query).isEmpty then
      some (Option.getD none (Value.int 1)) else none) = none := by simp
  rw [Query.require, hminimum] at h
  obtain ⟨hmust, hfilter, hnot⟩ := τ.meets_conjunction.mp h
  exact τ.meets_conjunction.mpr ⟨fun q hq => hmust q (List.mem_append_left _ hq), hfilter, hnot⟩

/-- A conjunction asks for all that the second query does. -/
theorem meets_right_of_and {query query' : Query} (hstrict : query'.Strict)
    (h : τ.meets (query.and query') = true) : τ.meets query' = true := by
  cases query with
  | matchAll settings => exact h
  | matchNone settings => exact absurd h (by simp [Query.and, meets])
  | bool s m n f c d =>
    cases query' with
    | bool s' m' n' f' c' d' =>
      obtain ⟨rfl, rfl⟩ := hstrict
      exact meets_right_of_bool_and_bool h
    | _ => exact meets_of_require h
  -- a query of another kind becomes one more required part of the second query
  | clause single =>
    cases query' with
    | bool s' m' n' f' c' d' =>
      obtain ⟨rfl, rfl⟩ := hstrict
      exact meets_self_of_require h
    | _ => exact (τ.meets_conjunction.mp h).1 _ (by simp)
  | functionScore inner filter functions details =>
    cases query' with
    | bool s' m' n' f' c' d' =>
      obtain ⟨rfl, rfl⟩ := hstrict
      exact meets_self_of_require h
    | _ => exact (τ.meets_conjunction.mp h).1 _ (by simp)

end Truth

end BoardSearch
