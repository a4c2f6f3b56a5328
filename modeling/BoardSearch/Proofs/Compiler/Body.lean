import BoardSearch.Proofs.Compiler.Comparison
import BoardSearch.Proofs.Query.Document

/-!
# Bodies of compiled searches

The body of a compiled search is the query with its order, a timeout and the wish for
identifiers alone. What is true of the values that a value is made of is true of the body
where it is true of the values that the query compares with.

## Main statements

* `Compiler.toValue_of_build`: the body of a compiled search;
* `Compiler.build_body_iff`: when a property of what values are made of holds of it.
-/

namespace BoardSearch

/-- The score of an order is a shuffle, and its seed is the integer that a metatag begins
with. -/
theorem Request.scoring_of_resolveOrder {request : Request} {now : Moment}
    {resolution : Resolution} (h : request.resolveOrder now = .ok resolution) {scoring : Scoring}
    (hscoring : resolution.scoring = some scoring) : ∃ seed : Option Int,
      scoring = .random (seed.map .int) ∧
        ∀ n, seed = some n → request.integer "random" 0 = .ok n := by
  unfold resolveOrder at h
  obtain ⟨token?, -, h⟩ := bind_eq_ok.mp h
  cases token? with
  | none =>
    obtain rfl := Except.ok.inj h
    simp at hscoring
  | some token =>
    obtain ⟨requirements, -, h⟩ := bind_eq_ok.mp h
    split at h
    · obtain rfl := Except.ok.inj h
      simp at hscoring
    · split at h
      · obtain ⟨random, hrandom, h⟩ := bind_eq_ok.mp h
        obtain rfl := Except.ok.inj h
        obtain rfl := Option.some.inj hscoring
        unfold randomScoring at hrandom
        split at hrandom
        · obtain rfl := Except.ok.inj hrandom
          exact ⟨none, rfl, by simp⟩
        · obtain ⟨seed, hseed, rfl⟩ := map_eq_ok.mp hrandom
          exact ⟨some seed, rfl, fun n hn => Option.some.inj hn ▸ hseed⟩
      · obtain rfl := Except.ok.inj h
        simp at hscoring

namespace Compiler

/-- The body of a search that was put together without a base. -/
theorem toValue_assemble {c : Compiler} {search : Search}
    (h : (c.assemble none).result = .ok search) :
    ∃ query, search.query = some query ∧ ∃ (keys : List SortKey) (timeout : String),
      search.toValue = .record (("query", query.toValue) ::
        (Query.part "sort" (keys.map SortKey.toValue)
          ++ [("timeout", .text timeout), ("_source", .bool false)])) := by
  unfold assemble at h
  dsimp only [Option.getD, Search.empty, Search.flaw, Option.map] at h
  split at h
  · obtain rfl := Except.ok.inj h
    refine ⟨_, rfl, c.withRequirement.order, c.withRequirement.session.timeout, ?_⟩
    cases c.withRequirement.order <;>
      simp [Search.toValue, Search.withExtra, Search.withSource, Search.withSort,
        Search.withQuery, Query.part, Value.record, Keyed.put]
  · simp at h

/-- The body of a search that was compiled without a base. -/
theorem toValue_of_build {c : Compiler} {clock : Clock} {search : Search}
    (h : (c.build clock none).result = .ok search) :
    ∃ query, search.query = some query ∧ ∃ (keys : List SortKey) (timeout : String),
      search.toValue = .record (("query", query.toValue) ::
        (Query.part "sort" (keys.map SortKey.toValue)
          ++ [("timeout", .text timeout), ("_source", .bool false)])) := by
  rw [build_result, compile_result] at h
  obtain ⟨request, -, h⟩ := bind_eq_ok.mp h
  obtain ⟨_, -, h⟩ := bind_eq_ok.mp h
  obtain ⟨_, -, h⟩ := bind_eq_ok.mp h
  obtain ⟨resolution, -, h⟩ := bind_eq_ok.mp h
  exact toValue_assemble h

section

variable {P : Value → Prop} (h : Value.IsHereditary P)

include h

theorem toValue_sortKey (key : SortKey) : P key.toValue := by
  unfold SortKey.toValue
  dsimp only
  split
  · exact (h.singleton _ _).mpr (h.text _)
  · refine (h.singleton _ _).mpr ((h.record _ (by simp)).mpr ?_)
    exact List.forall_mem_cons.mpr ⟨h.text _, List.forall_mem_singleton.mpr (h.text _)⟩

/-- A property of what values are made of holds of the body of a compiled search where it
holds of scalars of the request, and of what the request supplies. -/
theorem build_body_iff {c : Compiler} {clock : Clock} {search : Search}
    (hseed : ∀ request seed, c.parse = .ok request → request.integer "random" 0 = .ok seed →
      P (.int seed))
    (hbuild : (c.build clock none).result = .ok search) :
    ∃ request, c.parse = .ok request ∧ (P search.toValue ↔
      (∀ name ∈ Request.scalarNames, ∀ value, request.scalar? name = some value → P value) ∧
        request.Supplies P) := by
  obtain ⟨query, hquery, keys, timeout, hbody⟩ := toValue_of_build hbuild
  have hwrap : ∀ request resolution scoring, c.parse = .ok request →
      request.resolveOrder clock.now = .ok resolution → resolution.scoring = some scoring →
        ∀ q, P (scoring.wrap q).toValue ↔ P q.toValue := by
    intro request resolution scoring hparse horder hscoring
    obtain ⟨seed, rfl, hinteger⟩ := Request.scoring_of_resolveOrder horder hscoring
    refine Query.toValue_random h fun value hvalue => ?_
    obtain ⟨n, rfl, rfl⟩ := Option.map_eq_some_iff.mp hvalue
    exact hseed request n hparse (hinteger n rfl)
  obtain ⟨request, query', hparse, hquery', hiff⟩ := build_keeps_iff
    (Query.comesDownTo_toValue h) h.text h.bool h.zero h.moment hwrap rfl hbuild
  obtain rfl := Option.some.inj (hquery.symm.trans hquery')
  refine ⟨request, hparse, Iff.trans ?_ hiff⟩
  -- the names differ whether or not there is an order, so the body is a record
  have hnames := ((List.Sublist.refl ["query"]).append
    (Query.names_part "sort" (keys.map SortKey.toValue))).append
      (List.Sublist.refl ["timeout", "_source"])
  have hnodup : ((("query", query.toValue) :: (Query.part "sort" (keys.map SortKey.toValue)
      ++ [("timeout", Value.text timeout), ("_source", .bool false)])).map (·.1)).Nodup := by
    simpa using hnames.nodup (by decide)
  have hkeys : ∀ entry ∈ Query.part "sort" (keys.map SortKey.toValue), P entry.2 :=
    (Query.forall_mem_part h "sort" _).mpr
      (List.forall_mem_map.mpr fun key _ => toValue_sortKey h key)
  rw [hbody, h.record _ hnodup, List.forall_mem_cons, List.forall_mem_append]
  refine and_iff_left ⟨hkeys, List.forall_mem_cons.mpr ⟨h.text timeout, ?_⟩⟩
  exact List.forall_mem_singleton.mpr (h.bool false)

end

end Compiler

end BoardSearch
