import BoardSearch.Proofs.Compiler.Result
import BoardSearch.Proofs.Query.Intersection

/-!
# Searches on top of a base

What was collected can be put together on top of a search that has a query already. The
posts that are found are those that the query of the base finds and that would be found
without a base.

## Main statements

* `Compiler.assemble_result`: a search, or why nothing can be put together;
* `Compiler.assemble_onto_base`: what a search on top of a base asks for.
-/

namespace BoardSearch.Compiler

/-- Nothing can be put together on top of a base that has a flaw, nor where the timeout
is too long to be written out. -/
theorem assemble_result (c : Compiler) (base : Option Search) :
    (∃ failure, base.bind (·.flaw) = some failure ∧ (c.assemble base).result = .error failure) ∨
    (base.bind (·.flaw) = none ∧ c.session.milliseconds.hasText = false ∧
      (c.assemble base).result = .error (.numeral .unwritable)) ∨
    (base.bind (·.flaw) = none ∧ c.session.milliseconds.hasText = true ∧
      ∃ search, (c.assemble base).result = .ok search) := by
  have hflaw : (base.getD .empty).flaw = base.bind (·.flaw) := by
    cases base <;> rfl
  unfold assemble
  dsimp only
  rw [withRequirement_session, hflaw]
  cases base.bind (·.flaw) with
  | some failure => exact .inl ⟨failure, rfl, rfl⟩
  | none =>
    cases c.session.milliseconds.hasText with
    | false => exact .inr (.inl ⟨rfl, rfl, rfl⟩)
    | true => exact .inr (.inr ⟨rfl, rfl, _, rfl⟩)

theorem assemble_eq_error {c : Compiler} {base : Option Search} {failure : Failure} :
    (c.assemble base).result = .error failure ↔
      base.bind (·.flaw) = some failure ∨
        (base.bind (·.flaw) = none ∧ c.session.milliseconds.hasText = false ∧
          failure = .numeral .unwritable) := by
  obtain ⟨flaw, hflaw, hresult⟩ | ⟨hflaw, htext, hresult⟩ | ⟨hflaw, htext, search, hresult⟩ :=
    c.assemble_result base
  · simp [hresult, hflaw]
  · simp [hresult, hflaw, htext, eq_comm]
  · simp [hresult, hflaw, htext]

theorem exists_assemble_iff {c : Compiler} {base : Option Search} :
    (∃ search, (c.assemble base).result = .ok search) ↔
      base.bind (·.flaw) = none ∧ c.session.milliseconds.hasText = true := by
  obtain ⟨flaw, hflaw, hresult⟩ | ⟨hflaw, htext, hresult⟩ | ⟨hflaw, htext, search, hresult⟩ :=
    c.assemble_result base
  · simp [hresult, hflaw]
  · simp [hresult, htext]
  · simp [hresult, hflaw, htext]

/-- The query of what was collected has no optional parts, so it states no number. -/
theorem counted_collected (c : Compiler) : c.collected.Counted := by
  unfold collected
  cases c.scoring with
  | none =>
    intro stated hstated
    simp at hstated
  | some scoring => trivial

/-- What was collected can be put together on top of a base without a flaw just where it
can be without a base; and then a post meets the query where it meets both that of the
base and that without a base. Of the queries within the base nothing is asked. -/
theorem assemble_onto_base (c : Compiler) (base : Search)
    (hcounted : ∀ query, base.query = some query → query.Counted) :
    (∀ failure, (c.assemble (some base)).result = .error failure ↔
      base.flaw = some failure ∨
        (base.flaw = none ∧ (c.assemble none).result = .error failure)) ∧
    ∀ search, (c.assemble (some base)).result = .ok search →
      ∃ own query joined, (c.assemble none).result = .ok own ∧ own.query = some query ∧
        search.query = some joined ∧ ∀ τ : Truth, τ.meets joined = true ↔
          τ.meetsOption base.query = true ∧ τ.meets query = true := by
  constructor
  · intro failure
    rw [assemble_eq_error, assemble_eq_error]
    simp
  · intro search hsearch
    obtain ⟨_, htext⟩ := exists_assemble_iff.mp ⟨search, hsearch⟩
    obtain ⟨own, hown⟩ : ∃ own, (c.assemble none).result = .ok own :=
      exists_assemble_iff.mpr ⟨rfl, htext⟩
    refine ⟨own, _, _, hown, assemble_eq_ok hown, assemble_eq_ok hsearch, fun τ => ?_⟩
    have hquery : (some base).bind (·.query) = base.query := rfl
    rw [hquery]
    cases hquery : base.query with
    | none => simp [Truth.meetsOption]
    | some query =>
      exact Truth.meets_and (hcounted query hquery) (counted_collected _)

/-- A base that asks for one of two tags, under a search for safe posts in a random order. -/
theorem assemble_onto_base_alternatives :
    (Query.bool [.term "tags" (.text "cat"), .term "tags" (.text "dog")] [] [] [] none
      .usual).Counted ∧
    ∃ search own query joined,
      (({ new .null .administrator none with
          must := [.term "rating" (.text "s")],
          scoring := some (.random none) } : Compiler).assemble (some { Search.empty with
            query := some (.bool [.term "tags" (.text "cat"), .term "tags" (.text "dog")]
              [] [] [] none .usual) })).result = .ok search ∧
      (({ new .null .administrator none with
          must := [.term "rating" (.text "s")],
          scoring := some (.random none) } : Compiler).assemble none).result = .ok own ∧
      own.query = some query ∧ search.query = some joined ∧
      ∀ τ : Truth, τ.meets joined = true ↔
        τ.meets (.bool [.term "tags" (.text "cat"), .term "tags" (.text "dog")] [] [] [] none
          .usual) = true ∧ τ.meets query = true := by
  have hcounted : (Query.bool [.term "tags" (.text "cat"), .term "tags" (.text "dog")] [] [] []
      none .usual).Counted := by
    intro stated hstated
    simp at hstated
  obtain ⟨search, hsearch⟩ := exists_eq_ok (x := (({ new .null .administrator none with
      must := [.term "rating" (.text "s")],
      scoring := some (.random none) } : Compiler).assemble (some { Search.empty with
        query := some (.bool [.term "tags" (.text "cat"), .term "tags" (.text "dog")]
          [] [] [] none .usual) })).result) (by decide +kernel)
  have hquery : ∀ query, some (Query.bool [.term "tags" (.text "cat"), .term "tags"
      (.text "dog")] [] [] [] none .usual) = some query → query.Counted := by
    intro query hquery
    obtain rfl := Option.some.inj hquery
    exact hcounted
  obtain ⟨own, query, joined, hown, hquery, hjoined, hmeets⟩ :=
    (assemble_onto_base _ _ hquery).2 search hsearch
  exact ⟨hcounted, search, own, query, joined, hsearch, hown, hquery, hjoined, hmeets⟩

end BoardSearch.Compiler
