import BoardSearch.Proofs.Compiler.Base
import BoardSearch.Proofs.Compiler.Breaking

/-!
# Searches that only filter

A mapping that names neither a number of tags nor an order is a search for what its filters
admit. A query is built from it where the session serves and the filters are made in full.

## Main definitions

* `Request.OnlyFilters`: a request without a number of tags and without an order;
* `Session.Serves`: a session lets a search without tags through;
* `Session.BuildsFrom`: a query is built from a mapping.

## Main statements

* `Session.exists_buildsFrom_iff`: when a query is built;
* `Session.meets_of_buildsFrom`: what the query asks for.
-/

namespace BoardSearch

/-- The request says nothing of the number of tags, of the order and of its seed. -/
def Request.OnlyFilters (request : Request) : Prop :=
  ∀ name ∈ ["tag_count", "order", "random"], request.scalar? name = none

namespace Session

/-- A search without tags is not refused, and the timeout can be written out. -/
def Serves (session : Session) : Prop :=
  session.exceededBy 0 = .ok false ∧ session.milliseconds.hasText = true

/-- The query is built from a mapping. -/
def BuildsFrom (session : Session) (clock : Clock) (entries : List (String × Value))
    (query : Query) : Prop :=
  ∃ search, ((Compiler.new (.record entries) session none).build clock none).result =
    .ok search ∧ search.query = some query

variable {session : Session} {entries : List (String × Value)} {request : Request}

theorem tagCheck_of_onlyFilters (honly : request.OnlyFilters) :
    session.tagCheck request = .ok () ↔ session.exceededBy 0 = .ok false := by
  have hcount : request.integer "tag_count" 0 = .ok 0 := by
    rw [Request.integer, Request.integer?, honly "tag_count" (by simp)]
    rfl
  rw [tagCheck_eq_ok, Accepts, hcount]
  simp

theorem resolveOrder_of_onlyFilters (honly : request.OnlyFilters) (now : Moment) :
    request.resolveOrder now = .ok ⟨Order.fallback, [], none⟩ := by
  rw [Request.resolveOrder, Request.orderToken?, honly "order" (by simp)]
  rfl

section

variable (hread : Request.ofValue (.record entries) = .ok request) (honly : request.OnlyFilters)
include hread honly

/-- The session is asked, the filters are collected, and all is put together in the usual
order. -/
theorem build_of_onlyFilters (clock : Clock) :
    ((Compiler.new (.record entries) session none).build clock none).result =
      session.tagCheck request >>= fun _ =>
        ((Compiler.new (.record entries) session none).filters request).outcome >>= fun _ =>
          (((Compiler.new (.record entries) session none).filled request
            ⟨Order.fallback, [], none⟩).assemble none).result := by
  have hparse : (Compiler.new (.record entries) session none).parse = .ok request := hread
  rw [Compiler.build_result, Compiler.compile_result, hparse]
  show (session.tagCheck request >>= fun _ =>
    ((Compiler.new (.record entries) session none).filters request).outcome >>=
      fun _ => request.resolveOrder clock.now >>= fun resolution => _) = _
  rw [resolveOrder_of_onlyFilters honly]
  rfl

/-- A query is built where the session serves and the filters are made in full. -/
theorem exists_buildsFrom_iff (clock : Clock) :
    (∃ query, session.BuildsFrom clock entries query) ↔
      session.Serves ∧ (request.filterContribution session.safeMode.truthy
        session.adminMode.truthy).failure = .none := by
  unfold BuildsFrom
  rw [build_of_onlyFilters hread honly]
  constructor
  · rintro ⟨query, search, hbuild, _⟩
    obtain ⟨_, hcheck, hbuild⟩ := bind_eq_ok.mp hbuild
    obtain ⟨_, hwhole, hbuild⟩ := bind_eq_ok.mp hbuild
    have htext := (Compiler.exists_assemble_iff.mp ⟨search, hbuild⟩).2
    exact ⟨⟨(tagCheck_of_onlyFilters honly).mp hcheck, htext⟩,
      Contribution.outcome_eq_ok.mp hwhole⟩
  · rintro ⟨⟨haccepted, htext⟩, hwhole⟩
    obtain ⟨search, hsearch⟩ : ∃ search, (((Compiler.new (.record entries) session none).filled
        request ⟨Order.fallback, [], none⟩).assemble none).result = .ok search :=
      Compiler.exists_assemble_iff.mpr ⟨rfl, htext⟩
    refine ⟨_, search, ?_, Compiler.assemble_eq_ok hsearch⟩
    refine bind_eq_ok.mpr ⟨(), (tagCheck_of_onlyFilters honly).mpr haccepted, ?_⟩
    exact bind_eq_ok.mpr ⟨(), Contribution.outcome_eq_ok.mpr hwhole, hsearch⟩

/-- The query asks for what the filters admit. -/
theorem meets_of_buildsFrom {clock : Clock} {query : Query}
    (h : session.BuildsFrom clock entries query) (τ : Truth) :
    τ.meets query = true ↔
      (request.filterContribution session.safeMode.truthy session.adminMode.truthy).Admits τ := by
  obtain ⟨search, hbuild, hquery⟩ := h
  obtain ⟨request', resolution, hparse, hfilters, horder, hown⟩ := Compiler.stages_of_build hbuild
  obtain rfl : request = request' := Except.ok.inj (hread.symm.trans hparse)
  obtain rfl := Except.ok.inj ((resolveOrder_of_onlyFilters honly _).symm.trans horder)
  obtain rfl := Option.some.inj (hquery.symm.trans hown)
  refine (Compiler.meets_filled hfilters).trans ?_
  simp [Compiler.filters, Compiler.new]

end

end Session

end BoardSearch
