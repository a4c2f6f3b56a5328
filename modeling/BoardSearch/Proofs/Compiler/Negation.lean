import BoardSearch.Proofs.Compiler.Agreement
import BoardSearch.Proofs.Compiler.Filtering
import BoardSearch.Proofs.Relation.Opposition

/-!
# Searches for opposite metatags

In admin mode and without safe mode nothing is asked for but what the metatags say. So the
query that is built from a single metatag and the query that is built from its negation
are met by complementary posts.

## Main definitions

* `Session.Builds`: a query is built from one metatag.

## Main statements

* `Session.meets_of_builds`: what a query asks for that is built from one metatag;
* `Session.builds_opposite`: queries for opposite metatags are complementary.
-/

namespace BoardSearch

open Request (single soleContribution patterns)

/-- The query is built from a mapping with one metatag. -/
def Session.Builds (session : Session) (clock : Clock) (metatag : String × Value)
    (query : Query) : Prop :=
  ∃ search, ((Compiler.new (.record [metatag]) session none).build clock none).result =
    .ok search ∧ search.query = some query

namespace Session

variable {session : Session} {name : String} {value read : Value}

theorem read_single (hread : Request.readMetatag value = .ok read) :
    Request.ofValue (.record [(name, value)]) = .ok (single name read) := by
  show Request.ofEntries [(.text name, value)] = _
  simp only [Request.ofEntries, List.mapM_cons, List.mapM_nil, hread]
  rfl

/-- A metatag of the filters does not say how many tags there are, nor in which order the posts
come. -/
theorem onlyFilters_single (hname : name ∈ Request.filterNames) (read : Value) :
    (single name read).OnlyFilters := by
  intro other hother
  obtain ⟨_, _, hdiffer⟩ := List.nodup_append.mp Request.nodup_filterNames
  exact Request.scalar?_single_of_ne read (hdiffer other hother name hname).symm

section

variable (hadmin : session.adminMode.truthy = true) (hsafe : session.safeMode.truthy = false)
  (hread : Request.readMetatag value = .ok read) (hname : name ∈ Request.filterNames)
include hadmin hsafe hread hname

/-- From a metatag of the filters a query is built if the session serves, and the filters are
made in full. -/
theorem exists_builds_iff (clock : Clock) :
    (∃ query, session.Builds clock (name, value) query) ↔
      session.Serves ∧ (soleContribution name read).failure = .none := by
  have hbuilds : (∃ query, session.BuildsFrom clock [(name, value)] query) ↔ _ :=
    exists_buildsFrom_iff (read_single hread) (onlyFilters_single hname read) clock
  rwa [hsafe, hadmin] at hbuilds

/-- A query that is built from a metatag of the filters asks for what they admit. -/
theorem meets_of_builds {clock : Clock} {query : Query}
    (h : session.Builds clock (name, value) query) (τ : Truth) :
    τ.meets query = true ↔ (soleContribution name read).Admits τ := by
  have hmeets := meets_of_buildsFrom (read_single hread) (onlyFilters_single hname read) h τ
  rwa [hsafe, hadmin] at hmeets

end

/-- From a metatag and from its opposite a query is built under the same condition: that the
session serves, and that a pattern can be written out. And whatever holds of a post, it
meets just one of the two queries. -/
theorem builds_opposite (hadmin : session.adminMode.truthy = true)
    (hsafe : session.safeMode.truthy = false) {name' : String} {value' read' : Value}
    (hread : Request.readMetatag value = .ok read)
    (hread' : Request.readMetatag value' = .ok read')
    (hopposite : Request.Opposite (name, read) (name', read')) (clock clock' : Clock) :
    ((∃ query, session.Builds clock (name, value) query) ↔
      session.Serves ∧ (name ∈ patterns → read.hasText = true)) ∧
    ((∃ query', session.Builds clock' (name', value') query') ↔
      session.Serves ∧ (name ∈ patterns → read.hasText = true)) ∧
    ∀ query query', session.Builds clock (name, value) query →
      session.Builds clock' (name', value') query' →
        ∀ τ : Truth, τ.meets query' = !τ.meets query := by
  obtain ⟨hname, hname'⟩ := hopposite.mem_filterNames
  obtain ⟨hopposed, hwhole⟩ := hopposite.opposed
  refine ⟨?_, ?_, fun query query' hbuilds hbuilds' τ => ?_⟩
  · rw [exists_builds_iff hadmin hsafe hread hname]
    exact and_congr_right fun _ => hwhole
  · rw [exists_builds_iff hadmin hsafe hread' hname']
    exact and_congr_right fun _ => hopposed.failure_iff.symm.trans hwhole
  · have hmade : (soleContribution name read).failure = .none :=
      ((exists_builds_iff hadmin hsafe hread hname clock).mp ⟨query, hbuilds⟩).2
    have hmeets := meets_of_builds hadmin hsafe hread hname hbuilds τ
    have hmeets' := meets_of_builds hadmin hsafe hread' hname' hbuilds' τ
    have hcomplement : τ.meets query' = true ↔ ¬ τ.meets query = true := by
      rw [hmeets, hmeets']
      exact hopposed.admits_iff hmade τ
    cases hquery : τ.meets query <;> simpa [hquery] using hcomplement

/-- A source that is absent, and one that is not: for both there is a query. -/
theorem builds_opposite_source :
    ∃ query query',
      administrator.Builds .leapDay ("source", .text "none%") query ∧
      administrator.Builds .leapDay ("source_neg", .text "none%") query' ∧
      ∀ τ : Truth, τ.meets query' = !τ.meets query := by
  have hadmin : administrator.adminMode.truthy = true := rfl
  have hread : Request.readMetatag (.text "none%") = .ok (.text "none%") := rfl
  have hopposite : Request.Opposite ("source", .text "none%") ("source_neg", .text "none%") :=
    .scalar (by decide) rfl
  obtain ⟨hbuilds, hbuilds', hcomplement⟩ :=
    builds_opposite hadmin rfl hread hread hopposite .leapDay .leapDay
  have hserves : administrator.Serves := ⟨rfl, by decide +kernel⟩
  obtain ⟨query, hquery⟩ := hbuilds.mpr ⟨hserves, fun _ => rfl⟩
  obtain ⟨query', hquery'⟩ := hbuilds'.mpr ⟨hserves, fun _ => rfl⟩
  exact ⟨query, query', hquery, hquery', hcomplement query query' hquery hquery'⟩

end Session

end BoardSearch
