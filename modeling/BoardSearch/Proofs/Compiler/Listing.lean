import BoardSearch.Proofs.Compiler.Filtering
import BoardSearch.Proofs.Relation.Breaking
import BoardSearch.Proofs.Relation.Listing

/-!
# Searches for lists

A mapping that has nothing but lists of texts and numbers is read as it stands. In admin mode
and without safe mode the query that is built from it asks for what the lists say, and for
nothing else.

## Main definitions

* `ListMapping`: a mapping of metatags to lists;
* `ListMapping.listed`: the list under a name.

## Main statements

* `Session.buildsFrom_lists`: which posts meet the query that is built from lists.
-/

namespace BoardSearch

/-- A mapping of metatags to lists of texts and numbers. -/
structure ListMapping where
  lists : List (String × List Value)
  nodup : (lists.map (·.1)).Nodup
  known : ∀ entry ∈ lists, entry.1 ∈ Request.listMetatags
  atoms : ∀ entry ∈ lists, ∀ v ∈ entry.2, v.isAtom = true

namespace ListMapping

variable (mapping : ListMapping)

/-- The mapping with its lists as values. -/
def entries : List (String × Value) := mapping.lists.map fun (name, items) => (name, .list items)

/-- The list under a name, which is empty where there is none. -/
def listed (name : String) : List Value := (Keyed.find? name mapping.lists).getD []

/-- The request that the mapping is read as. -/
def request : Request := ⟨mapping.entries⟩

theorem ofValue_entries : Request.ofValue (.record mapping.entries) = .ok mapping.request := by
  refine Request.ofValue_record_self ?_ fun entry hentry => ?_
  · rw [entries, List.map_map]
    exact mapping.nodup
  · -- lists are read as they are
    obtain ⟨list, -, rfl⟩ := List.mem_map.mp hentry
    rfl

theorem get?_request (name : String) :
    mapping.request.get? name = (Keyed.find? name mapping.lists).map .list := by
  rw [Request.get?, request, entries]
  induction mapping.lists with
  | nil => rfl
  | cons entry rest ih =>
    rw [List.map_cons, Keyed.find?, Keyed.find?, ih]
    split <;> rfl

theorem values_request : mapping.request.values = mapping.listed := by
  funext name
  rw [Request.values, Request.values?, get?_request, listed]
  cases Keyed.find? name mapping.lists <;> rfl

theorem onlyLists_request : mapping.request.OnlyLists := by
  intro name value hvalue
  rw [get?_request, Option.map_eq_some_iff] at hvalue
  obtain ⟨items, hitems, rfl⟩ := hvalue
  have hentry := Keyed.mem_of_find? hitems
  exact ⟨mapping.known _ hentry, items, rfl, mapping.atoms _ hentry⟩

end ListMapping

namespace Request.OnlyLists

variable {request : Request}

theorem onlyFilters (h : request.OnlyLists) : request.OnlyFilters :=
  fun name _ => h.scalar?_eq_none name

/-- Lists of texts and numbers leave the filters nothing to fail at. -/
theorem failure_filterContribution (h : request.OnlyLists) (safeMode adminMode : Bool) :
    (request.filterContribution safeMode adminMode).failure = .none := by
  have hplain : request.Plain := by
    intro name value hvalue
    simp [h.scalar?_eq_none name] at hvalue
  have hfails := failsIff_filterContribution hplain safeMode adminMode
  rw [← Contribution.outcome_eq_ok]
  cases houtcome : (request.filterContribution safeMode adminMode).outcome with
  | ok => rfl
  | error failure =>
    obtain ⟨name, _, n, hlong, _⟩ | ⟨name, _, lock, hlock, hkey⟩ :=
      hfails.fails_iff.mp ⟨failure, houtcome⟩
    · simp [h.scalar?_eq_none name] at hlong
    · rw [Value.hashable_of_isAtom (h.isAtom hlock)] at hkey
      exact absurd hkey (by decide)

end Request.OnlyLists

/-- In admin mode and without safe mode a query is built from lists wherever the session serves.
A post meets it if it has one of the checksums, all identifiers and none of the negated ones, and
if its locks are set or not as the lists say. So no post meets a query for an unknown lock. -/
theorem Session.buildsFrom_lists {session : Session} (hadmin : session.adminMode.truthy = true)
    (hsafe : session.safeMode.truthy = false) (mapping : ListMapping) (clock : Clock) :
    ((∃ query, session.BuildsFrom clock mapping.entries query) ↔ session.Serves) ∧
    ∀ query, session.BuildsFrom clock mapping.entries query →
      ∀ post : Post, post.values missingLockField = [] →
        (post.truth.meets query = true ↔ post.Selected mapping.listed) ∧
        ((∃ name ∈ ["locked", "locked_neg"], ∃ lock ∈ mapping.listed name,
          ∀ kind ∈ lockKinds, lock ≠ .text kind) → post.truth.meets query = false) := by
  have hread := mapping.ofValue_entries
  have honly := mapping.onlyLists_request
  constructor
  · rw [exists_buildsFrom_iff hread honly.onlyFilters]
    exact and_iff_left (honly.failure_filterContribution _ _)
  · intro query hbuilds post hmissing
    have hmeets : post.truth.meets query = true ↔ post.Selected mapping.listed := by
      rw [meets_of_buildsFrom hread honly.onlyFilters hbuilds, hsafe, hadmin,
        Request.admits_filters_of_onlyLists honly hmissing, mapping.values_request]
    refine ⟨hmeets, ?_⟩
    rintro ⟨name, hname, lock, hlock, hunknown⟩
    rw [Bool.eq_false_iff]
    intro hmet
    have hselected := hmeets.mp hmet
    have hlocked : ∃ isSet, post.IsLocked isSet lock := by
      simp only [List.mem_cons, List.not_mem_nil, or_false] at hname
      obtain rfl | rfl := hname
      · exact ⟨true, hselected.locked lock hlock⟩
      · exact ⟨false, hselected.unlocked lock hlock⟩
    obtain ⟨_, kind, hkind, hsame, _⟩ := hlocked
    exact hunknown kind hkind hsame

/-- Posts of a pool that are not in another one. -/
def ListMapping.ofPools : ListMapping where
  lists := [("md5", []), ("pool_ids", [.int 3]), ("pool_ids_neg", [.int 4])]
  nodup := by decide
  known := by decide +kernel
  atoms := by simp [Value.isAtom]

/-- A post of the pool meets the query that is built from these lists. -/
theorem Session.buildsFrom_lists_pools :
    administrator.adminMode.truthy = true ∧ administrator.safeMode.truthy = false ∧
    (Post.only "pools" (.int 3)).values missingLockField = [] ∧
    ∃ query, administrator.BuildsFrom .leapDay ListMapping.ofPools.entries query ∧
      (Post.only "pools" (.int 3)).truth.meets query = true ∧
      (Post.only "pools" (.int 4)).truth.meets query = false := by
  have hmissing : ∀ n, (Post.only "pools" (.int n)).values missingLockField = [] := by
    intro n
    rfl
  have hhas : ∀ n m, (Post.only "pools" (.int n)).Has "pools" (.int m) ↔ n = m := by
    intro n m
    simp [Post.Has, Post.only, Post.equals_iff, Post.compare]
  obtain ⟨hbuilds, hmeets⟩ := @buildsFrom_lists administrator rfl rfl
    ListMapping.ofPools .leapDay
  obtain ⟨query, hquery⟩ := hbuilds.mpr ⟨rfl, by decide +kernel⟩
  refine ⟨rfl, rfl, hmissing 3, query, hquery, ?_, ?_⟩
  · refine (hmeets query hquery _ (hmissing 3)).1.mpr ⟨.inl rfl, ?_, ?_, ?_, ?_⟩
    · simp [identifierLists, ListMapping.listed, ListMapping.ofPools, Keyed.find?, hhas]
    · simp [identifierLists, ListMapping.listed, ListMapping.ofPools, Keyed.find?, hhas, negated]
    · simp [ListMapping.listed, ListMapping.ofPools, Keyed.find?]
    · simp [ListMapping.listed, ListMapping.ofPools, Keyed.find?]
  · rw [Bool.eq_false_iff]
    intro hmet
    have hselected := (hmeets query hquery _ (hmissing 4)).1.mp hmet
    have hheld := hselected.holds ("pool_ids", "pools") (by decide) (.int 3) (by
      simp [ListMapping.listed, ListMapping.ofPools, Keyed.find?])
    exact absurd ((hhas 4 3).mp hheld) (by decide)

end BoardSearch
