import BoardSearch.Proofs.Compiler.Visibility

/-!
# Deleted posts that are excluded

Deleted posts can be excluded by the negated status. Such an exclusion turns off that they
are hidden by default, but it is itself left out wherever there is a status as well. So
with some statuses the search finds the posts that were excluded.

## Main definitions

* `Compiler.ExclusionHonoured`: with a status, no search finds deleted posts that are
  excluded;
* `Truth.onlyDeleted`: a post that is deleted, and of which everything else holds.

## Main statements

* `Compiler.exclusionHonoured_iff`: the statuses with which the exclusion is honoured;
* `Compiler.exclusion_lost_pending`: a search for posts that wait finds excluded ones.
-/

namespace BoardSearch

/-- A value that names a status is the text of that status. -/
theorem Status.eq_text_of_ofValue? {value : Value} {status : Status}
    (h : Status.ofValue? value = some status) : value = .text status.text := by
  have htext := Status.isText_of_ofValue? h
  cases value with
  | text s =>
    have hs : s = status.text := by simpa [Value.isText, Value.asText?] using htext
    rw [hs]
  | operator op =>
    have hdiffer : op.text ≠ status.text := by
      cases op <;> cases status <;> decide
    have hsame : op.text = status.text := by simpa [Value.isText, Value.asText?] using htext
    exact absurd hsame hdiffer
  | _ => simp [Value.isText, Value.asText?] at htext

/-- The post is deleted, and everything else that is asked for holds of it. -/
def Truth.onlyDeleted : Truth where
  holds
    | .term "deleted" (.bool isDeleted) => isDeleted
    | _ => true
  share := fun _ _ => 0

namespace Request

/-- The clauses for the status are one of the filters. -/
theorem statusContribution_mem (request : Request) (safeMode adminMode : Bool) :
    request.statusContribution ∈
      (filterParts safeMode adminMode).map fun part => part request := by
  refine List.mem_map.mpr ⟨statusContribution, ?_, rfl⟩
  simp [filterParts]

/-- The statuses that leave deleted posts in, so that an exclusion would be needed. -/
def statusesWithDeleted : List String :=
  ["pending", "flagged", "modqueue", "deleted", "any", "all"]

variable {τ : Truth} {request : Request}

/-- Where deleted posts are excluded, the clauses for the status admit none of them, unless
there is a status that leaves them in. -/
theorem holds_deleted_of_admits_status (h : request.statusContribution.Admits τ)
    (hstatus : ∀ word ∈ statusesWithDeleted, request.scalar? "status" ≠ some (.text word))
    (hnegated : request.scalar? "status_neg" = some (.text "deleted")) :
    τ.holds (.term "deleted" (.bool true)) = false ∨
      τ.holds (.term "deleted" (.bool false)) = true := by
  unfold statusContribution at h
  cases hnamed : request.status? "status" with
  | none =>
    -- without a status the exclusion is compiled
    have hdeleted : request.status? "status_neg" = some .deleted := by
      unfold status?
      rw [hnegated]
      decide
    rw [hnamed, hdeleted] at h
    exact .inl (Contribution.admits_exclude.mp h _ (List.mem_singleton.mpr rfl))
  | some status =>
    obtain ⟨value, hvalue, hofValue⟩ := Option.bind_eq_some_iff.mp hnamed
    obtain rfl := Status.eq_text_of_ofValue? hofValue
    rw [hnamed] at h
    cases status with
    | active =>
      exact .inr (Contribution.admits_require.mp h (Status.flag "deleted" false) (by simp))
    | _ => exact absurd hvalue (hstatus _ (by decide))

end Request

namespace Compiler

open Request (statusesWithDeleted)

/-- With a status, no search that was built without admin mode finds deleted posts where
they are excluded, whatever else is asked for and on top of whatever base. -/
def ExclusionHonoured (status : Option Value) : Prop :=
  ∀ (c : Compiler) (clock : Clock) (base : Option Search) (request : Request)
    (search : Search) (query : Query),
    c.parse = .ok request → c.session.adminMode.truthy = false →
    request.scalar? "status" = status →
    request.scalar? "status_neg" = some (.text "deleted") →
    (c.build clock base).result = .ok search → search.query = some query →
      ∀ τ : Truth,
        τ.holds (.term "deleted" (.bool true)) = !τ.holds (.term "deleted" (.bool false)) →
        τ.holds (.term "deleted" (.bool true)) = true → τ.meets query = false

/-- The metatags that exclude deleted posts in spite of a status. -/
def excludingDeleted (word : String) : Value :=
  .record [("status", .text word), ("status_neg", .text "deleted")]

/-- With a status that leaves deleted posts in, they are found in spite of the exclusion. -/
theorem finds_onlyDeleted : ∀ word ∈ statusesWithDeleted,
    ∃ search query,
      ((new (excludingDeleted word) .anonymous none).build .leapDay none).result = .ok search ∧
      search.query = some query ∧ Truth.onlyDeleted.meets query = true := by
  have hfinds : ∀ word ∈ statusesWithDeleted,
      (((new (excludingDeleted word) .anonymous none).build .leapDay none).result.toOption.bind
        (·.query)).map Truth.onlyDeleted.meets = some true := by
    decide +kernel
  intro word hword
  obtain ⟨query, hquery, hmeets⟩ := Option.map_eq_some_iff.mp (hfinds word hword)
  obtain ⟨search, hsearch, hquery⟩ := Option.bind_eq_some_iff.mp hquery
  refine ⟨search, query, ?_, hquery, hmeets⟩
  cases hresult : ((new (excludingDeleted word) .anonymous none).build .leapDay none).result with
  | error failure => simp [hresult, Except.toOption] at hsearch
  | ok search' =>
    rw [hresult] at hsearch
    rw [← Option.some.inj hsearch]

/-- That deleted posts are excluded is honoured just where there is no status, or one
that keeps deleted posts out by itself, or a status that nobody knows. -/
theorem exclusionHonoured_iff (status : Option Value) :
    ExclusionHonoured status ↔ ∀ word ∈ statusesWithDeleted, status ≠ some (.text word) := by
  constructor
  · rintro h word hword rfl
    obtain ⟨search, query, hbuild, hquery, hmeets⟩ := finds_onlyDeleted word hword
    have hstatus : (⟨[("status", .text word), ("status_neg", .text "deleted")]⟩ :
        Request).scalar? "status" = some (.text word) := by
      have hsome : word ≠ "" := by
        rintro rfl
        exact absurd hword (by decide)
      show (if word = "" then none else some (Value.text word)) = some (.text word)
      rw [if_neg hsome]
    have hnone := h (new (excludingDeleted word) .anonymous none) .leapDay none _ search query rfl
      rfl hstatus rfl hbuild hquery .onlyDeleted rfl rfl
    rw [hmeets] at hnone
    exact Bool.noConfusion hnone
  · rintro hstatus c clock base request search query hparse hadmin rfl hnegated hbuild hquery
      τ hcomplementary hdeleted
    obtain ⟨request', query', hparse', hquery', hadmits⟩ := admits_of_meets_built hbuild
    obtain rfl : request = request' := Except.ok.inj (hparse.symm.trans hparse')
    obtain rfl : query = query' := Option.some.inj (hquery.symm.trans hquery')
    refine Bool.eq_false_iff.mpr fun hmeets => ?_
    have hadmitted := Contribution.admits_all.mp (hadmits τ hmeets) _
      (Request.statusContribution_mem request _ _)
    obtain hnot | hkept := Request.holds_deleted_of_admits_status hadmitted hstatus hnegated
    · simp [hdeleted] at hnot
    · simp [hdeleted, hkept] at hcomplementary

/-- A search for posts that wait for a moderator, with deleted posts excluded, finds a
deleted one. -/
theorem exclusion_lost_pending :
    ∃ search query,
      ((new (.record [("status", .text "pending"), ("status_neg", .text "deleted")])
        .anonymous none).build .leapDay none).result = .ok search ∧
      search.query = some query ∧
      ∃ τ : Truth,
        τ.holds (.term "deleted" (.bool true)) = !τ.holds (.term "deleted" (.bool false)) ∧
        τ.holds (.term "deleted" (.bool true)) = true ∧ τ.meets query = true := by
  obtain ⟨search, query, hbuild, hquery, hmeets⟩ := finds_onlyDeleted "pending" (by decide)
  exact ⟨search, query, hbuild, hquery, .onlyDeleted, rfl, rfl, hmeets⟩

end Compiler

end BoardSearch
