import BoardSearch.Proofs.Relation.Admission
import BoardSearch.Proofs.Request.Breaking
import BoardSearch.Relation.Filter

/-!
# Filters that break

Most parts of the filters are made in full whatever the request is. A pattern has to be
written out, a lock has to be a possible key, and so has a status where deleted posts
are hidden.

## Main definitions

* `Request.IsLong`: a scalar is an integer that is too long to be written out.

## Main statements

* `Contribution.failsIff_append`: contributions fail where one of them does;
* `Request.failsIff_filterContribution`: what makes the filters of a request fail.
-/

namespace BoardSearch

namespace Contribution

variable {fails fails' : Prop}

theorem outcome_andThen (a b : Contribution) :
    (a.andThen b).outcome = a.outcome >>= fun _ => b.outcome := by
  obtain ⟨must, mustNot, failure⟩ := a
  cases failure <;> rfl

/-- A contribution that was made in full has not failed. -/
theorem failsIff_of_failure {c : Contribution} (h : c.failure = .none) :
    FailsIff c.outcome False := by
  rw [outcome_eq_ok.mpr h]
  exact .ok ()

/-- Contributions that were all made in full have not failed. -/
theorem failsIff_whole {cs : List Contribution} (h : ∀ c ∈ cs, c.failure = .none) :
    FailsIff (all cs).outcome False :=
  failsIff_of_failure (failure_all_eq_none.mpr h)

/-- Contributions in a row fail where the first one or the others do. -/
theorem failsIff_cons {c : Contribution} {cs : List Contribution}
    (h : FailsIff c.outcome fails) (hs : FailsIff (all cs).outcome fails') :
    FailsIff (all (c :: cs)).outcome (fails ∨ fails') := by
  have hcons : all (c :: cs) = c.andThen (all cs) := rfl
  rw [hcons, outcome_andThen]
  exact h.bind fun _ _ => hs

theorem failsIff_nil : FailsIff (all []).outcome False := .ok ()

theorem all_append (cs cs' : List Contribution) : all (cs ++ cs') = (all cs).andThen (all cs') := by
  induction cs with
  | nil => rfl
  | cons c cs ih =>
    show c.andThen (all (cs ++ cs')) = (c.andThen (all cs)).andThen (all cs')
    rw [ih, andThen_assoc]

/-- Two rows of contributions fail where one of them does. -/
theorem failsIff_append {cs cs' : List Contribution} (h : FailsIff (all cs).outcome fails)
    (h' : FailsIff (all cs').outcome fails') :
    FailsIff (all (cs ++ cs')).outcome (fails ∨ fails') := by
  rw [all_append, outcome_andThen]
  exact h.bind fun _ _ => h'

/-- The contributions of the items of a row fail where one of them does. -/
theorem failsIff_all_map {α : Type} {items : List α} {contribution : α → Contribution}
    {failsOn : α → Prop} (h : ∀ a, FailsIff (contribution a).outcome (failsOn a)) :
    FailsIff (all (items.map contribution)).outcome (∃ a ∈ items, failsOn a) := by
  induction items with
  | nil => exact failsIff_nil.congr (by simp)
  | cons a rest ih => exact (failsIff_cons (h a) ih).congr (by simp)

/-- The contribution of a value fails where there is the value and it fails on it. -/
theorem failsIff_ofOption {α : Type} {value : Option α} {contribution : α → Contribution}
    {failsOn : α → Prop} (h : ∀ a, value = some a → FailsIff (contribution a).outcome (failsOn a)) :
    FailsIff (ofOption value contribution).outcome (∃ a, value = some a ∧ failsOn a) := by
  cases value with
  | none => exact (FailsIff.ok ()).congr (by simp)
  | some a => exact (h a rfl).congr (by simp)

theorem failure_ofOption {α : Type} {value : Option α} {contribution : α → Contribution}
    (h : ∀ a, (contribution a).failure = .none) :
    (ofOption value contribution).failure = .none := by
  cases value with
  | none => rfl
  | some a => exact h a

end Contribution

namespace Request

open Contribution

variable (request : Request)

/-! ## Parts that are made in full -/

theorem failure_safety (safeMode : Bool) : (safetyContribution safeMode).failure = .none := by
  cases safeMode <;> rfl

theorem failure_range (name field : String) :
    (request.rangeContribution name field).failure = .none :=
  failure_ofOption fun _ => rfl

theorem failure_checksum : request.checksumContribution.failure = .none := by
  unfold checksumContribution
  dsimp only
  split <;> rfl

theorem failure_status : request.statusContribution.failure = .none := by
  unfold statusContribution
  split
  · rename_i status _
    cases status <;> rfl
  · refine failure_ofOption fun status : Status => ?_
    cases status <;> rfl

theorem failure_array (name field : String) (toggle : Option String) :
    (request.arrayContribution name field toggle).failure = .none := by
  refine failure_all_eq_none.mpr ?_
  simp only [List.forall_mem_cons, List.mem_nil_iff, false_implies, implies_true, and_true]
  refine ⟨rfl, rfl, failure_ofOption fun value => ?_⟩
  split
  · rfl
  · split <;> rfl

theorem failure_single (name : String) (query : Value → Query) :
    (request.singleContribution name query).failure = .none := by
  refine failure_all_eq_none.mpr ?_
  simp only [List.forall_mem_cons, List.mem_nil_iff, false_implies, implies_true, and_true]
  exact ⟨failure_ofOption fun _ => rfl, failure_ofOption fun _ => rfl⟩

theorem failure_vote : request.voteContribution.failure = .none := by
  refine failure_all_eq_none.mpr ?_
  simp only [List.forall_mem_cons, List.mem_nil_iff, false_implies, implies_true, and_true]
  exact ⟨failure_ofOption fun _ => rfl, failure_ofOption fun _ => rfl⟩

theorem failure_child : request.childContribution.failure = .none := by
  refine failure_ofOption fun value => ?_
  split
  · rfl
  · split <;> rfl

theorem failure_presence (name field : String) :
    (request.presenceContribution name field).failure = .none := by
  refine failure_ofOption fun value => ?_
  split <;> rfl

theorem failure_identifier : request.identifierContribution.failure = .none :=
  failure_ofOption fun _ => rfl

theorem failure_tag : request.tagContribution.failure = .none :=
  failure_ofOption fun _ => rfl

/-! ## Parts that can fail -/

/-- The scalar under a name is an integer that is too long to be written out. -/
def IsLong (name : String) : Prop :=
  ∃ n, request.scalar? name = some (.int n) ∧ Value.isShort n = false

variable {request}

/-- A pattern fails where it cannot be written out. -/
theorem failsIff_like (field : String) (pattern : Value) (contribution : List Query → Contribution)
    (h : ∀ queries, (contribution queries).failure = .none) :
    FailsIff (ofQuery (likeQuery field pattern) contribution).outcome
      (pattern.hasText = false) := by
  unfold likeQuery Value.written
  cases htext : pattern.hasText with
  | true =>
    rw [if_pos rfl]
    exact (failsIff_of_failure (h _)).congr (by simp)
  | false =>
    rw [if_neg Bool.false_ne_true]
    exact (FailsIff.error (by simp)).congr (by simp)

/-- A pattern under a name fails where it is an integer that is too long. -/
theorem failsIff_pattern (hplain : request.Plain) (name : String)
    {contribution : Value → Contribution}
    (h : ∀ pattern, FailsIff (contribution pattern).outcome (pattern.hasText = false)) :
    FailsIff (ofOption (request.scalar? name) contribution).outcome (request.IsLong name) := by
  refine (failsIff_ofOption fun pattern _ => h pattern).congr ?_
  constructor
  · rintro ⟨pattern, hpattern, hlong⟩
    obtain ⟨n, rfl, hn⟩ := Value.eq_int_of_isAtom (hplain name pattern hpattern) hlong
    exact ⟨n, hpattern, hn⟩
  · rintro ⟨n, hpattern, hn⟩
    exact ⟨.int n, hpattern, hn⟩

/-- A text can be written out. -/
theorem hasText_of_isText {value : Value} {word : String} (h : value.isText word = true) :
    value.hasText = true := by
  cases value <;> simp_all [Value.isText, Value.asText?, Value.hasText]

/-- A pattern with a clause of its own need not be written out. -/
theorem failsIff_unless_isText {pattern : Value} {word : String} {c c' : Contribution}
    (h : c.failure = .none) (h' : FailsIff c'.outcome (pattern.hasText = false)) :
    FailsIff (if pattern.isText word then c else c').outcome (pattern.hasText = false) := by
  by_cases hword : pattern.isText word = true
  · rw [if_pos hword]
    exact (failsIff_of_failure h).congr (by simp [hasText_of_isText hword])
  · rw [if_neg hword]
    exact h'

theorem failsIff_sourceOf (pattern : Value) :
    FailsIff (sourceOf pattern).outcome (pattern.hasText = false) := by
  have hlike := failsIff_like "source" pattern .require fun _ => rfl
  exact failsIff_unless_isText rfl (failsIff_unless_isText rfl hlike)

theorem failsIff_negatedSourceOf (pattern : Value) :
    FailsIff (negatedSourceOf pattern).outcome (pattern.hasText = false) := by
  have hlike := failsIff_like "source" pattern .exclude fun _ => rfl
  exact failsIff_unless_isText rfl (failsIff_unless_isText rfl hlike)

theorem failsIff_source (hplain : request.Plain) :
    FailsIff request.sourceContribution.outcome
      (request.IsLong "source" ∨ request.IsLong "source_neg") := by
  refine (failsIff_cons (failsIff_pattern hplain "source" failsIff_sourceOf)
    (failsIff_cons (failsIff_pattern hplain "source_neg" failsIff_negatedSourceOf)
      failsIff_nil)).congr ?_
  rw [or_false]

theorem failsIff_wildcard (hplain : request.Plain) (name field : String) :
    FailsIff (request.wildcardContribution name field).outcome
      (request.IsLong name ∨ request.IsLong (negated name)) := by
  have hlike := fun pattern => failsIff_like field pattern .require fun _ => rfl
  have hnegated := fun pattern => failsIff_like field pattern .exclude fun _ => rfl
  refine (failsIff_cons (failsIff_pattern hplain name hlike)
    (failsIff_cons (failsIff_pattern hplain (negated name) hnegated) failsIff_nil)).congr ?_
  rw [or_false]

/-- A lock fails where it cannot be a key: where it is a list or an object. -/
theorem failsIff_lockOf (isSet : Bool) (lock : Value) :
    FailsIff (lockOf isSet lock).outcome (lock.hashable = false) := by
  unfold lockOf
  split
  · rename_i hkey
    exact (failsIff_of_failure rfl).congr (by simp [hkey])
  · rename_i hkey
    exact (FailsIff.error (by simp)).congr (by simpa using hkey)

theorem failsIff_lock (request : Request) :
    FailsIff request.lockContribution.outcome
      (∃ name ∈ ["locked", "locked_neg"], ∃ lock ∈ request.values name,
        lock.hashable = false) := by
  refine (failsIff_cons (failsIff_all_map (failsIff_lockOf true))
    (failsIff_cons (failsIff_all_map (failsIff_lockOf false)) failsIff_nil)).congr ?_
  simp

/-- The status of a plain request can be looked up. -/
theorem showsDeleted_eq_ok (hplain : request.Plain) (name : String) :
    ∃ shows, request.showsDeleted name = .ok shows := by
  unfold showsDeleted
  cases hscalar : request.scalar? name with
  | none => exact ⟨false, rfl⟩
  | some value =>
    have hkey : value.hashable = true := Value.hashable_of_isAtom (hplain name value hscalar)
    simp only [hkey, if_true]
    exact ⟨_, rfl⟩

/-- Deleted posts are hidden or not without a failure where the request is plain. -/
theorem failure_visibility (hplain : request.Plain) (adminMode : Bool) :
    (request.visibilityContribution adminMode).failure = .none := by
  have hhides : ∃ hides, request.hidesDeleted adminMode = .ok hides := by
    unfold hidesDeleted
    obtain ⟨shows, hshows⟩ := showsDeleted_eq_ok hplain "status"
    obtain ⟨shows', hshows'⟩ := showsDeleted_eq_ok hplain "status_neg"
    rw [hshows, hshows']
    cases adminMode
    · cases shows <;> exact ⟨_, rfl⟩
    · exact ⟨_, rfl⟩
  obtain ⟨hides, hhides⟩ := hhides
  unfold visibilityContribution
  rw [hhides]
  cases hides <;> rfl

/-- The filters of a plain request fail where a pattern is an integer that is too long to
be written out, or where a lock is a list or an object. -/
theorem failsIff_filterContribution (hplain : request.Plain) (safeMode adminMode : Bool) :
    FailsIff (request.filterContribution safeMode adminMode).outcome
      ((∃ name ∈ ["source", "source_neg", "delreason", "delreason_neg"], request.IsLong name) ∨
        ∃ name ∈ ["locked", "locked_neg"], ∃ lock ∈ request.values name,
          lock.hashable = false) := by
  have hranges : ∀ c ∈ ((rangeMetatags ++ countRangeMetatags).map fun metatag =>
      request.rangeContribution metatag.1 metatag.2), c.failure = .none :=
    List.forall_mem_map.mpr fun metatag _ => failure_range request metatag.1 metatag.2
  have harrays : ∀ c ∈ arrayMetatags.map fun metatag =>
      request.arrayContribution metatag.1 metatag.2.1 metatag.2.2, c.failure = .none :=
    List.forall_mem_map.mpr fun metatag _ => failure_array request metatag.1 _ _
  have hsingles : ∀ c ∈ singleMetatags.map fun metatag =>
      request.singleContribution metatag.1 metatag.2, c.failure = .none :=
    List.forall_mem_map.mpr fun metatag _ => failure_single request metatag.1 metatag.2
  have hpresence : ∀ c ∈ presenceMetatags.map fun metatag =>
      request.presenceContribution metatag.1 metatag.2, c.failure = .none :=
    List.forall_mem_map.mpr fun metatag _ => failure_presence request metatag.1 metatag.2
  have hflags : ∀ c ∈ flagMetatags.map fun metatag =>
      request.flagContribution metatag.1 metatag.2, c.failure = .none :=
    List.forall_mem_map.mpr fun metatag _ => failure_ofOption fun _ => rfl
  have hconditions := failsIff_cons (failsIff_of_failure request.failure_checksum)
    (failsIff_cons (failsIff_of_failure request.failure_status)
      (failsIff_cons (failsIff_of_failure (failure_visibility hplain adminMode))
        (failsIff_cons (failsIff_source hplain) failsIff_nil)))
  have hothers := failsIff_cons (failsIff_of_failure request.failure_vote)
    (failsIff_cons (failsIff_wildcard hplain "delreason" "del_reason")
      (failsIff_cons (failsIff_of_failure request.failure_identifier)
        (failsIff_cons (failsIff_of_failure request.failure_child)
          (failsIff_cons (failsIff_lock request) failsIff_nil))))
  have hsafety := failsIff_cons (failsIff_of_failure (failure_safety safeMode)) failsIff_nil
  have htags := failsIff_cons (failsIff_of_failure request.failure_tag) failsIff_nil
  -- only the conditions, the patterns and the locks have parts that can fail
  unfold filterContribution filterParts
  simp only [List.map_append, List.map_map]
  refine (failsIff_append (failsIff_append (failsIff_append (failsIff_append (failsIff_append
    (failsIff_append (failsIff_append (failsIff_append hsafety (failsIff_whole hranges))
      hconditions) (failsIff_whole harrays)) (failsIff_whole hsingles)) hothers)
        (failsIff_whole hpresence)) (failsIff_whole hflags)) htags).congr ?_
  simp [negated, or_assoc]

end Request

end BoardSearch
