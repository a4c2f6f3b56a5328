import BoardSearch.Failure
import BoardSearch.Proofs.Outcome

/-!
# Breaking operations

An operation may refuse a search for the number of its tags. Where it fails in another
way it breaks. What makes an operation break is put together from what makes its parts
break.

## Main definitions

* `Failure.isFault`: a failure that says nothing to the person who searches;
* `OnlyFaults`: an operation fails in no other way;
* `Breaks`: an operation fails, and not by a refusal;
* `FailsIff`: an operation fails just under a condition, and then by a fault.

## Main statements

* `breaks_bind`: two operations one after another break where one of them does;
* `FailsIff.bind`, `FailsIff.mapM`: the condition for operations in a row.
-/

namespace BoardSearch

variable {α β : Type}

/-- A failure that does not tell the person what is wrong with the search, and that does not
come from what was called. -/
@[simp]
def Failure.isFault : Failure → Bool
  | .tagLimit _ _ | .noTokenizer | .unreadableTime _ | .unreadableSearch _ | .noObject
  | .raised _ _ | .interrupted _ => false
  | _ => true

/-- The operation fails by faults alone. -/
def OnlyFaults (x : Except Failure α) : Prop :=
  ∀ failure, x = .error failure → failure.isFault = true

theorem onlyFaults_ok (a : α) : OnlyFaults (.ok a : Except Failure α) := by
  intro failure h
  simp at h

theorem onlyFaults_error {failure : Failure} (h : failure.isFault = true) :
    OnlyFaults (.error failure : Except Failure α) :=
  fun _ heq => Except.error.inj heq ▸ h

theorem onlyFaults_bind {x : Except Failure α} {f : α → Except Failure β}
    (h : OnlyFaults x) (hnext : ∀ a, OnlyFaults (f a)) : OnlyFaults (x >>= f) := by
  intro failure heq
  obtain hfirst | ⟨a, _, hsecond⟩ := bind_eq_error.mp heq
  · exact h failure hfirst
  · exact hnext a failure hsecond

theorem onlyFaults_map {x : Except Failure α} (h : OnlyFaults x) (f : α → β) :
    OnlyFaults (x.map f) := by
  intro failure heq
  exact h failure (map_eq_error.mp heq)

theorem onlyFaults_mapM {f : α → Except Failure β} (h : ∀ a, OnlyFaults (f a))
    (items : List α) : OnlyFaults (items.mapM f) := by
  induction items with
  | nil => exact onlyFaults_ok []
  | cons item rest ih =>
    rw [List.mapM_cons]
    exact onlyFaults_bind (h item) fun _ => onlyFaults_bind ih fun _ => onlyFaults_ok _

/-- An operation that fails by faults alone does not refuse a search. -/
theorem OnlyFaults.ne_refusal {x : Except Failure α} (h : OnlyFaults x) (limit : Value)
    (count : Int) : x ≠ .error (.tagLimit limit count) :=
  fun heq => absurd (h _ heq) Bool.false_ne_true

/-- The operation fails in another way than by refusing a search for its tags. -/
def Breaks (x : Except Failure α) : Prop :=
  ∃ failure, x = .error failure ∧ ∀ limit count, failure ≠ .tagLimit limit count

/-- An operation that does not break returns a result or refuses the search. -/
theorem not_breaks_iff {x : Except Failure α} :
    ¬ Breaks x ↔ (∃ a, x = .ok a) ∨ ∃ limit count, x = .error (.tagLimit limit count) := by
  constructor
  · intro hnot
    cases x with
    | ok a => exact .inl ⟨a, rfl⟩
    | error failure =>
      by_cases hrefusal : ∃ limit count, failure = .tagLimit limit count
      · obtain ⟨limit, count, rfl⟩ := hrefusal
        exact .inr ⟨limit, count, rfl⟩
      · exact absurd ⟨failure, rfl, fun limit count heq => hrefusal ⟨limit, count, heq⟩⟩ hnot
  · rintro (⟨a, rfl⟩ | ⟨limit, count, rfl⟩) ⟨failure, hfails, hbreaks⟩
    · simp at hfails
    · exact hbreaks limit count (Except.error.inj hfails).symm

/-- An operation breaks where its first part does, or the second after the first. -/
theorem breaks_bind {x : Except Failure α} {f : α → Except Failure β} :
    Breaks (x >>= f) ↔ Breaks x ∨ ∃ a, x = .ok a ∧ Breaks (f a) := by
  constructor
  · rintro ⟨failure, hfails, hbreaks⟩
    obtain hfirst | ⟨a, ha, hsecond⟩ := bind_eq_error.mp hfails
    · exact .inl ⟨failure, hfirst, hbreaks⟩
    · exact .inr ⟨a, ha, failure, hsecond, hbreaks⟩
  · rintro (⟨failure, hfirst, hbreaks⟩ | ⟨a, ha, failure, hsecond, hbreaks⟩)
    · exact ⟨failure, bind_eq_error.mpr (.inl hfirst), hbreaks⟩
    · exact ⟨failure, bind_eq_error.mpr (.inr ⟨a, ha, hsecond⟩), hbreaks⟩

/-- The operation fails just under the condition, and by a fault alone. -/
structure FailsIff (x : Except Failure α) (condition : Prop) : Prop where
  isFault : OnlyFaults x
  fails_iff : (∃ failure, x = .error failure) ↔ condition

namespace FailsIff

variable {x : Except Failure α} {condition condition' : Prop}

theorem ok (a : α) : FailsIff (.ok a : Except Failure α) False where
  isFault := onlyFaults_ok a
  fails_iff := by simp

theorem error {failure : Failure} (h : failure.isFault = true) :
    FailsIff (.error failure : Except Failure α) True where
  isFault := onlyFaults_error h
  fails_iff := by simp

theorem not_refusal (h : FailsIff x condition) (limit : Value) (count : Int) :
    x ≠ .error (.tagLimit limit count) :=
  h.isFault.ne_refusal limit count

/-- A condition can be put in other words. -/
theorem congr (h : FailsIff x condition) (hiff : condition ↔ condition') :
    FailsIff x condition' where
  isFault := h.isFault
  fails_iff := h.fails_iff.trans hiff

/-- An operation that fails by a fault alone breaks where it fails. -/
theorem breaks_iff (h : FailsIff x condition) : Breaks x ↔ condition := by
  rw [← h.fails_iff]
  constructor
  · rintro ⟨failure, hfails, _⟩
    exact ⟨failure, hfails⟩
  · rintro ⟨failure, hfails⟩
    exact ⟨failure, hfails, fun limit count heq => h.not_refusal limit count (heq ▸ hfails)⟩

/-- Without the condition there is a result. -/
theorem exists_ok (h : FailsIff x condition) (hnot : ¬ condition) : ∃ a, x = .ok a := by
  cases x with
  | error failure => exact absurd (h.fails_iff.mp ⟨failure, rfl⟩) hnot
  | ok a => exact ⟨a, rfl⟩

/-- There is a result just without the condition. -/
theorem exists_ok_iff (h : FailsIff x condition) : (∃ a, x = .ok a) ↔ ¬condition := by
  refine ⟨?_, h.exists_ok⟩
  rintro ⟨a, rfl⟩ hcondition
  obtain ⟨failure, hfails⟩ := h.fails_iff.mpr hcondition
  exact absurd hfails nofun

/-- Two operations one after another, the condition for the second depending on the
result of the first. -/
theorem bind_of {f : α → Except Failure β} (h : FailsIff x condition) (next : α → Prop)
    (hnext : ∀ a, x = .ok a → FailsIff (f a) (next a)) :
    FailsIff (x >>= f) (condition ∨ ∃ a, x = .ok a ∧ next a) where
  isFault := by
    intro failure hfails
    obtain hfirst | ⟨a, ha, hsecond⟩ := bind_eq_error.mp hfails
    · exact h.isFault failure hfirst
    · exact (hnext a ha).isFault failure hsecond
  fails_iff := by
    constructor
    · rintro ⟨failure, heq⟩
      obtain hfirst | ⟨a, ha, hsecond⟩ := bind_eq_error.mp heq
      · exact .inl (h.fails_iff.mp ⟨failure, hfirst⟩)
      · exact .inr ⟨a, ha, (hnext a ha).fails_iff.mp ⟨failure, hsecond⟩⟩
    · rintro (hcondition | ⟨a, ha, hcondition⟩)
      · obtain ⟨failure, hfirst⟩ := h.fails_iff.mpr hcondition
        exact ⟨failure, bind_eq_error.mpr (.inl hfirst)⟩
      · obtain ⟨failure, hsecond⟩ := (hnext a ha).fails_iff.mpr hcondition
        exact ⟨failure, bind_eq_error.mpr (.inr ⟨a, ha, hsecond⟩)⟩

/-- Two operations one after another fail under the condition of either. -/
theorem bind {f : α → Except Failure β} (h : FailsIff x condition)
    (hnext : ∀ a, x = .ok a → FailsIff (f a) condition') :
    FailsIff (x >>= f) (condition ∨ condition') := by
  refine (h.bind_of (fun _ => condition') hnext).congr ?_
  constructor
  · rintro (hcondition | ⟨_, _, hcondition⟩)
    · exact .inl hcondition
    · exact .inr hcondition
  · rintro (hcondition | hcondition')
    · exact .inl hcondition
    · -- the second condition counts also where the first operation has failed
      by_cases hcondition : condition
      · exact .inl hcondition
      · obtain ⟨a, ha⟩ := h.exists_ok hcondition
        exact .inr ⟨a, ha, hcondition'⟩

/-- What is made of a result adds no failure. -/
theorem map (h : FailsIff x condition) (f : α → β) : FailsIff (x.map f) condition where
  isFault := onlyFaults_map h.isFault f
  fails_iff := by
    rw [← h.fails_iff]
    exact exists_congr fun failure => map_eq_error

/-- An operation on every item of a row fails if it does on one of them. -/
theorem mapM {f : α → Except Failure β} {fails : α → Prop} {items : List α}
    (h : ∀ a, FailsIff (f a) (fails a)) : FailsIff (items.mapM f) (∃ a ∈ items, fails a) := by
  induction items with
  | nil => exact (ok []).congr (by simp)
  | cons a rest ih =>
    rw [List.mapM_cons]
    refine ((h a).bind fun b _ => ih.bind fun bs _ => ok (b :: bs)).congr ?_
    simp

end FailsIff

end BoardSearch
