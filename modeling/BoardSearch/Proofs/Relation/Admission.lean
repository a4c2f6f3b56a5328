import BoardSearch.Proofs.Query.Meaning
import BoardSearch.Relation.Contribution

/-!
# What contributions admit

A contribution admits a post when it was made in full and the post meets what it
requires and nothing of what it excludes. So contributions in a row admit just what
each of them admits, and none of them can widen what another one does.

## Main definitions

* `Contribution.Admits`: a contribution admits a post;
* `Contribution.outcome`: how a contribution ended.

## Main statements

* `Contribution.admits_all`: contributions in a row admit what each of them admits;
* `Contribution.failure_all_eq_none`: they are made in full when each of them is.
-/

namespace BoardSearch.Contribution

/-- The contribution was made in full, and the post meets it. -/
def Admits (τ : Truth) (c : Contribution) : Prop :=
  c.failure = .none ∧ (∀ q ∈ c.must, τ.meets q = true) ∧ ∀ q ∈ c.mustNot, τ.meets q = false

/-- How a contribution ended. -/
def outcome (contribution : Contribution) : Except Failure Unit :=
  match contribution.failure with
  | some failure => .error failure
  | .none => .ok ()

theorem outcome_eq_ok {contribution : Contribution} :
    contribution.outcome = .ok () ↔ contribution.failure = .none := by
  unfold outcome
  cases contribution.failure <;> simp

variable {τ : Truth}

@[simp]
theorem admits_none : Admits τ none := by
  simp [Admits, none]

@[simp]
theorem admits_require {queries : List Query} :
    Admits τ (require queries) ↔ ∀ q ∈ queries, τ.meets q = true := by
  simp [Admits, require]

@[simp]
theorem admits_exclude {queries : List Query} :
    Admits τ (exclude queries) ↔ ∀ q ∈ queries, τ.meets q = false := by
  simp [Admits, exclude]

@[simp]
theorem not_admits_fail {failure : Failure} : ¬ Admits τ (fail failure) := by
  simp [Admits, fail]

theorem failure_andThen (a b : Contribution) :
    (a.andThen b).failure = .none ↔ a.failure = .none ∧ b.failure = .none := by
  obtain ⟨must, mustNot, failure⟩ := a
  cases failure <;> simp [andThen]

/-- A contribution after another one narrows down what is admitted. -/
theorem admits_andThen (a b : Contribution) :
    Admits τ (a.andThen b) ↔ Admits τ a ∧ Admits τ b := by
  obtain ⟨must, mustNot, failure⟩ := a
  cases failure with
  | some failure => simp [andThen, Admits]
  | none =>
    simp only [andThen, Admits, List.mem_append, true_and]
    constructor
    · rintro ⟨hnone, hmust, hnot⟩
      exact ⟨⟨fun q hq => hmust q (.inl hq), fun q hq => hnot q (.inl hq)⟩, hnone,
        fun q hq => hmust q (.inr hq), fun q hq => hnot q (.inr hq)⟩
    · rintro ⟨⟨hmust, hnot⟩, hnone, hmust', hnot'⟩
      exact ⟨hnone, fun q hq => hq.elim (hmust q) (hmust' q),
        fun q hq => hq.elim (hnot q) (hnot' q)⟩

/-- Contributions in a row are made in full when each of them is. -/
theorem failure_all_eq_none {cs : List Contribution} :
    (all cs).failure = .none ↔ ∀ c ∈ cs, c.failure = .none := by
  induction cs with
  | nil => simp [all, none]
  | cons c cs ih =>
    have hcons : all (c :: cs) = c.andThen (all cs) := rfl
    rw [hcons, failure_andThen, ih, List.forall_mem_cons]

/-- Contributions in a row admit what each of them admits. -/
theorem admits_all {cs : List Contribution} : Admits τ (all cs) ↔ ∀ c ∈ cs, Admits τ c := by
  induction cs with
  | nil => simp [all]
  | cons c cs ih =>
    have hcons : all (c :: cs) = c.andThen (all cs) := rfl
    rw [hcons, admits_andThen, ih, List.forall_mem_cons]

end BoardSearch.Contribution
