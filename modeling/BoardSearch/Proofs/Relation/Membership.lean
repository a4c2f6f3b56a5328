import BoardSearch.Proofs.Relation.Range

/-!
# Membership and equality

A value is a member of a list when it is equal to one of the bounds as they stand. Equality with
a single bound asks for the same, unless the bound is a date or a moment: then equality takes in
the whole of its day, and membership does not.

## Main definitions

* `RangeCondition.Finds`: what a condition contributes for a field holds of a post.

## Main statements

* `RangeCondition.finds_oneOf`: a member is equal to one of the bounds;
* `RangeCondition.finds_oneOf_iff`: membership is the union of equalities, but for dates and
  moments.
-/

namespace BoardSearch.RangeCondition

/-- What the condition contributes for a field holds of a post. -/
def Finds (condition : RangeCondition) (field : String) (post : Post) : Prop :=
  ∀ q ∈ ((Contribution.require (condition.clauses field)).admitted field).must,
    post.truth.meets q = true

variable {field : String} {post : Post} {x : Stored} {bound upper : Value}

theorem finds_iff (condition : RangeCondition) (hfield : field ∉ reservedNames) :
    condition.Finds field post ↔ ∀ q ∈ condition.clauses field, post.truth.meets q = true := by
  rw [Finds, Contribution.admitted_of_not_reserved _ hfield]
  rfl

theorem clauses_eq_of_not_time (hnull : bound.isNull = false) (htime : bound.asMoment? = none) :
    clauses ⟨.eq, bound, upper⟩ field = [.term field bound] := by
  cases bound with
  | null => exact absurd hnull (by decide)
  | date | moment => exact absurd htime nofun
  | _ => rfl

section

variable (hfield : field ∉ reservedNames) (hx : post.values (fieldPath field) = [x])
include hfield hx

theorem finds_eq_of_not_time (hnull : bound.isNull = false) (htime : bound.asMoment? = none) :
    Finds ⟨.eq, bound, upper⟩ field post ↔ post.equals x bound = true := by
  rw [finds_iff _ hfield, clauses_eq_of_not_time hnull htime, List.forall_mem_singleton,
    Post.meets_term hx, Post.equals_iff]

theorem finds_eq_of_fits (hfits : x.Fits bound) :
    Finds ⟨.eq, bound, upper⟩ field post ↔ x.OnDay bound := by
  rw [finds_iff _ hfield]
  exact meets_clauses_eq upper hx hfits

/-- A member of a list is equal to one of the bounds. -/
theorem finds_oneOf (bounds : List Value) :
    Finds ⟨.oneOf, .list bounds, upper⟩ field post ↔ ∃ v ∈ bounds, post.equals x v = true := by
  rw [finds_iff _ hfield, clauses_oneOf rfl, List.forall_mem_singleton, Post.meets_oneOf hx]
  exact exists_congr fun v => and_congr_right fun _ => Post.equals_iff.symm

end

/-- A value is found by membership where equality with one of the bounds finds it; but where the
bound is a date or a moment, it has to be that very moment. Equality asks for the same day. -/
theorem finds_oneOf_iff (hfield : field ∉ reservedNames)
    (hx : post.values (fieldPath field) = [x]) {bounds : List Value}
    (hbounds : ∀ v ∈ bounds, v.isNull = false) :
    (Finds ⟨.oneOf, .list bounds, upper⟩ field post ↔
      ∃ v ∈ bounds, (v.asMoment? = none ∧ Finds ⟨.eq, v, upper⟩ field post) ∨
        (v.asMoment? ≠ none ∧ post.equals x v = true)) ∧
    ∀ v ∈ bounds, x.Fits v → (post.equals x v = true ↔ x.At v) ∧
      (Finds ⟨.eq, v, upper⟩ field post ↔ x.OnDay v) := by
  constructor
  · rw [finds_oneOf hfield hx]
    refine exists_congr fun v => and_congr_right fun hv => ?_
    by_cases htime : v.asMoment? = none
    · simp [htime, finds_eq_of_not_time hfield hx (hbounds v hv) htime]
    · simp [htime]
  · intro v _ hfits
    exact ⟨Post.equals_iff.trans (Post.compare_eq hfits), finds_eq_of_fits hfield hx hfits⟩

/-- One of the bounds is the moment itself, to the microsecond; the others are of other kinds. -/
theorem finds_oneOf_iff_moment :
    "created_at" ∉ reservedNames ∧
    (∀ v ∈ [Value.int 5, .text "never", .moment leapDayOver], v.isNull = false) ∧
    Finds ⟨.oneOf, .list [.int 5, .text "never", .moment leapDayOver], .null⟩ "created_at"
      (Post.only "created_at" (.time fun _ => (leapDayOver.date, .last))) := by
  have hfield : "created_at" ∉ reservedNames := by decide
  have hbounds : ∀ v ∈ [Value.int 5, .text "never", .moment leapDayOver], v.isNull = false := by
    simp [Value.isNull]
  obtain ⟨hfinds, hmoment⟩ := @finds_oneOf_iff "created_at"
    (Post.only "created_at" (.time fun _ => (leapDayOver.date, .last))) _ .null hfield rfl _ hbounds
  have hequal := (hmoment (.moment leapDayOver) (by simp) ⟨_, rfl⟩).1.mpr ⟨_, rfl, rfl⟩
  exact ⟨hfield, hbounds,
    hfinds.mpr ⟨.moment leapDayOver, by simp, .inr ⟨Option.some_ne_none _, hequal⟩⟩⟩

/-- Midnight is on the day of a bound without being the bound, so that it is equal to it and
no member of the list with it. And no clause at all is made about a field with the name of a
query itself, not even for an empty list. -/
theorem not_finds_oneOf_union :
    ¬(Finds ⟨.oneOf, .list [.moment leapDayOver], .null⟩ "created_at"
        (Post.only "created_at" (.time leapDayBegun)) ↔
      ∃ v ∈ [Value.moment leapDayOver], Finds ⟨.eq, v, .null⟩ "created_at"
        (Post.only "created_at" (.time leapDayBegun))) ∧
    ¬(Finds ⟨.oneOf, .list [], .null⟩ "self" (Post.only "self" (.int 5)) ↔
      ∃ v ∈ ([] : List Value), Finds ⟨.eq, v, .null⟩ "self" (Post.only "self" (.int 5))) := by
  constructor
  · have hfield : "created_at" ∉ reservedNames := by decide
    have hfits : (Stored.time leapDayBegun).Fits (.moment leapDayOver) := ⟨_, rfl⟩
    intro hiff
    have honDay : Finds ⟨.eq, .moment leapDayOver, .null⟩ "created_at"
        (Post.only "created_at" (.time leapDayBegun)) :=
      (finds_eq_of_fits hfield rfl hfits).mpr ⟨_, rfl, rfl⟩
    obtain ⟨v, hv, hequal⟩ := (finds_oneOf hfield rfl _).mp
      (hiff.mpr ⟨_, List.mem_singleton_self _, honDay⟩)
    obtain rfl := List.mem_singleton.mp hv
    obtain ⟨m, hm, hshown⟩ := (Post.compare_eq hfits).mp (Post.equals_iff.mp hequal)
    obtain rfl := Option.some.inj hm
    exact absurd hshown (by decide)
  · intro hiff
    obtain ⟨v, hv, -⟩ := hiff.mp fun q hq => absurd hq List.not_mem_nil
    exact absurd hv List.not_mem_nil

end BoardSearch.RangeCondition
