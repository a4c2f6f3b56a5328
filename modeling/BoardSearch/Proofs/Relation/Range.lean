import BoardSearch.Proofs.Calendar.Order
import BoardSearch.Proofs.Query.Post
import BoardSearch.Relation.Contribution
import BoardSearch.Relation.Range

/-!
# What range conditions select

The clauses of a range condition hold together of just the values that the condition
describes: integers that compare with its bounds, and moments that do so by what a clock of
the bound's zone shows. A moment is equal to a date, or to another moment, when it is on
that day.

## Main definitions

* `Stored.Fits`, `RangeCondition.Fits`: a bound, and those of a condition, are of the kind of
  a value;
* `Stored.Before`, `Stored.After`, `Stored.At`, `Stored.OnDay`: how a value stands to a
  bound;
* `RangeCondition.Selects`: a condition describes a value.

## Main statements

* `Post.compare_of_fits`: a post compares its values with bounds as the calendar does;
* `Post.meets_day`: a day is the moments from its first to its last microsecond;
* `RangeCondition.clauses_select`: the clauses of a condition hold of what it selects.
-/

namespace BoardSearch

/-! ## How values stand to bounds -/

namespace Stored

/-- The bound is a date or a moment where the value is a moment, and an integer where it is
an integer. -/
def Fits : Stored → Value → Prop
  | .int _, .int _ => True
  | .time _, bound => ∃ m, bound.asMoment? = some m
  | _, _ => False

/-- The value is less than the bound, or the clock of the bound shows an earlier time. -/
def Before : Stored → Value → Prop
  | .int n, .int m => n < m
  | .time clock, bound => ∃ m, bound.asMoment? = some m ∧ (m.zone.reads clock).parts < m.parts
  | _, _ => False

/-- The value is greater than the bound, or the clock of the bound shows a later time. -/
def After : Stored → Value → Prop
  | .int n, .int m => m < n
  | .time clock, bound => ∃ m, bound.asMoment? = some m ∧ m.parts < (m.zone.reads clock).parts
  | _, _ => False

/-- The value is the bound, or the clock of the bound shows its time. -/
def At : Stored → Value → Prop
  | .int n, .int m => n = m
  | .time clock, bound => ∃ m, bound.asMoment? = some m ∧ clock m.zone = (m.date, m.time)
  | _, _ => False

/-- The value is the bound, or the clock of the bound shows its date. -/
def OnDay : Stored → Value → Prop
  | .int n, .int m => n = m
  | .time clock, bound => ∃ m, bound.asMoment? = some m ∧ (clock m.zone).1 = m.date
  | _, _ => False

end Stored

theorem Stored.Fits.isNull {x : Stored} {bound : Value} (h : x.Fits bound) :
    bound.isNull = false := by
  cases bound with
  | null =>
    cases x with
    | time clock =>
      obtain ⟨m, hm⟩ := h
      exact absurd hm nofun
    | _ => exact absurd h id
  | _ => rfl

theorem Value.isNull_of_members? {bound : Value} {members : List Value}
    (h : bound.members? = some members) : bound.isNull = false := by
  cases bound with
  | null => exact absurd h nofun
  | _ => rfl

/-- A post compares its values with bounds of their kind as they stand to each other. -/
theorem Post.compare_of_fits (post : Post) {x : Stored} {bound : Value} (h : x.Fits bound) :
    ∃ order, post.compare x bound = some order ∧
      (order = .lt ↔ x.Before bound) ∧ (order = .eq ↔ x.At bound) ∧
      (order = .gt ↔ x.After bound) := by
  match x, bound, h with
  | .int n, .int m, _ =>
    exact ⟨Ord.compare n m, rfl, Int.compare_eq_lt, Int.compare_eq_eq, Int.compare_eq_gt⟩
  | .time clock, bound, h =>
    obtain ⟨m, hm⟩ := h
    refine ⟨Ord.compare (m.zone.reads clock).wallMicroseconds m.wallMicroseconds, ?_, ?_, ?_, ?_⟩
    · simp only [compare, hm]
    · simp only [Stored.Before, hm, Option.some.injEq, exists_eq_left']
      exact Int.compare_eq_lt.trans Moment.wallMicroseconds_lt_iff
    · simp only [Stored.At, hm, Option.some.injEq, exists_eq_left']
      rw [Int.compare_eq_eq, Moment.wallMicroseconds_inj, Prod.ext_iff]
      rfl
    · simp only [Stored.After, hm, Option.some.injEq, exists_eq_left']
      exact Int.compare_eq_gt.trans Moment.wallMicroseconds_lt_iff

namespace Post

variable {post : Post} {x : Stored} {field : String} {bound : Value}

theorem meets_gt (hx : post.values (fieldPath field) = [x]) (hfits : x.Fits bound) :
    post.truth.meets (.range field "gt" bound) = true ↔ x.After bound := by
  obtain ⟨order, horder, -, -, hgt⟩ := post.compare_of_fits hfits
  rw [meets_range hx rfl, horder, ← hgt]
  simp [Ordering.isGT_iff_eq_gt]

theorem meets_gte (hx : post.values (fieldPath field) = [x]) (hfits : x.Fits bound) :
    post.truth.meets (.range field "gte" bound) = true ↔ x.After bound ∨ x.At bound := by
  obtain ⟨order, horder, -, heq, hgt⟩ := post.compare_of_fits hfits
  rw [meets_range hx rfl, horder, ← hgt, ← heq]
  simp [Ordering.isGE_iff_eq_gt_or_eq_eq]

theorem meets_lt (hx : post.values (fieldPath field) = [x]) (hfits : x.Fits bound) :
    post.truth.meets (.range field "lt" bound) = true ↔ x.Before bound := by
  obtain ⟨order, horder, hlt, -, -⟩ := post.compare_of_fits hfits
  rw [meets_range hx rfl, horder, ← hlt]
  simp [Ordering.isLT_iff_eq_lt]

theorem meets_lte (hx : post.values (fieldPath field) = [x]) (hfits : x.Fits bound) :
    post.truth.meets (.range field "lte" bound) = true ↔ x.Before bound ∨ x.At bound := by
  obtain ⟨order, horder, hlt, heq, -⟩ := post.compare_of_fits hfits
  rw [meets_range hx rfl, horder, ← hlt, ← heq]
  simp [Ordering.isLE_iff_eq_lt_or_eq_eq]

theorem compare_eq (hfits : x.Fits bound) : post.compare x bound = some .eq ↔ x.At bound := by
  obtain ⟨order, horder, -, heq, -⟩ := post.compare_of_fits hfits
  rw [horder, ← heq, Option.some.injEq]

/-- A moment is between the first and the last microsecond of a day just when the clock
shows that day. -/
theorem meets_day {clock : Zone → Reading} (hx : post.values (fieldPath field) = [.time clock])
    (m : Moment) :
    (post.truth.meets (.range field "gte" (.moment m.dayBegins)) = true ∧
      post.truth.meets (.range field "lte" (.moment m.dayEnds)) = true) ↔
    (clock m.zone).1 = m.date := by
  -- both ends of the day are on the clock of the moment itself
  have hbegins : post.compare (.time clock) (.moment m.dayBegins) =
      some (Ord.compare (m.zone.reads clock).wallMicroseconds m.dayBegins.wallMicroseconds) := rfl
  have hends : post.compare (.time clock) (.moment m.dayEnds) =
      some (Ord.compare (m.zone.reads clock).wallMicroseconds m.dayEnds.wallMicroseconds) := rfl
  rw [meets_range hx rfl, meets_range hx rfl, hbegins, hends]
  simp only [Option.some.injEq, exists_eq_left', Int.isGE_compare, Int.isLE_compare]
  exact Moment.between_dayBegins_dayEnds

end Post

/-! ## What conditions select -/

namespace RangeCondition

/-- The bounds that the condition compares with are of the kind of a value. -/
def Fits (condition : RangeCondition) (x : Stored) : Prop :=
  match condition.operator with
  | .oneOf => ∃ members, condition.bound.members? = some members ∧ ∀ v ∈ members, x.Fits v
  | .between => x.Fits condition.bound ∧ x.Fits condition.upper
  | _ => x.Fits condition.bound

/-- The condition describes a value. -/
def Selects (condition : RangeCondition) (x : Stored) : Prop :=
  match condition.operator with
  | .eq => x.OnDay condition.bound
  | .gt => x.After condition.bound
  | .gte => x.After condition.bound ∨ x.At condition.bound
  | .lt => x.Before condition.bound
  | .lte => x.Before condition.bound ∨ x.At condition.bound
  | .oneOf => ∃ members, condition.bound.members? = some members ∧ ∃ v ∈ members, x.At v
  | .between => (x.After condition.bound ∨ x.At condition.bound) ∧
      (x.Before condition.upper ∨ x.At condition.upper)

theorem clauses_comparison {operator : RangeOperator} {bound upper : Value} {field : String}
    (h : operator ∈ [.gt, .gte, .lt, .lte]) (hnull : bound.isNull = false) :
    clauses ⟨operator, bound, upper⟩ field = [.range field operator.text bound] := by
  unfold clauses
  rw [hnull]
  cases operator with
  | gt | gte | lt | lte => rfl
  | eq | oneOf | between => exact absurd h (by decide)

theorem clauses_oneOf {bound upper : Value} {members : List Value} {field : String}
    (h : bound.members? = some members) :
    clauses ⟨.oneOf, bound, upper⟩ field = [.oneOf field members] := by
  unfold clauses
  rw [Value.isNull_of_members? h, h]
  rfl

theorem clauses_between {bound upper : Value} {field : String} (hnull : bound.isNull = false) :
    clauses ⟨.between, bound, upper⟩ field =
      [.range field "gte" bound, .range field "lte" upper] := by
  unfold clauses
  rw [hnull]
  rfl

/-- The clauses for a day are those for its first and its last microsecond. -/
theorem clauses_day {bound upper : Value} {m : Moment} {field : String}
    (h : bound.asMoment? = some m) :
    clauses ⟨.eq, bound, upper⟩ field =
      [.range field "gte" (.moment m.dayBegins), .range field "lte" (.moment m.dayEnds)] := by
  cases bound with
  | date | moment =>
    obtain rfl := Option.some.inj h
    rfl
  | _ => exact absurd h nofun

/-- A condition without a bound has no clauses, nor one that calls for a collection and is
given none. -/
theorem clauses_eq_nil {condition : RangeCondition} (field : String)
    (h : condition.bound = .null ∨
      condition.operator = .oneOf ∧ condition.bound.members? = none) :
    condition.clauses field = [] := by
  unfold clauses
  obtain hnull | ⟨hoperator, hmembers⟩ := h
  · rw [hnull]
    rfl
  · rw [hoperator, hmembers]
    split <;> rfl

/-- A value equal to a date or a moment is one of that day; other values are equal to
themselves alone. -/
theorem meets_clauses_eq {field : String} {post : Post} {x : Stored} {bound : Value}
    (upper : Value) (hx : post.values (fieldPath field) = [x]) (hfits : x.Fits bound) :
    (∀ q ∈ clauses ⟨.eq, bound, upper⟩ field, post.truth.meets q = true) ↔ x.OnDay bound := by
  match x, bound, hfits with
  | .int n, .int m, hfits =>
    show (∀ q ∈ [Query.term field (.int m)], post.truth.meets q = true) ↔ n = m
    rw [List.forall_mem_singleton, Post.meets_term hx]
    exact Post.compare_eq hfits
  | .time clock, bound, hfits =>
    obtain ⟨m, hm⟩ := hfits
    rw [clauses_day hm, List.forall_mem_cons, List.forall_mem_singleton, Post.meets_day hx]
    simp only [Stored.OnDay, hm, Option.some.injEq, exists_eq_left']

/-- The clauses of a condition hold of what it selects. -/
theorem meets_clauses_iff {condition : RangeCondition} {field : String} {post : Post} {x : Stored}
    (hx : post.values (fieldPath field) = [x]) (hfits : condition.Fits x) :
    (∀ q ∈ condition.clauses field, post.truth.meets q = true) ↔ condition.Selects x := by
  obtain ⟨operator, bound, upper⟩ := condition
  cases operator with
  | eq => exact meets_clauses_eq upper hx hfits
  | gt =>
    have hbound : x.Fits bound := hfits
    rw [clauses_comparison (by decide) hbound.isNull, List.forall_mem_singleton]
    exact Post.meets_gt hx hbound
  | gte =>
    have hbound : x.Fits bound := hfits
    rw [clauses_comparison (by decide) hbound.isNull, List.forall_mem_singleton]
    exact Post.meets_gte hx hbound
  | lt =>
    have hbound : x.Fits bound := hfits
    rw [clauses_comparison (by decide) hbound.isNull, List.forall_mem_singleton]
    exact Post.meets_lt hx hbound
  | lte =>
    have hbound : x.Fits bound := hfits
    rw [clauses_comparison (by decide) hbound.isNull, List.forall_mem_singleton]
    exact Post.meets_lte hx hbound
  | oneOf =>
    obtain ⟨members, hmembers, hall⟩ := hfits
    rw [clauses_oneOf hmembers, List.forall_mem_singleton, Post.meets_oneOf hx]
    simp only [Selects, hmembers, Option.some.injEq, exists_eq_left']
    exact exists_congr fun v => and_congr_right fun hv => Post.compare_eq (hall v hv)
  | between =>
    obtain ⟨hbound, hupper⟩ := hfits
    rw [clauses_between hbound.isNull, List.forall_mem_cons, List.forall_mem_singleton]
    exact and_congr (Post.meets_gte hx hbound) (Post.meets_lte hx hupper)

/-- The clauses of a condition come after those that there are, and hold together of the
values that the condition selects. There are none without a bound, nor where a collection is
called for and the bound is none. -/
theorem clauses_select (condition : RangeCondition) (field : String) (collected : List Query)
    (hfield : field ∉ reservedNames) :
    (Contribution.require collected).andThen
        ((Contribution.require (condition.clauses field)).admitted field) =
      Contribution.require (collected ++ condition.clauses field) ∧
    (∀ (post : Post) (x : Stored), post.values (fieldPath field) = [x] → condition.Fits x →
      ((∀ q ∈ condition.clauses field, post.truth.meets q = true) ↔ condition.Selects x)) ∧
    (condition.bound = .null ∨
      condition.operator = .oneOf ∧ condition.bound.members? = none →
      condition.clauses field = []) := by
  refine ⟨?_, fun post x hx hfits => meets_clauses_iff hx hfits, clauses_eq_nil field⟩
  rw [Contribution.admitted_of_not_reserved _ hfield]
  rfl

/-- The last microsecond of the leap day of a full century, two hours ahead of UTC. -/
def leapDayOver : Moment := ⟨⟨2000, 2, 29, by decide⟩, .last, .offset 120⟩

/-- Midnight before that day on the same clock, where it is still the day before in UTC. -/
def leapDayBegun : Zone → Reading
  | .offset 120 => (⟨2000, 2, 29, by decide⟩, .first)
  | _ => (⟨2000, 2, 28, by decide⟩, TimeOfDay.first.atMinute 1320)

/-- The day of a moment is the one that its own clock shows. -/
theorem clauses_select_leapDay :
    "created_at" ∉ reservedNames ∧
    Fits ⟨.eq, .moment leapDayOver, .null⟩ (.time leapDayBegun) ∧
    ∀ q ∈ clauses ⟨.eq, .moment leapDayOver, .null⟩ "created_at",
      (Post.only "created_at" (.time leapDayBegun)).truth.meets q = true := by
  have hfield : "created_at" ∉ reservedNames := by decide
  have hfits : Fits ⟨.eq, .moment leapDayOver, .null⟩ (.time leapDayBegun) := ⟨_, rfl⟩
  have hselect := clauses_select ⟨.eq, .moment leapDayOver, .null⟩ "created_at" [] hfield
  exact ⟨hfield, hfits, (hselect.2.1 _ _ rfl hfits).mpr ⟨_, rfl, rfl⟩⟩

/-- What is to select some values leaves all of them where the field has the name of a query
itself, about which no clause can be made. Under the name of the choice about underscores the
bound is lost, and a field with a pair of underscores in its name is not the one that is
looked at. -/
theorem not_clauses_select_self :
    (((Contribution.require (clauses ⟨.gt, .int 5, .null⟩ "self")).admitted "self").failure =
      some .mistyped ∧
    ¬((∀ q ∈ ((Contribution.require (clauses ⟨.gt, .int 5, .null⟩ "self")).admitted "self").must,
        (Post.only "self" (.int 5)).truth.meets q = true) ↔
      Selects ⟨.gt, .int 5, .null⟩ (.int 5))) ∧
    ((Contribution.require (clauses ⟨.gt, .int 5, .null⟩ expansionName)).admitted
        expansionName).must = [.clause (.other "range" (.record []))] ∧
    ¬((∀ q ∈ clauses ⟨.gt, .int 5, .null⟩ "taken__at",
        (Post.only "taken__at" (.int 6)).truth.meets q = true) ↔
      Selects ⟨.gt, .int 5, .null⟩ (.int 6)) := by
  have hfails : (Contribution.require (clauses ⟨.gt, .int 5, .null⟩ "self")).admitted "self" =
      .fail .mistyped := rfl
  refine ⟨⟨by rw [hfails]; rfl, fun hiff => ?_⟩, rfl, fun hiff => ?_⟩
  · have hselects : (5 : Int) < 5 := hiff.mp fun q hq => by
      rw [hfails] at hq
      exact absurd hq List.not_mem_nil
    exact absurd hselects (by decide)
  · have hselects : Selects ⟨.gt, .int 5, .null⟩ (.int 6) := by
      show (5 : Int) < 6
      decide
    have hmeets := hiff.mpr hselects _ (List.mem_singleton_self _)
    exact absurd hmeets (by decide)

end RangeCondition

end BoardSearch
