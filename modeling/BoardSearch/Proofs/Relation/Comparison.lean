import BoardSearch.Proofs.Query.Values
import BoardSearch.Proofs.Relation.Breaking

/-!
# What filters compare with

Every clause of the filters compares with a truth value or a text of its own, or with a
value that the request supplies. An accessor looks at the outermost form of a metatag
only, so what is inside of a list, a range condition or a grouping of tags is passed on as
it is, and a flag is passed on whatever it is.

## Main definitions

* `Contribution.Keeps`: every query of a contribution has a property;
* `RangeCondition.compared`: the values that a range condition compares with;
* `Request.Supplies`: the values that are passed on as they are have a property.

## Main statements

* `Request.keeps_filterContribution`: what the filters of a request compare with.
-/

namespace BoardSearch

/-! ## Ranges -/

/-- The values that the clauses of a condition compare with. -/
def RangeCondition.compared (condition : RangeCondition) : List Value :=
  if condition.bound.isNull then []
  else
    match condition.operator with
    | .eq =>
      if condition.comparesTimes then [condition.bound.dayBegins, condition.bound.dayEnds]
      else [condition.bound]
    | .gt | .gte | .lt | .lte => [condition.bound]
    | .oneOf => condition.bound.members?.getD []
    | .between => [condition.bound, condition.upper]

variable {R : Query → Prop} {P : Value → Prop}

theorem RangeCondition.keeps_clauses (h : Query.ComesDownTo R P) (condition : RangeCondition)
    (field : String) :
    (∀ q ∈ condition.clauses field, R q) ↔ ∀ value ∈ condition.compared, P value := by
  unfold clauses compared
  split
  · simp
  · cases condition.operator with
    | eq =>
      cases htimes : condition.comparesTimes with
      | true => simp [h.range]
      | false => simp [h.term]
    | gt | gte | lt | lte | between => simp [h.range]
    | oneOf =>
      cases condition.bound.members? with
      | none => simp
      | some members => simp [h.oneOf]

/-! ## Contributions -/

namespace Contribution

/-- Every query of the contribution has the property. -/
def Keeps (R : Query → Prop) (c : Contribution) : Prop :=
  (∀ q ∈ c.must, R q) ∧ ∀ q ∈ c.mustNot, R q

@[simp]
theorem keeps_none : Keeps R none := by
  simp [Keeps, none]

@[simp]
theorem keeps_require {queries : List Query} :
    Keeps R (require queries) ↔ ∀ q ∈ queries, R q := by
  simp [Keeps, require]

@[simp]
theorem keeps_exclude {queries : List Query} :
    Keeps R (exclude queries) ↔ ∀ q ∈ queries, R q := by
  simp [Keeps, exclude]

@[simp]
theorem keeps_fail {failure : Failure} : Keeps R (fail failure) := by
  simp [Keeps, fail]

theorem keeps_ofOption {α : Type} {value : Option α} {contribution : α → Contribution} :
    Keeps R (ofOption value contribution) ↔
      ∀ a, value = some a → Keeps R (contribution a) := by
  cases value <;> simp [ofOption]

/-- A contribution after one that was made in full adds its queries. -/
theorem keeps_andThen {a b : Contribution} (h : a.failure = .none) :
    Keeps R (a.andThen b) ↔ Keeps R a ∧ Keeps R b := by
  obtain ⟨must, mustNot, failure⟩ := a
  obtain rfl : failure = .none := h
  simp only [andThen, Keeps, List.forall_mem_append]
  exact and_and_and_comm

/-- Contributions that were all made in full have the queries of each of them. -/
theorem keeps_all {cs : List Contribution} (h : (all cs).failure = .none) :
    Keeps R (all cs) ↔ ∀ c ∈ cs, Keeps R c := by
  induction cs with
  | nil => simp [all]
  | cons c cs ih =>
    have hcons : all (c :: cs) = c.andThen (all cs) := rfl
    rw [hcons, failure_andThen] at h
    rw [hcons, keeps_andThen h.1, ih h.2, List.forall_mem_cons]

/-- The queries of contributions in a row are among those of each of them, also where one of
them fails. -/
theorem keeps_all_of_forall {cs : List Contribution} (h : ∀ c ∈ cs, Keeps R c) :
    Keeps R (all cs) := by
  induction cs with
  | nil => simp [all]
  | cons c cs ih =>
    obtain ⟨hc, hcs⟩ := List.forall_mem_cons.mp h
    show Keeps R (c.andThen (all cs))
    cases hfailure : c.failure with
    | none => exact (keeps_andThen hfailure).mpr ⟨hc, ih hcs⟩
    | some failure =>
      have hstop : c.andThen (all cs) = c := by simp [andThen, hfailure]
      rw [hstop]
      exact hc

end Contribution

/-! ## The parts of the filters -/

namespace Request

open Contribution

/-- The names of the metatags whose scalars are compared with. -/
def scalarNames : List String :=
  singleMetatags.flatMap (fun metatag => [metatag.1, negated metatag.1])
    ++ ["voted", "voted_neg", "post_id_neg"]

/-- The names of the metatags whose members are compared with. -/
def listNames : List String :=
  "md5" :: arrayMetatags.flatMap fun metatag => [metatag.1, negated metatag.1]

/-- The names of the metatags whose bounds are compared with. -/
def rangeNames : List String := (rangeMetatags ++ countRangeMetatags).map (·.1)

/-- The names of the metatags that are compared with whatever they are. -/
def flagNames : List String := flagMetatags.map (·.1)

theorem forall_scalarNames {holds : String → Prop} : (∀ name ∈ scalarNames, holds name) ↔
    (∀ metatag ∈ singleMetatags, holds metatag.1 ∧ holds (negated metatag.1)) ∧
      (holds "voted" ∧ holds "voted_neg") ∧ holds "post_id_neg" := by
  rw [scalarNames, List.forall_mem_append, List.forall_mem_flatMap]
  simp [and_assoc]

theorem forall_listNames {holds : String → Prop} : (∀ name ∈ listNames, holds name) ↔
    holds "md5" ∧ ∀ metatag ∈ arrayMetatags, holds metatag.1 ∧ holds (negated metatag.1) := by
  rw [listNames, List.forall_mem_cons, List.forall_mem_flatMap]
  simp

theorem forall_rangeNames {holds : String → Prop} : (∀ name ∈ rangeNames, holds name) ↔
    (∀ metatag ∈ rangeMetatags, holds metatag.1) ∧
      ∀ metatag ∈ countRangeMetatags, holds metatag.1 := by
  rw [rangeNames, List.forall_mem_map, List.forall_mem_append]

/-- The values that are compared with as they are, since no accessor looks at them, have
the property. -/
structure Supplies (request : Request) (P : Value → Prop) : Prop where
  members : ∀ name ∈ listNames, ∀ value ∈ request.values name, P value
  bounds : ∀ name ∈ rangeNames, ∀ condition, request.range? name = some condition →
    ∀ value ∈ condition.compared, P value
  flags : ∀ name ∈ flagNames, ∀ value, request.get? name = some value → P value
  tags : ∀ grouping, request.tags? "tags" = some grouping →
    ∀ value ∈ grouping.included ++ grouping.related ++ grouping.excluded, P value

variable (request : Request) (h : Query.ComesDownTo R P)

theorem keeps_scalar {name : String} {contribution : Value → Contribution}
    (hvalue : ∀ value, Keeps R (contribution value) ↔ P value) :
    Keeps R (.ofOption (request.scalar? name) contribution) ↔
      ∀ value, request.scalar? name = some value → P value :=
  keeps_ofOption.trans (forall₂_congr fun value _ => hvalue value)

theorem keeps_single {name : String} {query : Value → Query}
    (hquery : ∀ value, R (query value) ↔ P value) :
    (request.singleContribution name query).Keeps R ↔
      (∀ value, request.scalar? name = some value → P value) ∧
        ∀ value, request.scalar? (negated name) = some value → P value := by
  refine (keeps_all (request.failure_single name query)).trans ?_
  rw [List.forall_mem_cons, List.forall_mem_singleton,
    keeps_scalar (P := P) request fun value => by simp [hquery],
    keeps_scalar (P := P) request fun value => by simp [hquery]]

include h

theorem keeps_range (name field : String) :
    (request.rangeContribution name field).Keeps R ↔
      ∀ condition, request.range? name = some condition →
        ∀ value ∈ condition.compared, P value := by
  refine keeps_ofOption.trans (forall₂_congr fun condition _ => ?_)
  exact keeps_require.trans (condition.keeps_clauses h field)

theorem keeps_array (name field : String) (toggle : Option String) :
    (request.arrayContribution name field toggle).Keeps R ↔
      (∀ value ∈ request.values name, P value) ∧
        ∀ value ∈ request.values (negated name), P value := by
  have htoggle : Keeps R (.ofOption (toggle.bind request.scalar?) fun value =>
      if value.isText "any" then .require [.present field]
      else if value.isText "none" then .exclude [.present field]
      else .none) := by
    refine keeps_ofOption.mpr fun value _ => ?_
    split
    · simp [h.present]
    · split <;> simp [h.present]
  refine (keeps_all (request.failure_array name field toggle)).trans ?_
  simp [htoggle, h.term]

theorem keeps_vote : request.voteContribution.Keeps R ↔
    (∀ value, request.scalar? "voted" = some value → P value) ∧
      ∀ value, request.scalar? "voted_neg" = some value → P value := by
  refine (keeps_all request.failure_vote).trans ?_
  rw [List.forall_mem_cons, List.forall_mem_singleton,
    keeps_scalar (P := P) request fun value => by simp [votesOf, h.term, h.atLeastOne],
    keeps_scalar (P := P) request fun value => by simp [votesOf, h.term]]

theorem keeps_identifier : request.identifierContribution.Keeps R ↔
    ∀ value, request.scalar? "post_id_neg" = some value → P value :=
  keeps_scalar request fun value => by simp [h.term]

theorem keeps_checksum : request.checksumContribution.Keeps R ↔
    ∀ value ∈ request.values "md5", P value := by
  unfold checksumContribution
  dsimp only
  cases request.values "md5" with
  | nil => simp
  | cons checksum rest => simp [h.atLeastOne, h.term]

theorem keeps_flag (name field : String) :
    (request.flagContribution name field).Keeps R ↔
      ∀ value, request.get? name = some value → P value := by
  refine keeps_ofOption.trans (forall₂_congr fun value _ => ?_)
  simp [h.term]

theorem keeps_presence (name field : String) :
    (request.presenceContribution name field).Keeps R := by
  refine keeps_ofOption.mpr fun value _ => ?_
  split <;> simp [h.present]

theorem keeps_tag : request.tagContribution.Keeps R ↔
    ∀ grouping, request.tags? "tags" = some grouping →
      ∀ value ∈ grouping.included ++ grouping.related ++ grouping.excluded, P value := by
  refine keeps_ofOption.trans (forall₂_congr fun grouping _ => ?_)
  rw [keeps_require, List.forall_mem_singleton, TagGrouping.query, h.bool]
  · simp [h.term, or_imp, forall_and]
  · split <;> simp

/-! ## Parts that compare with values of their own -/

section Constants

variable (htext : ∀ s, P (.text s)) (hbool : ∀ b, P (.bool b))

include htext in
theorem keeps_like (field : String) (pattern : Value) :
    (ofQuery (likeQuery field pattern) .require).Keeps R ∧
      (ofQuery (likeQuery field pattern) .exclude).Keeps R := by
  unfold likeQuery
  cases pattern.written with
  | error failure => exact ⟨keeps_fail, keeps_fail⟩
  | ok text => simp [ofQuery, Except.map, h.wildcard, htext]

include htext in
theorem keeps_wildcard (name field : String) :
    (request.wildcardContribution name field).Keeps R := by
  refine keeps_all_of_forall ?_
  rw [List.forall_mem_cons, List.forall_mem_singleton]
  exact ⟨keeps_ofOption.mpr fun pattern _ => (keeps_like h htext field pattern).1,
    keeps_ofOption.mpr fun pattern _ => (keeps_like h htext field pattern).2⟩

include htext in
theorem keeps_source : request.sourceContribution.Keeps R := by
  refine keeps_all_of_forall ?_
  rw [List.forall_mem_cons, List.forall_mem_singleton]
  refine ⟨keeps_ofOption.mpr fun pattern _ => ?_, keeps_ofOption.mpr fun pattern _ => ?_⟩
  · have hlike := (keeps_like h htext "source" pattern).1
    unfold sourceOf
    split
    · simp [h.present]
    · split
      · simp [h.beginsWith, htext]
      · exact hlike
  · have hlike := (keeps_like h htext "source" pattern).2
    unfold negatedSourceOf
    split
    · simp [h.present]
    · split
      · simp [h.beginsWith, htext]
      · exact hlike

include htext in
theorem keeps_safety (safeMode : Bool) : (safetyContribution safeMode).Keeps R := by
  cases safeMode <;> simp [safetyContribution, h.term, htext]

include hbool in
theorem keeps_status : request.statusContribution.Keeps R := by
  unfold statusContribution
  split
  · rename_i status _
    cases status <;>
      simp [Status.contribution, Status.queued, Status.flag, h.term, h.atLeastOne, hbool]
  · refine keeps_ofOption.mpr fun status _ => ?_
    cases status <;>
      simp [Status.negatedContribution, Status.queued, Status.flag, h.term, h.atLeastOne, hbool]

include hbool in
theorem keeps_visibility (adminMode : Bool) :
    (request.visibilityContribution adminMode).Keeps R := by
  unfold visibilityContribution
  split <;> simp [Status.flag, h.term, hbool]

include hbool in
theorem keeps_child : request.childContribution.Keeps R := by
  refine keeps_ofOption.mpr fun value _ => ?_
  split
  · simp [h.term, hbool]
  · split <;> simp [h.term, hbool]

include hbool in
theorem keeps_lock : request.lockContribution.Keeps R := by
  have hlock : ∀ isSet lock, (lockOf isSet lock).Keeps R := by
    intro isSet lock
    unfold lockOf
    split <;> simp [h.term, hbool]
  refine keeps_all_of_forall ?_
  rw [List.forall_mem_cons, List.forall_mem_singleton]
  exact ⟨keeps_all_of_forall (List.forall_mem_map.mpr fun lock _ => hlock true lock),
    keeps_all_of_forall (List.forall_mem_map.mpr fun lock _ => hlock false lock)⟩

include htext hbool in
/-- The queries of filters that were made in full come down to texts and truth values of their
own, to scalars, and to what the request supplies. -/
theorem keeps_filterContribution {safeMode adminMode : Bool}
    (hfull : (request.filterContribution safeMode adminMode).failure = .none) :
    (request.filterContribution safeMode adminMode).Keeps R ↔
      (∀ name ∈ scalarNames, ∀ value, request.scalar? name = some value → P value) ∧
        request.Supplies P := by
  have hsingles : (∀ metatag ∈ singleMetatags,
      (request.singleContribution metatag.1 metatag.2).Keeps R) ↔
        ∀ metatag ∈ singleMetatags, (∀ value, request.scalar? metatag.1 = some value → P value) ∧
          ∀ value, request.scalar? (negated metatag.1) = some value → P value := by
    have hquery : ∀ metatag ∈ singleMetatags, ∀ value, R (metatag.2 value) ↔ P value := by
      simp [singleMetatags, h.term, h.matching]
    exact forall₂_congr fun metatag hmetatag => request.keeps_single (hquery metatag hmetatag)
  rw [filterContribution, keeps_all hfull]
  simp only [filterParts, List.map_append, List.map_map, List.map_cons, List.map_nil,
    List.forall_mem_append, List.forall_mem_map, List.forall_mem_cons, List.mem_nil_iff,
    false_implies, implies_true, and_true, Function.comp_apply]
  simp only [keeps_range request h, keeps_array request h, hsingles, keeps_vote request h,
    keeps_identifier request h, keeps_checksum request h, keeps_flag request h,
    keeps_presence request h, keeps_tag request h, keeps_wildcard request h htext,
    keeps_source request h htext, keeps_safety h htext, keeps_status request h hbool,
    keeps_visibility request h hbool, keeps_child request h hbool, keeps_lock request h hbool,
    implies_true, and_true, true_and]
  constructor
  · rintro ⟨⟨⟨⟨⟨⟨hranges, hchecksums⟩, harrays⟩, hscalars⟩, hothers⟩, hflags⟩, htags⟩
    exact ⟨forall_scalarNames.mpr ⟨hscalars, hothers⟩, forall_listNames.mpr ⟨hchecksums, harrays⟩,
      forall_rangeNames.mpr hranges, List.forall_mem_map.mpr hflags, htags⟩
  · rintro ⟨hscalars, hlists, hranges, hflags, htags⟩
    obtain ⟨hscalars, hothers⟩ := forall_scalarNames.mp hscalars
    obtain ⟨hchecksums, harrays⟩ := forall_listNames.mp hlists
    exact ⟨⟨⟨⟨⟨⟨forall_rangeNames.mp hranges, hchecksums⟩, harrays⟩, hscalars⟩, hothers⟩,
      List.forall_mem_map.mp hflags⟩, htags⟩

end Constants

end Request

end BoardSearch
