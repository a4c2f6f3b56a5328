import BoardSearch.Proofs.Relation.Admission
import BoardSearch.Relation.Filter

/-!
# Filters of a union of metatags

When the metatags of a request are those of two others taken together, its filters
admit what the filters of both admit, since every part of them looks at one name only,
or else at the two names for the status.

## Main definitions

* `Request.IsUnion`: a request has the metatags of two others;
* `Contribution.Splits`: a part of the filters admits what it admits for both of them.

## Main statements

* `Contribution.splits_named`: so does every part that looks at one name;
* `Request.splits_filterContribution`: the filters do without the hiding of deleted
  posts.

## Design notes

A negated status counts only where there is no status. So the two have to be in the
same one of the two requests. Which statuses bring deleted posts back to light depends
on both requests, too; hence the restriction to sessions that are not kept from them.
-/

namespace BoardSearch

namespace Request

/-- The names of the metatags for the status. -/
def statusNames : List String := ["status", "status_neg"]

/-- Every metatag of `whole` is one of `left` or else of `right`, and the metatags for
the status are all in the same of the two. -/
structure IsUnion (whole left right : Request) : Prop where
  of_name : ∀ name, whole.get? name = left.get? name ∧ right.get? name = none ∨
    whole.get? name = right.get? name ∧ left.get? name = none
  of_status : (∀ name ∈ statusNames, right.get? name = none) ∨
    ∀ name ∈ statusNames, left.get? name = none

namespace IsUnion

variable {whole left right : Request}

/-- A union has the metatags of the one request under a name that the other has not. -/
theorem get?_of_right (hunion : whole.IsUnion left right) {name : String}
    (h : right.get? name = none) : whole.get? name = left.get? name := by
  obtain ⟨hwhole, _⟩ | ⟨hwhole, hleft⟩ := hunion.of_name name
  · exact hwhole
  · rw [hwhole, hleft, h]

theorem get?_of_left (hunion : whole.IsUnion left right) {name : String}
    (h : left.get? name = none) : whole.get? name = right.get? name := by
  obtain ⟨hwhole, hright⟩ | ⟨hwhole, _⟩ := hunion.of_name name
  · rw [hwhole, hright, h]
  · exact hwhole

end IsUnion

/-- Without a status and a negated one nothing is asked for. -/
theorem statusContribution_eq_none {request : Request}
    (h : ∀ name ∈ statusNames, request.get? name = none) :
    request.statusContribution = .none := by
  have hstatus : request.get? "status" = none := h _ (by decide)
  have hnegated : request.get? "status_neg" = none := h _ (by decide)
  simp [statusContribution, status?, scalar?, hstatus, hnegated, Contribution.ofOption]

/-- What is asked for by the two metatags for the status depends on them alone. -/
theorem statusContribution_congr {request request' : Request}
    (h : ∀ name ∈ statusNames, request.get? name = request'.get? name) :
    request.statusContribution = request'.statusContribution := by
  have hstatus : request.get? "status" = request'.get? "status" := h _ (by decide)
  have hnegated : request.get? "status_neg" = request'.get? "status_neg" := h _ (by decide)
  simp only [statusContribution, status?, scalar?, hstatus, hnegated]

end Request

namespace Contribution

variable {τ : Truth}

/-- What a part of the filters admits for a union of two requests is what it admits
for both of them. -/
def Splits (τ : Truth) (part : Request → Contribution) : Prop :=
  ∀ ⦃whole left right : Request⦄, whole.IsUnion left right →
    ((part whole).Admits τ ↔ (part left).Admits τ ∧ (part right).Admits τ)

/-- A part that looks at no metatag contributes the same for all requests. -/
theorem splits_const (c : Contribution) : Splits τ fun _ => c := by
  intro whole left right _
  exact and_self_iff.symm

/-- A part that looks at one name splits, if it admits everything without the metatag. -/
theorem splits_named (name : String) (part : Option Value → Contribution)
    (hnone : (part .none).Admits τ) : Splits τ fun request => part (request.get? name) := by
  intro whole left right hunion
  show (part (whole.get? name)).Admits τ ↔
    (part (left.get? name)).Admits τ ∧ (part (right.get? name)).Admits τ
  obtain ⟨hwhole, hright⟩ | ⟨hwhole, hleft⟩ := hunion.of_name name
  · rw [hwhole, hright]
    exact (and_iff_left hnone).symm
  · rw [hwhole, hleft]
    exact (and_iff_right hnone).symm

/-- A part for the scalar under a name splits. -/
theorem splits_scalar (name : String) (contribution : Value → Contribution) :
    Splits τ fun request => .ofOption (request.scalar? name) contribution :=
  splits_named name (fun value => .ofOption (value.bind Request.scalarOf?) contribution)
    admits_none

/-- A part for the value under a name, of whatever shape, splits. -/
theorem splits_value (name : String) (contribution : Value → Contribution) :
    Splits τ fun request => .ofOption (request.get? name) contribution :=
  splits_named name (fun value => .ofOption value contribution) admits_none

/-- A part for the list under a name splits, if the empty list asks for nothing. -/
theorem splits_values (name : String) (contribution : List Value → Contribution)
    (hnil : (contribution []).Admits τ) :
    Splits τ fun request => contribution (request.values name) :=
  splits_named name (fun value => contribution ((value.bind Request.valuesOf?).getD [])) hnil

/-- A row of parts splits if the first one and the others do. -/
theorem splits_cons {part : Request → Contribution} {rest : Request → List Contribution}
    (hpart : Splits τ part) (hrest : Splits τ fun request => .all (rest request)) :
    Splits τ fun request => .all (part request :: rest request) := by
  intro whole left right hunion
  have hall : ∀ request, (all (part request :: rest request)).Admits τ ↔
      (part request).Admits τ ∧ (all (rest request)).Admits τ := by
    intro request
    exact admits_andThen (part request) (all (rest request))
  rw [hall, hall, hall, hpart hunion, hrest hunion]
  exact and_and_and_comm

/-- Parts in a row split if each of them does. -/
theorem splits_all {parts : List (Request → Contribution)}
    (h : ∀ part ∈ parts, Splits τ part) :
    Splits τ fun request => .all (parts.map fun part => part request) := by
  induction parts with
  | nil => exact splits_const none
  | cons part rest ih =>
    obtain ⟨hpart, hrest⟩ := List.forall_mem_cons.mp h
    exact splits_cons hpart (ih hrest)

/-! ## The parts of the filters -/

theorem splits_range (name field : String) :
    Splits τ fun request => request.rangeContribution name field :=
  splits_named name (fun value => .ofOption (value.bind RangeCondition.ofValue?) fun condition =>
    .require (condition.clauses field)) admits_none

/-- A metatag and its negation, each with a contribution for its scalar. -/
theorem splits_scalars (name name' : String) (contribution contribution' : Value → Contribution) :
    Splits τ fun request => .all [.ofOption (request.scalar? name) contribution,
      .ofOption (request.scalar? name') contribution'] :=
  splits_cons (splits_scalar name contribution)
    (splits_cons (splits_scalar name' contribution') (splits_const _))

theorem splits_array (name field : String) (toggle : Option String) :
    Splits τ fun request => request.arrayContribution name field toggle := by
  have hlisted : Splits τ fun request => .require ((request.values name).map (.term field)) :=
    splits_values name (fun items => .require (items.map (.term field))) (by simp)
  have hnegated : Splits τ fun request =>
      .exclude ((request.values (negated name)).map (.term field)) :=
    splits_values (negated name) (fun items => .exclude (items.map (.term field))) (by simp)
  refine splits_cons hlisted (splits_cons hnegated (splits_cons ?_ (splits_const _)))
  cases toggle with
  | none => exact splits_const _
  | some toggle => exact splits_scalar toggle _

theorem splits_checksum : Splits τ Request.checksumContribution :=
  splits_values "md5" (fun checksums => if checksums.isEmpty then none
    else .require [.atLeastOne (checksums.map (.term "md5"))]) admits_none

theorem splits_status : Splits τ Request.statusContribution := by
  intro whole left right hunion
  -- the request without any of the two metatags asks for nothing
  obtain hright | hleft := hunion.of_status
  · have hwhole : whole.statusContribution = left.statusContribution :=
      Request.statusContribution_congr fun name hname => hunion.get?_of_right (hright name hname)
    rw [hwhole, Request.statusContribution_eq_none hright]
    exact (and_iff_left admits_none).symm
  · have hwhole : whole.statusContribution = right.statusContribution :=
      Request.statusContribution_congr fun name hname => hunion.get?_of_left (hleft name hname)
    rw [hwhole, Request.statusContribution_eq_none hleft]
    exact (and_iff_right admits_none).symm

theorem splits_lock : Splits τ Request.lockContribution :=
  splits_cons (splits_values "locked" (fun items => .all (items.map (Request.lockOf true)))
    admits_none) (splits_cons (splits_values "locked_neg"
      (fun items => .all (items.map (Request.lockOf false))) admits_none) (splits_const _))

theorem splits_tag : Splits τ Request.tagContribution :=
  splits_named "tags" (fun value => .ofOption (value.bind TagGrouping.ofValue?) fun grouping =>
    .require [grouping.query]) admits_none

/-- With deleted posts not hidden, every part of the filters splits. -/
theorem splits_of_mem_filterParts {safeMode : Bool} :
    ∀ part ∈ Request.filterParts safeMode true, Splits τ part := by
  have hvisible : Splits τ fun request => request.visibilityContribution true := splits_const none
  simp only [Request.filterParts, List.forall_mem_append, List.forall_mem_map,
    List.forall_mem_cons, List.mem_nil_iff, false_implies, implies_true, and_true]
  refine ⟨⟨⟨⟨⟨⟨⟨⟨splits_const _, ?ranges, ?counts⟩, ?conditions⟩, ?arrays⟩, ?singles⟩, ?others⟩,
    ?presence⟩, ?flags⟩, splits_tag⟩
  case ranges => exact fun metatag _ => splits_range metatag.1 metatag.2
  case counts => exact fun metatag _ => splits_range metatag.1 metatag.2
  case conditions =>
    exact ⟨splits_checksum, splits_status, hvisible, splits_scalars "source" "source_neg" _ _⟩
  case arrays => exact fun metatag _ => splits_array metatag.1 metatag.2.1 metatag.2.2
  case singles => exact fun metatag _ => splits_scalars metatag.1 (negated metatag.1) _ _
  case others =>
    exact ⟨splits_scalars "voted" "voted_neg" _ _, splits_scalars "delreason" _ _ _,
      splits_scalar "post_id_neg" _, splits_scalar "child" _, splits_lock⟩
  case presence => exact fun metatag _ => splits_value metatag.1 _
  case flags => exact fun metatag _ => splits_value metatag.1 _

/-- What the filters of a union admit is what the filters of both requests admit. -/
theorem splits_filterContribution {safeMode : Bool} :
    Splits τ fun request => request.filterContribution safeMode true :=
  splits_all splits_of_mem_filterParts

end Contribution

end BoardSearch
