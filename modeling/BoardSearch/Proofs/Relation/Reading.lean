import BoardSearch.Proofs.Request.Agreement
import BoardSearch.Relation.Filter

/-!
# What the filters read

Every part of the filters reads a few metatags, each with one accessor, and what it
contributes depends on nothing else. So two requests that look the same to all these
accessors have the same filters.

## Main definitions

* `Contribution.Reads`: a part depends only on what it sees of the given metatags;
* `Request.readers`: the parts of the filters, each with the metatags that it reads.

## Main statements

* `Request.reads_of_mem_readers`: no part of the filters reads anything else;
* `Request.filterContribution_congr`: the filters depend only on what is read.

## Design notes

In admin mode nothing is hidden, so the part that hides deleted posts reads nothing then.
That leaves every metatag to one part of the filters alone.
-/

namespace BoardSearch

namespace Contribution

open Request (Accessor)

/-- What a part contributes depends only on what the accessors see of the metatags. -/
def Reads (known : List (String × Accessor)) (part : Request → Contribution) : Prop :=
  ∀ ⦃request request'⦄, Request.AgreesOn known request request' → part request = part request'

theorem reads_const (known : List (String × Accessor)) (c : Contribution) :
    Reads known fun _ => c := by
  intro request request' _
  rfl

theorem reads_scalar (name : String) (contribution : Value → Contribution) :
    Reads [(name, .scalar)] fun request => .ofOption (request.scalar? name) contribution := by
  intro request request' h
  have hscalar : request.scalar? name = request'.scalar? name :=
    h _ (List.mem_singleton.mpr rfl)
  simp only [hscalar]

theorem reads_raw (name : String) (contribution : Value → Contribution) :
    Reads [(name, .raw)] fun request => .ofOption (request.get? name) contribution := by
  intro request request' h
  have hraw : request.get? name = request'.get? name := h _ (List.mem_singleton.mpr rfl)
  simp only [hraw]

theorem reads_range (name field : String) :
    Reads [(name, .range)] fun request => request.rangeContribution name field := by
  intro request request' h
  have hrange : request.range? name = request'.range? name := h _ (List.mem_singleton.mpr rfl)
  simp only [Request.rangeContribution, hrange]

/-- A metatag and its negation, each with a contribution for its scalar. -/
theorem reads_scalars (name name' : String) (contribution contribution' : Value → Contribution) :
    Reads [(name, .scalar), (name', .scalar)] fun request =>
      .all [.ofOption (request.scalar? name) contribution,
        .ofOption (request.scalar? name') contribution'] := by
  intro request request' h
  have hscalar : request.scalar? name = request'.scalar? name :=
    h (name, .scalar) (by simp)
  have hnegated : request.scalar? name' = request'.scalar? name' :=
    h (name', .scalar) (by simp)
  simp only [hscalar, hnegated]

/-- The metatags of a list with its negation and its toggle. -/
def arrayReads (name : String) (toggle : Option String) : List (String × Accessor) :=
  [(name, .values), (negated name, .values)] ++ toggle.toList.map fun toggle => (toggle, .scalar)

theorem reads_array (name field : String) (toggle : Option String) :
    Reads (arrayReads name toggle) fun request => request.arrayContribution name field toggle := by
  intro request request' h
  have hlisted : request.values? name = request'.values? name :=
    h (name, .values) (by simp [arrayReads])
  have hnegated : request.values? (negated name) = request'.values? (negated name) :=
    h (negated name, .values) (by simp [arrayReads])
  have htoggled : toggle.bind request.scalar? = toggle.bind request'.scalar? := by
    cases toggle with
    | none => rfl
    | some toggle => exact h (toggle, .scalar) (by simp [arrayReads])
  simp only [Request.arrayContribution, Request.values, hlisted, hnegated, htoggled]

theorem reads_checksum : Reads [("md5", .values)] Request.checksumContribution := by
  intro request request' h
  have hlisted : request.values? "md5" = request'.values? "md5" :=
    h _ (List.mem_singleton.mpr rfl)
  unfold Request.checksumContribution Request.values
  rw [hlisted]

theorem reads_lock :
    Reads [("locked", .values), ("locked_neg", .values)] Request.lockContribution := by
  intro request request' h
  have hset : request.values? "locked" = request'.values? "locked" :=
    h ("locked", .values) (by simp)
  have hunset : request.values? "locked_neg" = request'.values? "locked_neg" :=
    h ("locked_neg", .values) (by simp)
  simp only [Request.lockContribution, Request.values, hset, hunset]

theorem reads_tag : Reads [("tags", .tags)] Request.tagContribution := by
  intro request request' h
  have htags : request.tags? "tags" = request'.tags? "tags" := h _ (List.mem_singleton.mpr rfl)
  simp only [Request.tagContribution, htags]

/-- The two metatags for the status. -/
def statusReads : List (String × Accessor) := [("status", .scalar), ("status_neg", .scalar)]

theorem scalars_of_agreesOn_status {request request' : Request}
    (h : request.AgreesOn statusReads request') :
    request.scalar? "status" = request'.scalar? "status" ∧
      request.scalar? "status_neg" = request'.scalar? "status_neg" :=
  ⟨h ("status", .scalar) (by simp [statusReads]), h ("status_neg", .scalar) (by simp [statusReads])⟩

theorem reads_status : Reads statusReads Request.statusContribution := by
  intro request request' h
  obtain ⟨hstatus, hnegated⟩ := scalars_of_agreesOn_status h
  simp only [Request.statusContribution, Request.status?, hstatus, hnegated]

theorem reads_visibility (adminMode : Bool) :
    Reads (if adminMode then [] else statusReads)
      fun request => request.visibilityContribution adminMode := by
  cases adminMode with
  | true => exact reads_const [] none
  | false =>
    intro request request' h
    obtain ⟨hstatus, hnegated⟩ := scalars_of_agreesOn_status h
    simp only [Request.visibilityContribution, Request.hidesDeleted, Request.showsDeleted,
      hstatus, hnegated]

end Contribution

/-- A part of the filters with the metatags that it reads. -/
structure Contribution.Reader where
  reads : List (String × Request.Accessor)
  part : Request → Contribution

namespace Request

open Contribution

/-- The parts for ranges. -/
def rangeReaders : List Reader :=
  (rangeMetatags ++ countRangeMetatags).map fun (name, field) =>
    ⟨[(name, .range)], fun request => request.rangeContribution name field⟩

/-- The parts for checksums, the status and the source. -/
def conditionReaders (adminMode : Bool) : List Reader :=
  [⟨[("md5", .values)], checksumContribution⟩, ⟨statusReads, statusContribution⟩,
    ⟨if adminMode then [] else statusReads,
      fun request => request.visibilityContribution adminMode⟩,
    ⟨[("source", .scalar), ("source_neg", .scalar)], sourceContribution⟩]

/-- The parts for lists of identifiers. -/
def arrayReaders : List Reader :=
  arrayMetatags.map fun (name, field, toggle) =>
    ⟨arrayReads name toggle, fun request => request.arrayContribution name field toggle⟩

/-- The parts for single values. -/
def singleReaders : List Reader :=
  singleMetatags.map fun (name, query) =>
    ⟨[(name, .scalar), (negated name, .scalar)],
      fun request => request.singleContribution name query⟩

/-- The parts for votes, reasons, posts, children and locks. -/
def otherReaders : List Reader :=
  [⟨[("voted", .scalar), ("voted_neg", .scalar)], voteContribution⟩,
    ⟨[("delreason", .scalar), ("delreason_neg", .scalar)],
      fun request => request.wildcardContribution "delreason" "del_reason"⟩,
    ⟨[("post_id_neg", .scalar)], identifierContribution⟩,
    ⟨[("child", .scalar)], childContribution⟩,
    ⟨[("locked", .values), ("locked_neg", .values)], lockContribution⟩]

/-- The parts for the presence of a field. -/
def presenceReaders : List Reader :=
  presenceMetatags.map fun (name, field) =>
    ⟨[(name, .raw)], fun request => request.presenceContribution name field⟩

/-- The parts for flags. -/
def flagReaders : List Reader :=
  flagMetatags.map fun (name, field) =>
    ⟨[(name, .raw)], fun request => request.flagContribution name field⟩

/-- The parts of the filters, each with the metatags that it reads. -/
def readers (safeMode adminMode : Bool) : List Reader :=
  [⟨[], fun _ => safetyContribution safeMode⟩] ++ rangeReaders ++ conditionReaders adminMode
    ++ arrayReaders ++ singleReaders ++ otherReaders ++ presenceReaders ++ flagReaders
    ++ [⟨[("tags", .tags)], tagContribution⟩]

section

variable {reader : Reader} {safeMode adminMode : Bool}

theorem mem_readers_of_condition (h : reader ∈ conditionReaders adminMode) :
    reader ∈ readers safeMode adminMode := by
  simp [readers, h]

theorem mem_readers_of_array (h : reader ∈ arrayReaders) :
    reader ∈ readers safeMode adminMode := by
  simp [readers, h]

theorem mem_readers_of_single (h : reader ∈ singleReaders) :
    reader ∈ readers safeMode adminMode := by
  simp [readers, h]

theorem mem_readers_of_other (h : reader ∈ otherReaders) :
    reader ∈ readers safeMode adminMode := by
  simp [readers, h]

theorem mem_readers_of_presence (h : reader ∈ presenceReaders) :
    reader ∈ readers safeMode adminMode := by
  simp [readers, h]

end

/-- The readers are the parts of the filters, one for one. -/
theorem map_part_readers (safeMode adminMode : Bool) :
    (readers safeMode adminMode).map Reader.part = filterParts safeMode adminMode := rfl

/-- A part of the filters reads no other metatags than those that stand with it. -/
theorem reads_of_mem_readers {safeMode adminMode : Bool} :
    ∀ reader ∈ readers safeMode adminMode, Reads reader.reads reader.part := by
  have hranges : ∀ reader ∈ rangeReaders, Reads reader.reads reader.part :=
    List.forall_mem_map.mpr fun metatag _ => reads_range metatag.1 metatag.2
  have hconditions : ∀ reader ∈ conditionReaders adminMode, Reads reader.reads reader.part := by
    simp only [conditionReaders, List.forall_mem_cons, List.mem_nil_iff, false_implies,
      implies_true, and_true]
    exact ⟨reads_checksum, reads_status, reads_visibility adminMode,
      reads_scalars "source" "source_neg" _ _⟩
  have harrays : ∀ reader ∈ arrayReaders, Reads reader.reads reader.part :=
    List.forall_mem_map.mpr fun metatag _ => reads_array metatag.1 metatag.2.1 metatag.2.2
  have hsingles : ∀ reader ∈ singleReaders, Reads reader.reads reader.part :=
    List.forall_mem_map.mpr fun metatag _ => reads_scalars metatag.1 (negated metatag.1) _ _
  have hothers : ∀ reader ∈ otherReaders, Reads reader.reads reader.part := by
    simp only [otherReaders, List.forall_mem_cons, List.mem_nil_iff, false_implies,
      implies_true, and_true]
    exact ⟨reads_scalars "voted" "voted_neg" _ _, reads_scalars "delreason" "delreason_neg" _ _,
      reads_scalar "post_id_neg" _, reads_scalar "child" _, reads_lock⟩
  have hpresence : ∀ reader ∈ presenceReaders, Reads reader.reads reader.part :=
    List.forall_mem_map.mpr fun metatag _ => reads_raw metatag.1 _
  have hflags : ∀ reader ∈ flagReaders, Reads reader.reads reader.part :=
    List.forall_mem_map.mpr fun metatag _ => reads_raw metatag.1 _
  simp only [readers, List.forall_mem_append, List.forall_mem_singleton]
  exact ⟨⟨⟨⟨⟨⟨⟨⟨reads_const _ _, hranges⟩, hconditions⟩, harrays⟩, hsingles⟩, hothers⟩,
    hpresence⟩, hflags⟩, reads_tag⟩

/-- The filters of two requests are the same if every part sees the same of both. -/
theorem filterContribution_congr {request request' : Request} {safeMode adminMode : Bool}
    (h : ∀ reader ∈ readers safeMode adminMode, request.AgreesOn reader.reads request') :
    request.filterContribution safeMode adminMode =
      request'.filterContribution safeMode adminMode := by
  unfold filterContribution
  rw [← map_part_readers, List.map_map, List.map_map]
  refine congrArg Contribution.all (List.map_congr_left fun reader hreader => ?_)
  exact reads_of_mem_readers reader hreader (h reader hreader)

end Request

end BoardSearch
