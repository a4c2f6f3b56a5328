import BoardSearch.Proofs.Relation.Reading

/-!
# Requests with one metatag

Every metatag is read by one part of the filters alone, where nothing is hidden. So with
a single metatag the filters contribute what that one part does.

## Main definitions

* `Request.single`: the request with one metatag;
* `Request.soleContribution`: what its filters contribute in admin mode;
* `Request.filterNames`: the metatags that the filters read in admin mode.

## Main statements

* `Request.nodup_filterNames`: no metatag is read by two parts, nor by the order;
* `Request.soleContribution_eq`: they contribute what the part does that reads the metatag.
-/

namespace BoardSearch

/-- Contributions in a row are the one of them that contributes anything. -/
theorem Contribution.all_eq_of_alone {before after : List Contribution} {c : Contribution}
    (hbefore : ∀ c' ∈ before, c' = none) (hafter : ∀ c' ∈ after, c' = none) :
    all (before ++ c :: after) = c := by
  have hnothing : all after = none := by
    induction after with
    | nil => rfl
    | cons first rest ih =>
      obtain ⟨rfl, hrest⟩ := List.forall_mem_cons.mp hafter
      exact ih hrest
  induction before with
  | nil =>
    show c.andThen (all after) = c
    rw [hnothing, andThen_none]
  | cons first rest ih =>
    obtain ⟨rfl, hrest⟩ := List.forall_mem_cons.mp hbefore
    exact ih hrest

namespace Request

open Contribution (Reader Reads)

/-- The request with one metatag. -/
def single (name : String) (value : Value) : Request := ⟨[(name, value)]⟩

@[simp]
theorem get?_single (name : String) (value : Value) :
    (single name value).get? name = some value := by
  simp [single, get?, Keyed.find?]

theorem get?_single_of_ne {name other : String} (value : Value) (h : name ≠ other) :
    (single name value).get? other = none := by
  simp [single, get?, Keyed.find?, h]

/-- The metatags that the filters read in admin mode, part by part. -/
def filterNames : List String :=
  (readers false true).flatMap fun reader => reader.reads.map (·.1)

/-- No two parts of the filters read a metatag of the same name, and none reads the number of
tags, the order or its seed. -/
theorem nodup_filterNames : (["tag_count", "order", "random"] ++ filterNames).Nodup := by
  decide +kernel

/-- Without metatags no part of the filters contributes anything. -/
theorem part_empty : ∀ reader ∈ readers false true, reader.part ⟨[]⟩ = .none := by
  have hparts : (readers false true).map (fun reader => reader.part ⟨[]⟩) =
      List.replicate (readers false true).length .none := rfl
  intro reader hreader
  exact (List.eq_replicate_iff.mp hparts).2 _ (List.mem_map.mpr ⟨reader, hreader, rfl⟩)

/-- A part contributes nothing where none of the metatags is there that it reads. -/
theorem part_eq_none {reader : Reader} (hreader : reader ∈ readers false true) {request : Request}
    (hnone : ∀ entry ∈ reader.reads, request.get? entry.1 = none) :
    reader.part request = .none := by
  have hagrees : request.AgreesOn reader.reads ⟨[]⟩ := by
    intro entry hentry
    exact Accessor.seesSame_of_get? (hnone entry hentry) entry.2
  rw [reads_of_mem_readers reader hreader hagrees]
  exact part_empty reader hreader

theorem part_single_eq_none {reader : Reader} (hreader : reader ∈ readers false true)
    {name : String} (hname : name ∉ reader.reads.map (·.1)) (value : Value) :
    reader.part (single name value) = .none := by
  refine part_eq_none hreader fun entry hentry => get?_single_of_ne value ?_
  rintro rfl
  exact hname (List.mem_map.mpr ⟨entry, hentry, rfl⟩)

theorem map_part_single_eq_none {others : List Reader}
    (hothers : ∀ reader ∈ others, reader ∈ readers false true) {name : String}
    (hname : name ∉ others.flatMap fun reader => reader.reads.map (·.1)) (value : Value) :
    ∀ c ∈ others.map fun reader => reader.part (single name value), c = .none := by
  refine List.forall_mem_map.mpr fun reader hreader => ?_
  refine part_single_eq_none (hothers reader hreader) (fun hread => hname ?_) value
  exact List.mem_flatMap.mpr ⟨reader, hreader, hread⟩

/-- What the filters of a request with one metatag contribute in admin mode and without safe
mode. -/
def soleContribution (name : String) (value : Value) : Contribution :=
  (single name value).filterContribution false true

/-- The filters of a request with one metatag contribute what the part does that reads it. -/
theorem soleContribution_eq {reader : Reader} (hreader : reader ∈ readers false true)
    {name : String} (hname : name ∈ reader.reads.map (·.1)) (value : Value) :
    soleContribution name value = reader.part (single name value) := by
  obtain ⟨before, after, hsplit⟩ := List.append_of_mem hreader
  have hnodup := (List.nodup_append.mp nodup_filterNames).2.1
  rw [filterNames, hsplit, List.flatMap_append, List.flatMap_cons] at hnodup
  obtain ⟨_, hlater, hbefore⟩ := List.nodup_append.mp hnodup
  obtain ⟨_, _, hafter⟩ := List.nodup_append.mp hlater
  have hfirst := map_part_single_eq_none
    (by simp +contextual [hsplit] : ∀ reader ∈ before, reader ∈ readers false true)
    (fun hread => hbefore name hread name (List.mem_append_left _ hname) rfl) value
  have hlast := map_part_single_eq_none
    (by simp +contextual [hsplit] : ∀ reader ∈ after, reader ∈ readers false true)
    (fun hread => hafter name hname name hread rfl) value
  unfold soleContribution filterContribution
  rw [← map_part_readers, List.map_map, hsplit, List.map_append, List.map_cons]
  exact Contribution.all_eq_of_alone hfirst hlast

end Request

end BoardSearch
