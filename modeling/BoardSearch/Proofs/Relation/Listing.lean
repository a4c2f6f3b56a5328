import BoardSearch.Proofs.Query.Post
import BoardSearch.Proofs.Relation.Admission
import BoardSearch.Proofs.Relation.Single
import BoardSearch.Proofs.Value.Json

/-!
# What lists ask for

The metatags that hold lists follow three policies: of checksums a post has to have any, of
identifiers all and none of the negated ones, and of locks each has to be set or not. Where a
request has nothing but lists, its filters ask for these alone.

## Main definitions

* `Post.IsLocked`: a lock of a post is set or not;
* `Request.listMetatags`: the metatags that hold lists;
* `Request.OnlyLists`: a request has nothing but lists;
* `Post.Selected`: what lists ask of a post.

## Main statements

* `Request.admits_checksum`, `Request.admits_array`, `Request.admits_lock`: the three policies;
* `Request.admits_filters_of_onlyLists`: the filters of a request that has nothing but lists.
-/

namespace BoardSearch

/-- The locks that a post can have. -/
def lockKinds : List String := ["rating", "note", "status"]

/-- The value names a lock, and the flag of that lock has the given value. -/
def Post.IsLocked (post : Post) (isSet : Bool) (lock : Value) : Prop :=
  ∃ kind ∈ lockKinds, lock = .text kind ∧ post.Has (kind ++ "_locked") (.bool isSet)

/-- The metatags that list identifiers, with the fields that hold these. -/
def identifierLists : List (String × String) :=
  [("uploader_ids", "uploader"), ("approver_ids", "approver"), ("commenter_ids", "commenters"),
    ("noter_ids", "noters"), ("note_updater_ids", "noters"), ("pool_ids", "pools"),
    ("set_ids", "sets"), ("fav_ids", "faves"), ("parent_ids", "parent")]

/-- What lists under the names of metatags ask of a post. -/
structure Post.Selected (post : Post) (listed : String → List Value) : Prop where
  checksum : listed "md5" = [] ∨ ∃ v ∈ listed "md5", post.Has "md5" v
  holds : ∀ entry ∈ identifierLists, ∀ v ∈ listed entry.1, post.Has entry.2 v
  lacks : ∀ entry ∈ identifierLists, ∀ v ∈ listed (negated entry.1), ¬ post.Has entry.2 v
  locked : ∀ v ∈ listed "locked", post.IsLocked true v
  unlocked : ∀ v ∈ listed "locked_neg", post.IsLocked false v

namespace Request

open Contribution (admits_all admits_none admits_require admits_exclude)

variable {post : Post} {request : Request}

/-! ## Policies -/

/-- A post has to have one of the checksums, if there are any. -/
theorem admits_checksum :
    request.checksumContribution.Admits post.truth ↔
      request.values "md5" = [] ∨ ∃ v ∈ request.values "md5", post.Has "md5" v := by
  unfold checksumContribution
  by_cases hnone : request.values "md5" = []
  · simp [hnone]
  · have hsome : (request.values "md5").isEmpty = false := List.isEmpty_eq_false_iff.mpr hnone
    simp only [hsome, Bool.false_eq_true, if_false, admits_require, List.forall_mem_singleton,
      Truth.meets_atLeastOne, hnone, false_or]
    constructor
    · rintro ⟨q, hq, hmeets⟩
      obtain ⟨v, hv, rfl⟩ := List.mem_map.mp hq
      exact ⟨v, hv, Post.meets_term_iff.mp hmeets⟩
    · rintro ⟨v, hv, hhas⟩
      exact ⟨_, List.mem_map.mpr ⟨v, hv, rfl⟩, Post.meets_term_iff.mpr hhas⟩

/-- A post has to have all values of a list and none of its negation. -/
theorem admits_array {name field : String} {toggle : Option String}
    (htoggle : toggle.bind request.scalar? = none) :
    (request.arrayContribution name field toggle).Admits post.truth ↔
      (∀ v ∈ request.values name, post.Has (fieldPath field) v) ∧
        ∀ v ∈ request.values (negated name), ¬ post.Has (fieldPath field) v := by
  have hexcluded : ∀ v, post.truth.meets (.term field v) = false ↔
      ¬ post.Has (fieldPath field) v := by
    intro v
    rw [← Post.meets_term_iff, Bool.not_eq_true]
  simp only [arrayContribution, htoggle, Contribution.ofOption, admits_all, List.forall_mem_cons,
    admits_require, admits_exclude, admits_none, List.forall_mem_map, Post.meets_term_iff,
    hexcluded, List.not_mem_nil, false_implies, implies_true, and_true]

/-- The flag of a lock is looked up under its kind. -/
theorem has_lockField {lock : Value} (hlock : lock.isAtom = true) (isSet : Bool)
    (hmissing : post.values missingLockField = []) :
    post.Has (fieldPath (lockField lock)) (.bool isSet) ↔ post.IsLocked isSet lock := by
  have htext : ∀ kind, lock.isText kind = true ↔ lock = .text kind := by
    intro kind
    cases lock with
    | operator op => simp [Value.isAtom] at hlock
    | _ => simp [Value.isText, Value.asText?]
  have hpaths : ∀ kind ∈ lockKinds, fieldPath (lockField (.text kind)) = kind ++ "_locked" := by
    decide +kernel
  by_cases hknown : ∃ kind ∈ lockKinds, lock = .text kind
  · obtain ⟨kind, hkind, rfl⟩ := hknown
    rw [hpaths kind hkind, Post.IsLocked]
    constructor
    · intro hhas
      exact ⟨kind, hkind, rfl, hhas⟩
    · rintro ⟨kind', _, hsame, hhas⟩
      exact Value.text.inj hsame ▸ hhas
  · -- an unknown lock is looked up where no post has anything
    have hfind : (lockFields.find? fun entry => lock.isText entry.1) = none := by
      rw [List.find?_eq_none]
      intro entry hentry hnamed
      have hkind : ∀ entry ∈ lockFields, entry.1 ∈ lockKinds := by decide +kernel
      exact hknown ⟨entry.1, hkind entry hentry, (htext entry.1).mp hnamed⟩
    have hfield : fieldPath (lockField lock) = missingLockField := by
      rw [lockField, hfind]
      decide +kernel
    rw [hfield, Post.Has, hmissing]
    constructor
    · simp
    · rintro ⟨kind, hkind, hsame, _⟩
      exact absurd ⟨kind, hkind, hsame⟩ hknown

/-- Each lock has to be set, and each negated one not to be. -/
theorem admits_lock (hmissing : post.values missingLockField = [])
    (hset : ∀ v ∈ request.values "locked", v.isAtom = true)
    (hunset : ∀ v ∈ request.values "locked_neg", v.isAtom = true) :
    request.lockContribution.Admits post.truth ↔
      (∀ v ∈ request.values "locked", post.IsLocked true v) ∧
        ∀ v ∈ request.values "locked_neg", post.IsLocked false v := by
  have hlocks : ∀ (isSet : Bool) (locks : List Value), (∀ v ∈ locks, v.isAtom = true) →
      ((Contribution.all (locks.map (lockOf isSet))).Admits post.truth ↔
        ∀ v ∈ locks, post.IsLocked isSet v) := by
    intro isSet locks hatoms
    rw [admits_all, List.forall_mem_map]
    refine forall₂_congr fun v hv => ?_
    have hkey : v.hashable = true := Value.hashable_of_isAtom (hatoms v hv)
    simp only [lockOf, hkey, if_true, admits_require, List.forall_mem_singleton,
      Post.meets_term_iff, has_lockField (hatoms v hv) isSet hmissing]
  simp only [lockContribution, admits_all, List.forall_mem_cons, List.not_mem_nil, false_implies,
    implies_true, and_true]
  rw [← admits_all, ← admits_all, hlocks true _ hset, hlocks false _ hunset]

/-! ## Requests with lists -/

/-- The metatags that hold lists. -/
def listMetatags : List String :=
  ["md5", "locked", "locked_neg"] ++
    identifierLists.flatMap fun (name, _) => [name, negated name]

/-- The request has metatags that hold lists, and nothing else. -/
def OnlyLists (request : Request) : Prop :=
  ∀ name value, request.get? name = some value →
    name ∈ listMetatags ∧ ∃ items, value = .list items ∧ ∀ v ∈ items, v.isAtom = true

namespace OnlyLists

theorem get?_eq_none (h : request.OnlyLists) {name : String} (hname : name ∉ listMetatags) :
    request.get? name = none := by
  rw [Option.eq_none_iff_forall_ne_some]
  intro value hvalue
  exact hname (h name value hvalue).1

theorem scalar?_eq_none (h : request.OnlyLists) (name : String) : request.scalar? name = none := by
  rw [scalar?]
  cases hvalue : request.get? name with
  | none => rfl
  | some value =>
    obtain ⟨_, items, rfl, _⟩ := h name value hvalue
    rfl

theorem isAtom (h : request.OnlyLists) {name : String} {v : Value}
    (hv : v ∈ request.values name) : v.isAtom = true := by
  rw [values, values?] at hv
  cases hvalue : request.get? name with
  | none => simp [hvalue] at hv
  | some value =>
    obtain ⟨_, items, rfl, hatoms⟩ := h name value hvalue
    exact hatoms v (by simpa [hvalue, valuesOf?] using hv)

end OnlyLists

/-- The metatags with a list of identifiers are those of the filters. -/
theorem map_arrayMetatags :
    arrayMetatags.map (fun metatag => (metatag.1, metatag.2.1)) = identifierLists := rfl

/-- A part of the filters reads a metatag that holds a list. -/
def readsLists (reader : Contribution.Reader) : Bool :=
  reader.reads.any fun entry => listMetatags.contains entry.1

/-- Checksums, lists of identifiers and locks are the parts that read lists. -/
theorem filter_readsLists :
    (readers false true).filter readsLists =
      ⟨[("md5", .values)], checksumContribution⟩ :: arrayReaders ++
        [⟨[("locked", .values), ("locked_neg", .values)], lockContribution⟩] := by
  rfl

section

variable (h : request.OnlyLists)
include h

theorem admits_part_of_not_readsLists {reader : Contribution.Reader}
    (hreader : reader ∈ readers false true) (hreads : ¬ readsLists reader = true) :
    (reader.part request).Admits post.truth := by
  rw [part_eq_none hreader]
  · exact admits_none
  · intro entry hentry
    apply h.get?_eq_none
    intro hlist
    exact hreads (List.any_eq_true.mpr ⟨entry, hentry, List.contains_iff_mem.mpr hlist⟩)

/-- The filters admit what the parts admit that read lists. -/
theorem admits_filters_iff :
    (request.filterContribution false true).Admits post.truth ↔
      ∀ reader ∈ (readers false true).filter readsLists,
        (reader.part request).Admits post.truth := by
  rw [filterContribution, ← map_part_readers, List.map_map, admits_all, List.forall_mem_map]
  constructor
  · intro hall reader hreader
    exact hall reader (List.mem_filter.mp hreader).1
  · intro hall reader hreader
    by_cases hreads : readsLists reader = true
    · exact hall reader (List.mem_filter.mpr ⟨hreader, hreads⟩)
    · exact admits_part_of_not_readsLists h hreader hreads

theorem admits_arrayReaders :
    (∀ reader ∈ arrayReaders, (reader.part request).Admits post.truth) ↔
      ∀ entry ∈ identifierLists, (∀ v ∈ request.values entry.1, post.Has entry.2 v) ∧
        ∀ v ∈ request.values (negated entry.1), ¬ post.Has entry.2 v := by
  have hfields : ∀ metatag ∈ arrayMetatags, fieldPath metatag.2.1 = metatag.2.1 := by
    decide +kernel
  rw [arrayReaders, ← map_arrayMetatags, List.forall_mem_map, List.forall_mem_map]
  refine forall₂_congr fun metatag hmetatag => ?_
  have htoggle : metatag.2.2.bind request.scalar? = none := by
    cases metatag.2.2 with
    | none => rfl
    | some toggle => exact h.scalar?_eq_none toggle
  have harray : (request.arrayContribution metatag.1 metatag.2.1 metatag.2.2).Admits
      post.truth ↔ _ := admits_array htoggle
  rwa [hfields metatag hmetatag] at harray

/-- Where a request has nothing but lists, the filters ask for what the lists say. -/
theorem admits_filters_of_onlyLists (hmissing : post.values missingLockField = []) :
    (request.filterContribution false true).Admits post.truth ↔ post.Selected request.values := by
  rw [admits_filters_iff h, filter_readsLists]
  simp only [List.cons_append, List.forall_mem_cons, List.forall_mem_append, List.not_mem_nil,
    false_implies, implies_true, and_true, admits_arrayReaders h, admits_checksum,
    admits_lock hmissing (fun v => h.isAtom) (fun v => h.isAtom)]
  constructor
  · rintro ⟨hsum, hids, hset, hunset⟩
    exact ⟨hsum, fun entry hentry => (hids entry hentry).1,
      fun entry hentry => (hids entry hentry).2, hset, hunset⟩
  · intro hselected
    exact ⟨hselected.checksum,
      fun entry hentry => ⟨hselected.holds entry hentry, hselected.lacks entry hentry⟩,
      hselected.locked, hselected.unlocked⟩

end

end Request

end BoardSearch
