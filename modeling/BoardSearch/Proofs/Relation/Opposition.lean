import BoardSearch.Proofs.Relation.Breaking
import BoardSearch.Proofs.Relation.Single

/-!
# Opposite metatags

Most metatags have a negation, and what the negation contributes admits just the posts
that the metatag does not. The two sides are not built alike: a choice between the two
kinds of votes is turned into the exclusion of both, and a source that is asked to be
absent into one that is required.

## Main definitions

* `Contribution.Opposed`: two contributions admit complementary posts;
* `Request.Opposite`: two metatags of which one negates the other.

## Main statements

* `Request.opposed_sourceOf`: the two sides of a pattern for the source;
* `Request.Opposite.exists_reader`: one part of the filters reads both metatags;
* `Request.Opposite.opposed`: the filters of opposite metatags are opposed.
-/

namespace BoardSearch

namespace Contribution

/-- Both contributions were made in full or neither was, and if they were, a post is
admitted by one of them alone. -/
structure Opposed (c c' : Contribution) : Prop where
  failure_iff : c.failure = .none ↔ c'.failure = .none
  admits_iff : c.failure = .none → ∀ τ : Truth, c'.Admits τ ↔ ¬ c.Admits τ

variable {c c' : Contribution}

theorem Opposed.symm (h : Opposed c c') : Opposed c' c where
  failure_iff := h.failure_iff.symm
  admits_iff hwhole τ := by
    rw [h.admits_iff (h.failure_iff.mpr hwhole) τ]
    exact Classical.not_not.symm

theorem opposed_require_exclude (query : Query) : Opposed (require [query]) (exclude [query]) where
  failure_iff := Iff.rfl
  admits_iff _ τ := by
    rw [admits_require, admits_exclude, List.forall_mem_singleton, List.forall_mem_singleton,
      Bool.not_eq_true]

/-- A choice between queries is opposed to the exclusion of all of them. -/
theorem opposed_atLeastOne (queries : List Query) :
    Opposed (require [.atLeastOne queries]) (exclude queries) where
  failure_iff := Iff.rfl
  admits_iff _ τ := by
    rw [admits_require, admits_exclude, List.forall_mem_singleton, τ.meets_atLeastOne]
    simp

/-- A query that cannot be made is missing on both sides. -/
theorem opposed_ofQuery (query : Except Failure Query) :
    Opposed (ofQuery query require) (ofQuery query exclude) := by
  cases query with
  | ok query => exact opposed_require_exclude query
  | error failure =>
    constructor
    · exact Iff.rfl
    · intro hwhole
      simp [ofQuery, fail] at hwhole

end Contribution

namespace Request

open Contribution

/-! ## Metatags with a negation -/

/-- A source that is asked to be absent is required where that is negated. -/
theorem opposed_sourceOf (pattern : Value) :
    Opposed (sourceOf pattern) (negatedSourceOf pattern) := by
  unfold sourceOf negatedSourceOf
  by_cases hnone : pattern.isText sourceNone = true
  · rw [if_pos hnone, if_pos hnone]
    exact (opposed_require_exclude _).symm
  · rw [if_neg hnone, if_neg hnone]
    by_cases hhttp : pattern.isText sourceHttp = true
    · rw [if_pos hhttp, if_pos hhttp]
      exact opposed_require_exclude _
    · rw [if_neg hhttp, if_neg hhttp]
      exact opposed_ofQuery _

theorem name_ne_negated (name : String) : name ≠ negated name := by
  intro h
  have hlength : name.length = (name ++ "_neg").length := congrArg String.length h
  rw [String.length_append] at hlength
  exact absurd hlength (Nat.ne_of_lt (Nat.lt_add_of_pos_right (by decide)))

/-- The scalars under a metatag and under its negation, each with its contribution. -/
def pairReader (name : String) (contribution contribution' : Value → Contribution) : Reader where
  reads := [(name, .scalar), (negated name, .scalar)]
  part request := .all [.ofOption (request.scalar? name) contribution,
    .ofOption (request.scalar? (negated name)) contribution']

/-- The metatags for scalars that have a negation. -/
def negatable : List String :=
  ["rating", "filetype", "description", "note", "deleter", "upvote", "downvote", "voted",
    "delreason", "source"]

/-- The metatags whose scalar is a pattern, which has to be written out. -/
def patterns : List String := ["delreason", "source"]

/-- What a pattern contributes is made in full where the pattern can be written out. -/
theorem failure_pattern {c : Contribution} {name : String} {value : Value}
    (hname : name ∈ patterns) (h : FailsIff c.outcome (value.hasText = false)) :
    c.failure = .none ↔ (name ∈ patterns → value.hasText = true) := by
  have hwhole : c.failure = .none ↔ value.hasText = true := by
    rw [← Bool.not_eq_false, ← h.fails_iff, outcome]
    cases c.failure <;> simp
  rw [hwhole]
  exact ⟨fun htext _ => htext, fun htext => htext hname⟩

/-- Each of these metatags is read together with its negation, and their contributions for
one value are opposed. -/
theorem exists_pairReader {name : String} (hname : name ∈ negatable) :
    ∃ contribution contribution', pairReader name contribution contribution' ∈ readers false true ∧
      ∀ value, Opposed (contribution value) (contribution' value) ∧
        ((contribution value).failure = .none ↔ (name ∈ patterns → value.hasText = true)) := by
  have hnegatable : negatable = singleMetatags.map (·.1) ++ ["voted", "delreason", "source"] := rfl
  rw [hnegatable, List.mem_append] at hname
  obtain hsingle | hname := hname
  · obtain ⟨metatag, hmetatag, rfl⟩ := List.mem_map.mp hsingle
    have hplain : ∀ metatag ∈ singleMetatags, metatag.1 ∉ patterns := by
      simp [singleMetatags, patterns]
    refine ⟨fun value => .require [metatag.2 value], fun value => .exclude [metatag.2 value], ?_,
      fun value => ⟨opposed_require_exclude (metatag.2 value), ?_⟩⟩
    · exact mem_readers_of_single (List.mem_map.mpr ⟨metatag, hmetatag, rfl⟩)
    · exact iff_of_true rfl fun h => absurd h (hplain metatag hmetatag)
  · simp only [List.mem_cons, List.mem_nil_iff, or_false] at hname
    obtain rfl | rfl | rfl := hname
    · refine ⟨fun voter => .require [.atLeastOne (votesOf voter)],
        fun voter => .exclude (votesOf voter), ?_,
        fun voter => ⟨opposed_atLeastOne (votesOf voter), ?_⟩⟩
      · exact mem_readers_of_other List.mem_cons_self
      · exact iff_of_true rfl fun h => absurd h (by decide)
    · refine ⟨fun pattern => .ofQuery (likeQuery "del_reason" pattern) .require,
        fun pattern => .ofQuery (likeQuery "del_reason" pattern) .exclude, ?_,
        fun pattern => ⟨opposed_ofQuery (likeQuery "del_reason" pattern), ?_⟩⟩
      · exact mem_readers_of_other (List.mem_cons_of_mem _ List.mem_cons_self)
      · exact failure_pattern (by decide) (failsIff_like "del_reason" pattern .require fun _ => rfl)
    · refine ⟨sourceOf, negatedSourceOf, ?_, fun pattern => ⟨opposed_sourceOf pattern, ?_⟩⟩
      · exact mem_readers_of_condition (List.mem_of_getLast? rfl)
      · exact failure_pattern (by decide) (failsIff_sourceOf pattern)

theorem scalar?_single {name : String} {value : Value} (h : (scalarOf? value).isSome = true) :
    (single name value).scalar? name = some value := by
  obtain ⟨scalar, hscalar⟩ := Option.isSome_iff_exists.mp h
  rw [scalar?, get?_single, Option.bind_some, hscalar, scalarOf?_eq_some hscalar]

theorem scalar?_single_of_ne {name other : String} (value : Value) (h : name ≠ other) :
    (single name value).scalar? other = .none := by
  rw [scalar?, get?_single_of_ne value h, Option.bind_none]

theorem part_pairReader {name : String} {value : Value}
    (contribution contribution' : Value → Contribution) (h : (scalarOf? value).isSome = true) :
    (pairReader name contribution contribution').part (single name value) = contribution value := by
  simp only [pairReader, scalar?_single h, scalar?_single_of_ne value (name_ne_negated name)]
  exact andThen_none (contribution value)

theorem part_pairReader_negated {name : String} {value : Value}
    (contribution contribution' : Value → Contribution) (h : (scalarOf? value).isSome = true) :
    (pairReader name contribution contribution').part (single (negated name) value) =
      contribution' value := by
  simp only [pairReader, scalar?_single h, scalar?_single_of_ne value (name_ne_negated name).symm]
  exact andThen_none (contribution' value)

/-! ## Lists and their toggles -/

theorem values_single {name : String} {value : Value} {items : List Value}
    (h : valuesOf? value = some items) : (single name value).values name = items := by
  rw [values, values?, get?_single, Option.bind_some, h, Option.getD_some]

theorem values_single_of_ne {name other : String} (value : Value) (h : name ≠ other) :
    (single name value).values other = [] := by
  rw [values, values?, get?_single_of_ne value h, Option.bind_none, Option.getD_none]

/-- A list, its negation and its toggle go by different names. -/
theorem nodup_arrayReads : ∀ metatag ∈ arrayMetatags,
    ((arrayReads metatag.1 metatag.2.2).map (·.1)).Nodup := by
  decide +kernel

/-- The part of the filters for a list, with its negation and its toggle. -/
def arrayReader (name field : String) (toggle : Option String) : Reader where
  reads := arrayReads name toggle
  part request := request.arrayContribution name field toggle

theorem arrayReader_mem {name field : String} {toggle : Option String}
    (h : (name, field, toggle) ∈ arrayMetatags) :
    arrayReader name field toggle ∈ readers false true :=
  mem_readers_of_array (List.mem_map.mpr ⟨_, h, rfl⟩)

section

variable {name field : String} {toggle : Option String} {value item : Value}

/-- Neither a list nor its negation is a toggle. -/
theorem toggled_eq_none (hname : (name, field, toggle) ∈ arrayMetatags) {listed : String}
    (hlisted : listed = name ∨ listed = negated name) (value : Value) :
    toggle.bind (single listed value).scalar? = .none := by
  have hnodup := nodup_arrayReads _ hname
  cases toggle with
  | none => rfl
  | some toggle =>
    have hdiffer : listed ≠ toggle := by
      rintro rfl
      obtain rfl | rfl := hlisted <;> simp [arrayReads] at hnodup
    exact scalar?_single_of_ne value hdiffer

/-- A list with one item requires it, whatever the toggle is. -/
theorem arrayContribution_single (hname : (name, field, toggle) ∈ arrayMetatags)
    (hvalue : valuesOf? value = some [item]) :
    (single name value).arrayContribution name field toggle = .require [.term field item] := by
  simp only [arrayContribution, toggled_eq_none hname (.inl rfl), values_single hvalue,
    values_single_of_ne value (name_ne_negated name)]
  rfl

/-- A negated list with one item excludes it. -/
theorem arrayContribution_single_negated (hname : (name, field, toggle) ∈ arrayMetatags)
    (hvalue : valuesOf? value = some [item]) :
    (single (negated name) value).arrayContribution name field toggle =
      .exclude [.term field item] := by
  simp only [arrayContribution, toggled_eq_none hname (.inr rfl), values_single hvalue,
    values_single_of_ne value (name_ne_negated name).symm]
  rfl

/-- A toggle asks whether the field has any value. -/
theorem arrayContribution_toggle {toggle word : String}
    (hname : (name, field, some toggle) ∈ arrayMetatags) (hword : word ≠ "") :
    (single toggle (.text word)).arrayContribution name field (some toggle) =
      if (Value.text word).isText "any" then .require [.present field]
      else if (Value.text word).isText "none" then .exclude [.present field]
      else .none := by
  have hnodup := nodup_arrayReads _ hname
  have hlist : toggle ≠ name := by
    rintro rfl
    simp [arrayReads] at hnodup
  have hnegated : toggle ≠ negated name := by
    rintro rfl
    simp [arrayReads] at hnodup
  have hscalar : (scalarOf? (.text word)).isSome = true := by
    simp [scalarOf?, hword]
  simp only [arrayContribution, Option.bind_some, scalar?_single hscalar,
    values_single_of_ne _ hlist, values_single_of_ne _ hnegated]
  exact andThen_none _

end

/-! ## Presence -/

/-- The part of the filters for the presence of a field. -/
def presenceReader (name field : String) : Reader where
  reads := [(name, .raw)]
  part request := request.presenceContribution name field

theorem presenceReader_mem {name field : String} (h : (name, field) ∈ presenceMetatags) :
    presenceReader name field ∈ readers false true :=
  mem_readers_of_presence (List.mem_map.mpr ⟨_, h, rfl⟩)

theorem presenceContribution_single (name field : String) (value : Value) :
    (single name value).presenceContribution name field =
      if value.truthy then .require [.present field] else .exclude [.present field] := by
  rw [presenceContribution, get?_single]
  rfl

/-! ## Opposite metatags -/

/-- Two metatags of which one negates the other. -/
inductive Opposite : String × Value → String × Value → Prop
  /-- A scalar under a metatag and under its negation. -/
  | scalar {name : String} {value : Value} (hname : name ∈ negatable)
    (hvalue : (scalarOf? value).isSome = true) : Opposite (name, value) (negated name, value)
  /-- An identifier that is the only one in a list. -/
  | listed {name field : String} {toggle : Option String} {value item : Value}
    (hname : (name, field, toggle) ∈ arrayMetatags) (hvalue : valuesOf? value = some [item]) :
    Opposite (name, value) (negated name, value)
  /-- A field with any value and one with none. -/
  | toggled {name field toggle : String} (hname : (name, field, some toggle) ∈ arrayMetatags) :
    Opposite (toggle, .text "any") (toggle, .text "none")
  /-- The presence of a field and its absence. -/
  | presence {name field : String} {value value' : Value}
    (hname : (name, field) ∈ presenceMetatags) (hvalue : value.truthy = true)
    (hvalue' : value'.truthy = false) : Opposite (name, value) (name, value')

variable {name name' : String} {value value' : Value}

/-- Opposite metatags are read by one part of the filters, and what it contributes for the
one is opposed to what it contributes for the other. -/
theorem Opposite.exists_reader (h : Opposite (name, value) (name', value')) :
    ∃ reader ∈ readers false true,
      name ∈ reader.reads.map (·.1) ∧ name' ∈ reader.reads.map (·.1) ∧
      Opposed (reader.part (single name value)) (reader.part (single name' value')) ∧
      ((reader.part (single name value)).failure = .none ↔
        (name ∈ patterns → value.hasText = true)) := by
  cases h with
  | scalar hname hvalue =>
    obtain ⟨contribution, contribution', hreader, hopposed⟩ := exists_pairReader hname
    refine ⟨_, hreader, by simp [pairReader], by simp [pairReader], ?_⟩
    rw [part_pairReader _ _ hvalue, part_pairReader_negated _ _ hvalue]
    exact hopposed value
  | @listed _ field toggle _ item hname hvalue =>
    have hplain : ∀ metatag ∈ arrayMetatags, metatag.1 ∉ patterns := by decide +kernel
    refine ⟨_, arrayReader_mem hname, by simp [arrayReader, arrayReads],
      by simp [arrayReader, arrayReads], ?_⟩
    show Opposed ((single name value).arrayContribution name field toggle)
      ((single (negated name) value).arrayContribution name field toggle) ∧
        (((single name value).arrayContribution name field toggle).failure = .none ↔ _)
    rw [arrayContribution_single hname hvalue, arrayContribution_single_negated hname hvalue]
    exact ⟨opposed_require_exclude _, iff_of_true rfl fun h => absurd h (hplain _ hname)⟩
  | @toggled list field _ hname =>
    have hplain : ∀ metatag ∈ arrayMetatags, ∀ toggle ∈ metatag.2.2, toggle ∉ patterns := by
      decide +kernel
    refine ⟨_, arrayReader_mem hname, by simp [arrayReader, arrayReads],
      by simp [arrayReader, arrayReads], ?_⟩
    show Opposed ((single name (.text "any")).arrayContribution list field (some name))
      ((single name (.text "none")).arrayContribution list field (some name)) ∧
        (((single name (.text "any")).arrayContribution list field (some name)).failure =
          .none ↔ _)
    rw [arrayContribution_toggle hname (by decide), arrayContribution_toggle hname (by decide)]
    exact ⟨opposed_require_exclude _, iff_of_true rfl fun h => absurd h (hplain _ hname _ rfl)⟩
  | @presence _ field _ _ hname hvalue hvalue' =>
    have hplain : ∀ metatag ∈ presenceMetatags, metatag.1 ∉ patterns := by decide +kernel
    refine ⟨presenceReader name field, presenceReader_mem hname, by simp [presenceReader],
      by simp [presenceReader], ?_⟩
    show Opposed ((single name value).presenceContribution name field)
      ((single name value').presenceContribution name field) ∧
        (((single name value).presenceContribution name field).failure = .none ↔ _)
    rw [presenceContribution_single, presenceContribution_single, hvalue, hvalue', if_pos rfl,
      if_neg Bool.false_ne_true]
    exact ⟨opposed_require_exclude _, iff_of_true rfl fun h => absurd h (hplain _ hname)⟩

theorem Opposite.mem_filterNames (h : Opposite (name, value) (name', value')) :
    name ∈ filterNames ∧ name' ∈ filterNames := by
  obtain ⟨reader, hreader, hname, hname', _⟩ := h.exists_reader
  exact ⟨List.mem_flatMap.mpr ⟨reader, hreader, hname⟩,
    List.mem_flatMap.mpr ⟨reader, hreader, hname'⟩⟩

/-- In admin mode and without safe mode the filters of opposite metatags admit complementary
posts, and they are made in full where a pattern can be written out. -/
theorem Opposite.opposed (h : Opposite (name, value) (name', value')) :
    Opposed (soleContribution name value) (soleContribution name' value') ∧
      ((soleContribution name value).failure = .none ↔
        (name ∈ patterns → value.hasText = true)) := by
  obtain ⟨reader, hreader, hname, hname', hopposed⟩ := h.exists_reader
  rw [soleContribution_eq hreader hname, soleContribution_eq hreader hname']
  exact hopposed

end Request

end BoardSearch
