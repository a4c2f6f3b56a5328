import BoardSearch.Compiler.Operation
import BoardSearch.Proofs.Compiler.Result
import BoardSearch.Proofs.Query.Post

/-!
# What plain tags ask for

The query for a grouping of tags states how many of its alternatives have to match, since what
a bool query implies about them depends on the tags that are required besides. So the
alternatives count, whatever stands with them.

## Main definitions

* `TagGrouping.Selects`: what a grouping asks for of the tags that are present.

## Main statements

* `Post.meets_tags_iff`: the query of a grouping is met by the posts that it selects;
* `Compiler.addTags_selects`: it is collected after all that was collected before.
-/

namespace BoardSearch

/-- One of the included tags is present, if there are any; all related ones are, and no excluded
one is. -/
def TagGrouping.Selects (grouping : TagGrouping) (present : Value → Prop) : Prop :=
  (grouping.included = [] ∨ ∃ tag ∈ grouping.included, present tag) ∧
    (∀ tag ∈ grouping.related, present tag) ∧ ∀ tag ∈ grouping.excluded, ¬ present tag

namespace Post

variable (post : Post)

theorem meets_tag_iff {tag : Value} :
    post.truth.meets (.term "tags" tag) = true ↔ post.Has "tags" tag :=
  meets_term_iff

/-- The alternatives of a grouping ask for one of them, unless there are none. -/
theorem required_tags_iff (grouping : TagGrouping) :
    post.truth.required (grouping.included.map (.term "tags")) (grouping.related.map (.term "tags"))
        [] (if grouping.included.isEmpty then none else some (.int 1)) ≤
      post.truth.countMet (grouping.included.map (.term "tags")) ↔
    grouping.included = [] ∨ ∃ tag ∈ grouping.included, post.Has "tags" tag := by
  obtain ⟨included, excluded, related⟩ := grouping
  cases included with
  | nil => simp [Truth.required, Truth.countMet]
  | cons first rest =>
    have hrequired : post.truth.required ((first :: rest).map (.term "tags"))
        (related.map (.term "tags")) [] (some (.int 1)) = 1 := rfl
    have hone : (1 : Int) ≤ post.truth.countMet ((first :: rest).map (.term "tags")) ↔
        0 < post.truth.countMet ((first :: rest).map (.term "tags")) := by omega
    simp only [List.isEmpty_cons, Bool.false_eq_true, if_false, hrequired, hone,
      Truth.countMet_pos, reduceCtorEq, false_or]
    constructor
    · rintro ⟨q, hq, hmeets⟩
      obtain ⟨tag, htag, rfl⟩ := List.mem_map.mp hq
      exact ⟨tag, htag, post.meets_tag_iff.mp hmeets⟩
    · rintro ⟨tag, htag, hhas⟩
      exact ⟨_, List.mem_map.mpr ⟨tag, htag, rfl⟩, post.meets_tag_iff.mpr hhas⟩

/-- The query of a grouping is met by the posts with tags that it selects. -/
theorem meets_tags_iff (grouping : TagGrouping) :
    post.truth.meets grouping.query = true ↔ grouping.Selects (post.Has "tags") := by
  have hexcluded : ∀ tag, post.truth.meets (.term "tags" tag) = false ↔ ¬ post.Has "tags" tag := by
    intro tag
    rw [← post.meets_tag_iff, Bool.not_eq_true]
  unfold TagGrouping.query TagGrouping.Selects
  rw [Truth.meets_bool, required_tags_iff]
  simp only [List.forall_mem_map, meets_tag_iff, hexcluded, List.not_mem_nil, false_implies,
    implies_true, true_and]
  rw [← and_assoc]
  exact and_comm

end Post

/-- A grouping is collected as one query after all that was collected before; and a post meets
that query where it has one of the included tags, if there are any, all related ones and no
excluded one. -/
theorem Compiler.addTags_selects (c : Compiler) (clock : Clock) (grouping : TagGrouping) :
    (c.run clock (.addTags grouping false)).compiler =
      { c with must := c.must ++ [grouping.query] } ∧
    (c.run clock (.addTags grouping true)).compiler =
      { c with mustNot := c.mustNot ++ [grouping.query] } ∧
    (∀ post : Post, post.truth.meets grouping.query = true ↔ grouping.Selects (post.Has "tags")) ∧
    ∀ (post : Post) (tags : List String), post.values "tags" = tags.map .text →
      ∀ tag, post.Has "tags" (.text tag) ↔ tag ∈ tags := by
  refine ⟨?_, ?_, fun post => post.meets_tags_iff grouping, fun post tags htags tag => ?_⟩
  · show { c with must := c.must ++ [grouping.query], mustNot := c.mustNot ++ [] } = _
    rw [List.append_nil]
  · show { c with must := c.must ++ [], mustNot := c.mustNot ++ [grouping.query] } = _
    rw [List.append_nil]
  · exact Post.has_text htags

/-- A post about a cat and a dog. -/
def Post.ofPets : Post where
  values field := if field = "tags" then ["cat", "dog"].map .text else []
  across _ _ := none
  other _ := false
  share _ _ := 0

/-- A required tag that is there does not make up for an alternative that is not. -/
theorem Compiler.addTags_selects_pets :
    Post.ofPets.values "tags" = ["cat", "dog"].map .text ∧
    Post.ofPets.truth.meets (TagGrouping.query
      ⟨[.text "fox", .text "cat"], [.text "wolf"], [.text "dog", .text "dog"]⟩) = true ∧
    Post.ofPets.truth.meets (TagGrouping.query
      ⟨[.text "fox"], [], [.text "dog"]⟩) = false := by
  have hvalues : Post.ofPets.values "tags" = ["cat", "dog"].map .text := rfl
  have hselects := fun grouping =>
    Compiler.addTags_selects (.new .null .anonymous none) .leapDay grouping
  have hhas : ∀ tag, Post.ofPets.Has "tags" (.text tag) ↔ tag ∈ ["cat", "dog"] :=
    (hselects ⟨[], [], []⟩).2.2.2 Post.ofPets ["cat", "dog"] hvalues
  refine ⟨hvalues, ?_, ?_⟩
  · refine ((hselects _).2.2.1 Post.ofPets).mpr ⟨.inr ⟨.text "cat", by simp, ?_⟩, ?_, ?_⟩
    · simp [hhas]
    · simp [hhas]
    · simp [hhas]
  · rw [Bool.eq_false_iff]
    intro hmeets
    obtain ⟨hincluded, -⟩ := ((hselects _).2.2.1 Post.ofPets).mp hmeets
    simp [hhas] at hincluded

end BoardSearch
