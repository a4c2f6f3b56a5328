import BoardSearch.Proofs.Json.Reading
import BoardSearch.Proofs.Number.Shortest

/-!
# Documents that reading can give

A document that was read has short integers, canonical numbers and no two members of the
same name in an object. Reading such a document again changes nothing in it.

## Main definitions

* `Json.Sound`: a document that reading can give;
* `Json.isFinite`: all numbers in a document are finite.

## Main statements

* `Json.isSound_of_spells`: what is read of a JSON text is sound;
* `Json.Sound.merged`: a sound document is read as it is.
-/

namespace BoardSearch

namespace Json

/-! ## Documents that reading can give -/

/-- A document that reading can give: its integers are short, its numbers of the binary64
format are canonical, and the members of an object have different names. -/
inductive Sound : Json → Prop where
  | null : Sound .null
  | bool (b : Bool) : Sound (.bool b)
  | int {n : Int} (h : Value.isShort n = true) : Sound (.int n)
  | float {x : Binary64} (h : x.IsCanonical) : Sound (.float x)
  | text (s : String) : Sound (.text s)
  | array {items : List Json} (h : ∀ item ∈ items, Sound item) : Sound (.array items)
  | object {members : List (String × Json)} (hnames : (members.map (·.1)).Nodup)
      (h : ∀ member ∈ members, Sound member.2) : Sound (.object members)

mutual

/-- All numbers in a document are finite. -/
def isFinite : Json → Bool
  | .float x => x.isFinite
  | .array items => itemsAreFinite items
  | .object members => membersAreFinite members
  | _ => true
termination_by structural document => document

/-- All numbers in the items of an array are finite. -/
def itemsAreFinite : List Json → Bool
  | [] => true
  | item :: rest => isFinite item && itemsAreFinite rest
termination_by structural items => items

/-- All numbers in the members of an object are finite. -/
def membersAreFinite : List (String × Json) → Bool
  | [] => true
  | (_, document) :: rest => isFinite document && membersAreFinite rest
termination_by structural members => members

end

theorem itemsAreFinite_eq (items : List Json) : itemsAreFinite items = items.all isFinite := by
  induction items with
  | nil => rfl
  | cons item items ih => simp [itemsAreFinite, ih]

theorem membersAreFinite_eq (members : List (String × Json)) :
    membersAreFinite members = members.all fun member => member.2.isFinite := by
  induction members with
  | nil => rfl
  | cons member members ih => simp [membersAreFinite, ih]

theorem itemsAreShort_eq (items : List Json) : itemsAreShort items = items.all isShort := by
  induction items with
  | nil => rfl
  | cons item items ih => simp [itemsAreShort, ih]

theorem membersAreShort_eq (members : List (String × Json)) :
    membersAreShort members = members.all fun member => member.2.isShort := by
  induction members with
  | nil => rfl
  | cons member members ih => simp [membersAreShort, ih]

theorem mergedItems_eq (items : List Json) : mergedItems items = items.map merged := by
  induction items with
  | nil => rfl
  | cons item items ih => simp [mergedItems, ih]

theorem mergedMembers_eq (members : List (String × Json)) :
    mergedMembers members = members.map fun member => (member.1, member.2.merged) := by
  induction members with
  | nil => rfl
  | cons member members ih => simp [mergedMembers, ih]

theorem Sound.isShort {document : Json} (h : document.Sound) : document.isShort = true := by
  induction h with
  | null | bool | float | text => rfl
  | int h => exact h
  | array _ ih => rwa [Json.isShort, itemsAreShort_eq, List.all_eq_true]
  | object _ _ ih => rwa [Json.isShort, membersAreShort_eq, List.all_eq_true]

theorem Sound.merged {document : Json} (h : document.Sound) : document.merged = document := by
  induction h with
  | null | bool | int | float | text => rfl
  | array _ ih => rw [Json.merged, mergedItems_eq, List.map_congr_left ih, List.map_id']
  | @object members hnames _ ih =>
    have hsame : ∀ member ∈ members, (member.1, member.2.merged) = member := by
      intro member hmember
      rw [ih member hmember]
    rw [Json.merged, mergedMembers_eq, List.map_congr_left hsame, List.map_id',
      Keyed.ofEntries_of_nodup hnames]

/-! ## What is read -/

theorem Number.isSound (number : Number) :
    number.document.isShort = true → number.document.merged.Sound := by
  unfold document
  split
  · exact .int
  · exact fun _ => .float (Binary64.canonical_ofDecimal ..)

/-- What is read of a phrase is sound. -/
def Phrase.IsSound : Phrase → Prop
  | .document d | .element d => d.isShort = true → d.merged.Sound
  | .items ds => ∀ d ∈ ds, d.isShort = true → d.merged.Sound
  | .members ms => ∀ m ∈ ms, m.2.isShort = true → m.2.merged.Sound

theorem isSound_of_spells {text rest : List Char} {phrase : Phrase}
    (h : Spells text phrase rest) : phrase.IsSound := by
  induction h with
  | null => exact fun _ => .null
  | true => exact fun _ => .bool true
  | false => exact fun _ => .bool false
  | number number => exact number.isSound
  | text => exact fun _ => .text _
  | emptyArray => exact fun _ => .array (List.forall_mem_nil _)
  | array _ ih =>
    intro hshort
    rw [isShort, itemsAreShort_eq, List.all_eq_true] at hshort
    rw [merged, mergedItems_eq]
    refine .array (List.forall_mem_map.mpr fun item hitem => ?_)
    exact ih item hitem (hshort item hitem)
  | emptyObject => exact fun _ => .object List.nodup_nil (List.forall_mem_nil _)
  | object _ ih =>
    intro hshort
    rw [isShort, membersAreShort_eq, List.all_eq_true] at hshort
    rw [merged, mergedMembers_eq]
    refine .object (Keyed.nodup_ofEntries _) fun member hmember => ?_
    obtain ⟨entry, hentry, rfl⟩ := List.mem_map.mp (Keyed.mem_of_mem_ofEntries hmember)
    exact ih entry hentry (hshort entry hentry)
  | element _ _ _ ih => exact ih
  | lastItem _ ih => exact List.forall_mem_singleton.mpr ih
  | item _ _ ih ihmore => exact List.forall_mem_cons.mpr ⟨ih, ihmore⟩
  | lastMember _ _ _ _ ih => exact List.forall_mem_singleton.mpr ih
  | member _ _ _ _ _ ih ihmore => exact List.forall_mem_cons.mpr ⟨ih, ihmore⟩

end Json

end BoardSearch
