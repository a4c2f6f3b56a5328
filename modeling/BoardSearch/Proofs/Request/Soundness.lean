import BoardSearch.Proofs.Relation.Comparison
import BoardSearch.Proofs.Request.Reading
import BoardSearch.Proofs.Request.Temporal
import BoardSearch.Proofs.Text.Numeral

/-!
# Requests of sound values

What a sound search is read as has sound values again, and so has all that the accessors take
from it and all that is compared with. An integer that a metatag begins with is short.

## Main definitions

* `Request.IsSound`: the values of a request are sound.

## Main statements

* `Request.isSound_of_read`: a sound search is read as a sound request;
* `Request.IsSound.supplies`: what a sound request supplies is sound;
* `Request.IsSound.isShort_integer`: an integer of a sound request is short.
-/

namespace BoardSearch

/-! ## Integers -/

namespace Text

/-- A numeral that a text begins with stands for a short integer. -/
theorem isShort_of_toInt {text : List Char} {numeral : Numeral} {n : Int}
    (hnumeral : Numeral.ofPrefix? text = some numeral) (h : numeral.toInt = .ok n) :
    Value.isShort n = true := by
  obtain ⟨l, rfl⟩ := Numeral.exists_leading_of_ofPrefix? hnumeral
  have habs : ∀ (sign : Sign) (m : Nat), (sign.apply m).natAbs = m := by
    intro sign m
    cases sign <;> simp [Sign.apply]
  unfold Numeral.toInt at h
  split at h
  · simp at h
  · split at h
    · simp at h
    · rename_i hlength
      rw [← Except.ok.inj h, Value.isShort, habs, decide_eq_true_eq]
      exact positional_lt le_nine_of_mem_filterMap (Nat.not_lt.mp hlength)

end Text

/-! ## Reading -/

namespace Value

theorem Sound.items? {value : Value} (h : value.Sound) {items : List Value}
    (hitems : value.items? = some items) : ∀ item ∈ items, item.Sound := by
  have htexts : ∀ chars : List Char, ∀ item ∈ chars.map fun c => Value.text c.toString,
      item.Sound := fun chars => List.forall_mem_map.mpr fun c _ => .text _
  cases h with
  | list h =>
    obtain rfl := Option.some.inj hitems
    exact h
  | text s =>
    obtain rfl := Option.some.inj hitems
    exact htexts s.toList
  | operator op =>
    obtain rfl := Option.some.inj hitems
    exact htexts op.text.toList
  | @record entries hnames h =>
    obtain rfl := Option.some.inj hitems
    rw [List.map_map]
    exact List.forall_mem_map.mpr fun entry _ => .text entry.1
  | _ => simp [Value.items?] at hitems

end Value

theorem Value.Sound.dayBegins {value : Value} (h : value.Sound) : value.dayBegins.Sound := by
  unfold Value.dayBegins
  split
  · exact .moment _
  · exact .moment _
  · exact h

theorem Value.Sound.dayEnds {value : Value} (h : value.Sound) : value.dayEnds.Sound := by
  unfold Value.dayEnds
  split
  · exact .moment _
  · exact .moment _
  · exact h

theorem TagGrouping.sound_of_group {value : Value} (h : value.Sound) {tags : List Value}
    (htags : group value = .ok tags) : ∀ tag ∈ tags, tag.Sound := by
  unfold group at htags
  split at htags
  · split at htags
    · rename_i items hitems
      obtain rfl := Except.ok.inj htags
      exact h.items? hitems
    · simp at htags
  · obtain rfl := Except.ok.inj htags
    exact List.forall_mem_nil _

namespace Request

theorem sound_of_readMetatag {value read : Value} (h : value.Sound)
    (hread : readMetatag value = .ok read) : read.Sound := by
  unfold readMetatag at hread
  split at hread
  · cases h
  · -- a mapping is a range condition, a grouping of tags, or stays as it is
    rename_i entries
    have hnamed : Value.AreNamed Value.Sound entries := Value.exists_record_of_sound h
    have hfound : ∀ name, ((Value.find? name entries).getD .null).Sound := by
      intro name
      cases hvalue : Value.find? name entries with
      | none => exact .null
      | some value => exact hnamed.of_find? hvalue
    split at hread
    · rename_i condition hcondition
      obtain rfl := Except.ok.inj hread
      unfold RangeCondition.ofEntries? at hcondition
      obtain ⟨operator, -, hcondition⟩ := Option.bind_eq_some_iff.mp hcondition
      obtain ⟨op, -, hcondition⟩ := Option.bind_eq_some_iff.mp hcondition
      obtain rfl := Option.some.inj hcondition
      exact .range op (hfound "value") (hfound "value2")
    · split at hread
      · obtain ⟨grouping, hgrouping, rfl⟩ := map_eq_ok.mp hread
        unfold TagGrouping.ofEntries at hgrouping
        obtain ⟨included, hincluded, hgrouping⟩ := bind_eq_ok.mp hgrouping
        obtain ⟨excluded, hexcluded, hgrouping⟩ := bind_eq_ok.mp hgrouping
        obtain ⟨related, hrelated, hgrouping⟩ := bind_eq_ok.mp hgrouping
        obtain rfl := Except.ok.inj hgrouping
        exact .tags (TagGrouping.sound_of_group (hfound "include") hincluded)
          (TagGrouping.sound_of_group (hfound "exclude") hexcluded)
          (TagGrouping.sound_of_group (hfound "related") hrelated)
      · obtain rfl := Except.ok.inj hread
        exact h
  · obtain rfl := Except.ok.inj hread
    exact h

/-- The values of the request are sound. -/
def IsSound (request : Request) : Prop := ∀ metatag ∈ request.metatags, metatag.2.Sound

/-- A mapping of sound values is read as a sound request. -/
theorem isSound_of_read {entries : List (String × Value)} {request : Request}
    (h : ∀ entry ∈ entries, entry.2.Sound) (hread : ofValue (.record entries) = .ok request) :
    request.IsSound := by
  intro metatag hmem
  obtain ⟨entry, hentry, hmetatag⟩ := exists_of_mem_read hread hmem
  exact sound_of_readMetatag (h entry hentry) hmetatag

namespace IsSound

/-! ## What the accessors give -/

variable {request : Request} (h : request.IsSound)

include h

theorem get? {name : String} {value : Value} (hvalue : request.get? name = some value) :
    value.Sound :=
  h (name, value) (Keyed.mem_of_find? hvalue)

theorem scalar? {name : String} {value : Value} (hvalue : request.scalar? name = some value) :
    value.Sound := by
  obtain ⟨metatag, hmetatag, hscalar⟩ := Option.bind_eq_some_iff.mp hvalue
  exact scalarOf?_eq_some hscalar ▸ h.get? hmetatag

theorem values {name : String} : ∀ value ∈ request.values name, value.Sound := by
  unfold Request.values values?
  cases hmetatag : request.get? name with
  | none => simp
  | some metatag =>
    have hsound := h.get? hmetatag
    cases hsound with
    | list h => exact h
    | _ => simp [valuesOf?, Value.record]

theorem compared {name : String} {condition : RangeCondition}
    (hcondition : request.range? name = some condition) :
    ∀ value ∈ condition.compared, value.Sound := by
  obtain ⟨metatag, hmetatag, hrange⟩ := Option.bind_eq_some_iff.mp hcondition
  have hsound := h.get? hmetatag
  cases hsound with
  | @range op bound upper hbound hupper =>
    obtain rfl := Option.some.inj hrange
    unfold RangeCondition.compared
    split
    · exact List.forall_mem_nil _
    · cases op with
      | eq =>
        dsimp only
        split
        · exact List.forall_mem_cons.mpr
            ⟨hbound.dayBegins, List.forall_mem_singleton.mpr hbound.dayEnds⟩
        · exact List.forall_mem_singleton.mpr hbound
      | gt | gte | lt | lte => exact List.forall_mem_singleton.mpr hbound
      | oneOf =>
        cases hbound with
        | list h => exact h
        | _ => simp [Value.members?, Value.record]
      | between => exact List.forall_mem_cons.mpr ⟨hbound, List.forall_mem_singleton.mpr hupper⟩
  | _ => simp [RangeCondition.ofValue?, Value.record] at hrange

theorem tags {name : String} {grouping : TagGrouping}
    (hgrouping : request.tags? name = some grouping) :
    ∀ value ∈ grouping.included ++ grouping.related ++ grouping.excluded, value.Sound := by
  obtain ⟨metatag, hmetatag, htags⟩ := Option.bind_eq_some_iff.mp hgrouping
  have hsound := h.get? hmetatag
  cases hsound with
  | tags hincluded hexcluded hrelated =>
    obtain rfl := Option.some.inj htags
    exact List.forall_mem_append.mpr
      ⟨List.forall_mem_append.mpr ⟨hincluded, hrelated⟩, hexcluded⟩
  | _ => simp [TagGrouping.ofValue?, Value.record] at htags

theorem supplies : request.Supplies Value.Sound where
  members _ _ := h.values
  bounds _ _ _ := h.compared
  flags _ _ _ := h.get?
  tags _ := h.tags

theorem isShort_integer {name : String} {n : Int} (hn : request.integer name 0 = .ok n) :
    Value.isShort n = true := by
  have hzero : Value.isShort 0 = true := by decide +kernel
  have hone : Value.isShort 1 = true := by decide +kernel
  obtain ⟨value?, hvalue, rfl⟩ := map_eq_ok.mp hn
  unfold integer? at hvalue
  split at hvalue
  · obtain rfl := Except.ok.inj hvalue
    exact hzero
  · rename_i scalar hscalar
    have hsound := h.scalar? hscalar
    unfold integerOf? at hvalue
    split at hvalue
    · rename_i b
      obtain rfl := Except.ok.inj hvalue
      cases b with
      | true => exact hone
      | false => exact hzero
    · obtain rfl := Except.ok.inj hvalue
      cases hsound with
      | int h => exact h
    · obtain ⟨text, -, hvalue⟩ := bind_eq_ok.mp hvalue
      split at hvalue
      · obtain rfl := Except.ok.inj hvalue
        exact hzero
      · rename_i numeral hnumeral
        cases hread : numeral.toInt with
        | error reason => simp [hread, Except.map, Except.mapError] at hvalue
        | ok m =>
          rw [hread] at hvalue
          obtain rfl := Except.ok.inj hvalue
          exact Text.isShort_of_toInt hnumeral hread

end IsSound

end Request

end BoardSearch
