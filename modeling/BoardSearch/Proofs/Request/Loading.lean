import BoardSearch.Proofs.Calendar.Disjoint
import BoardSearch.Proofs.Json.Reading
import BoardSearch.Proofs.Request.Changing

/-!
# Loading metatags of a JSON object

A bound of a temporal metatag that is a text is replaced by the moment that the text denotes.
Everything else in the object stays, in the same order, and loading what was loaded changes
nothing. Where a bound denotes no moment, nothing is loaded.

## Main definitions

* `Json.entries`: the entries of a JSON object;
* `Temporal.LoadsBound`, `Temporal.LoadsMetatag`: what becomes of the entries of a condition, and
  of those of a search;
* `Temporal.IsUnreadable`: a text is a bound, and denotes no moment.

## Main statements

* `Temporal.readCondition_cases`, `Temporal.withMoments_cases`: a condition and a search are loaded
  once and for all, or a bound denotes nothing;
* `Temporal.withMoments_loads`: what the metatags of a JSON object come to.
-/

namespace BoardSearch

theorem exists_of_forall₂ {α β : Type} {related : α → β → Prop} {first : List α} {second : List β}
    (h : List.Forall₂ related first second) {a : α} (hmem : a ∈ first) : ∃ b, related a b := by
  induction h with
  | nil => exact absurd hmem List.not_mem_nil
  | cons hhead _ ih =>
    obtain rfl | hmem := List.mem_cons.mp hmem
    · exact ⟨_, hhead⟩
    · exact ih hmem

/-! ## Objects -/

namespace Json

/-- The entries of an object with the given members. Of several members of one name the last one
counts, in the place of the first. -/
def entries (members : List (String × Json)) : List (Value × Value) :=
  memberValues (Keyed.ofEntries (mergedMembers members))

theorem toValue_object (members : List (String × Json)) :
    (Json.object members).merged.toValue = .mapping (entries members) := rfl

/-- The value is what a document stands for. -/
def IsValue (value : Value) : Prop := ∃ document : Json, document.merged.toValue = value

theorem areNamed_entries (members : List (String × Json)) :
    Value.AreNamed IsValue (entries members) := by
  refine ⟨_, memberValues_eq _, ?_, List.forall_mem_map.mpr ?_⟩
  · rw [List.map_map]
    exact Keyed.nodup_ofEntries (mergedMembers members)
  · intro member hmember
    have hmerged := Keyed.mem_of_mem_ofEntries hmember
    rw [mergedMembers_eq] at hmerged
    obtain ⟨⟨name, document⟩, _, rfl⟩ := List.mem_map.mp hmerged
    exact ⟨document, rfl⟩

theorem IsValue.areNamed {condition : List (Value × Value)} (h : IsValue (.mapping condition)) :
    Value.AreNamed IsValue condition := by
  obtain ⟨document, hdocument⟩ := h
  cases document with
  | object members =>
    rw [toValue_object] at hdocument
    rw [← Value.mapping.inj hdocument]
    exact areNamed_entries members
  | vacated =>
    obtain rfl : [] = condition := Value.mapping.inj hdocument
    exact ⟨[], rfl, List.nodup_nil, List.forall_mem_nil _⟩
  | _ => exact absurd hdocument nofun

/-- A text of an object is a text by itself. -/
theorem IsValue.asText?_eq_some {value : Value} (h : IsValue value) {text : String} :
    value.asText? = some text ↔ value = .text text := by
  obtain ⟨document, rfl⟩ := h
  cases document <;> simp [merged, toValue, Value.asText?]

end Json

/-- A moment that is read is one of UTC. -/
theorem Layout.exists_utc_of_readMoment {layout text : String} {moment : Moment}
    (h : readMoment layout text = .ok moment) : ∃ date time, moment = ⟨date, time, .utc⟩ := by
  obtain ⟨pieces, _, h⟩ := bind_eq_ok.mp h
  split at h
  · exact absurd h nofun
  · exact absurd h nofun
  · split at h
    · exact absurd h nofun
    · obtain ⟨date, _, h⟩ := bind_eq_ok.mp h
      split at h
      · next time _ => exact ⟨date, time, (Except.ok.inj h).symm⟩
      · exact absurd h nofun

namespace Temporal

open Layout (Accepts searchLayouts)

/-! ## Bounds and conditions -/

/-- A text as the moment that it denotes. Other values stay. -/
def momentOf (value : Value) : Except Failure Value :=
  match value.asText? with
  | some text => (readMoment text).map .moment
  | none => .ok value

/-- A condition with moments for its bounds. Other values stay. -/
def conditionOf : Value → Except Failure Value
  | .mapping condition => (readCondition condition).map .mapping
  | value => .ok value

theorem changesWith_readBound : ChangesWith readBound momentOf := by
  intro named bound
  rw [readBound, Value.entriesOf, Value.find?_record, changeAt]
  cases hfound : Keyed.find? bound named with
  | none => rfl
  | some value =>
    show _ = ((momentOf value).map fun value' => Keyed.put bound value' named).map Value.entriesOf
    rw [Option.bind_some, momentOf]
    cases value.asText? with
    | none =>
      show _ = Except.ok (Value.entriesOf (Keyed.put bound value named))
      rw [Keyed.put_of_find? hfound]
      rfl
    | some text =>
      dsimp only
      cases readMoment text with
      | error failure => rfl
      | ok moment => exact congrArg Except.ok (Value.put_record bound (.moment moment) named)

theorem changesWith_readMetatag : ChangesWith readMetatag conditionOf := by
  intro named name
  rw [readMetatag, Value.entriesOf, Value.find?_record, changeAt]
  cases hfound : Keyed.find? name named with
  | none => rfl
  | some value =>
    show _ = ((conditionOf value).map fun value' => Keyed.put name value' named).map
      Value.entriesOf
    cases value with
    | mapping condition =>
      rw [conditionOf]
      dsimp only
      cases readCondition condition with
      | error failure => rfl
      | ok condition' =>
        exact congrArg Except.ok (Value.put_record name (.mapping condition') named)
    | _ =>
      show _ = Except.ok (Value.entriesOf (Keyed.put name _ named))
      rw [Keyed.put_of_find? hfound]
      rfl

/-- A text denotes no moment under any layout of searches. -/
def DenotesNothing (text : String) : Prop := ∀ layout ∈ searchLayouts, ¬Accepts layout text

/-- What becomes of the entries of a condition. A bound that is a text is replaced by the moment
that it denotes, in UTC. -/
inductive LoadsBound : Value × Value → Value × Value → Prop
  | read {bound layout text : String} {date : Date} {time : TimeOfDay} (hbound : bound ∈ bounds)
      (hlayout : layout ∈ searchLayouts)
      (h : Layout.readMoment layout text = .ok ⟨date, time, .utc⟩) :
      LoadsBound (.text bound, .text text) (.text bound, .moment ⟨date, time, .utc⟩)
  | kept {entry : Value × Value}
      (h : ∀ bound ∈ bounds, ∀ text, entry ≠ (.text bound, .text text)) : LoadsBound entry entry

/-- What becomes of the entries of a search. Its temporal metatags are loaded if they are
mappings. -/
inductive LoadsMetatag : Value × Value → Value × Value → Prop
  | read {name : String} {condition condition' : List (Value × Value)} (hname : name ∈ metatags)
      (h : List.Forall₂ LoadsBound condition condition') :
      LoadsMetatag (.text name, .mapping condition) (.text name, .mapping condition')
  | kept {entry : Value × Value}
      (h : ∀ name ∈ metatags, ∀ condition, entry ≠ (.text name, .mapping condition)) :
      LoadsMetatag entry entry

theorem readMoment_eq_error_iff {text : String} {failure : Failure} :
    readMoment text = .error failure ↔ failure = .unreadableTime text ∧ DenotesNothing text := by
  rw [← readMomentUnder_searchLayouts]
  exact readMomentUnder_eq_error_iff (List.Subset.refl searchLayouts)

/-- A moment that is read is one of UTC, under a layout of searches. -/
theorem exists_of_readMoment {text : String} {moment : Moment}
    (h : readMoment text = .ok moment) :
    ∃ layout ∈ searchLayouts, ∃ date time, moment = ⟨date, time, .utc⟩ ∧
      Layout.readMoment layout text = .ok ⟨date, time, .utc⟩ := by
  rw [← readMomentUnder_searchLayouts] at h
  obtain ⟨layout, hlayout, hread⟩ :=
    (readMomentUnder_eq_ok_iff (List.Subset.refl searchLayouts)).mp h
  obtain ⟨date, time, rfl⟩ := Layout.exists_utc_of_readMoment hread
  exact ⟨layout, hlayout, date, time, rfl, hread⟩

theorem loadsBound_of_changed {entry entry' : String × Value} (hvalue : Json.IsValue entry.2)
    (h : Changed momentOf bounds entry entry') :
    LoadsBound (.text entry.1, entry.2) (.text entry'.1, entry'.2) := by
  obtain ⟨name, value⟩ := entry
  obtain ⟨name', value'⟩ := entry'
  obtain ⟨rfl, hchange⟩ := h
  dsimp only at hvalue hchange ⊢
  by_cases hname : name' ∈ bounds
  · rw [if_pos hname, momentOf] at hchange
    cases htext : value.asText? with
    | some text =>
      rw [htext] at hchange
      obtain ⟨moment, hmoment, rfl⟩ := map_eq_ok.mp hchange
      obtain ⟨layout, hlayout, date, time, rfl, hread⟩ := exists_of_readMoment hmoment
      rw [hvalue.asText?_eq_some.mp htext]
      exact .read hname hlayout hread
    | none =>
      rw [htext] at hchange
      rw [← Except.ok.inj hchange]
      refine .kept fun bound _ text heq => ?_
      rw [(Prod.mk.inj heq).2] at htext
      exact absurd htext nofun
  · rw [if_neg hname] at hchange
    rw [hchange]
    refine .kept fun bound hbound text heq => hname ?_
    rw [Value.text.inj (Prod.mk.inj heq).1]
    exact hbound

theorem momentOf_again {value value' : Value} (h : momentOf value = .ok value') :
    momentOf value' = .ok value' := by
  unfold momentOf at h
  split at h
  · obtain ⟨moment, _, rfl⟩ := map_eq_ok.mp h
    rfl
  · next htext =>
    rw [← Except.ok.inj h, momentOf, htext]

/-- A condition is loaded, and stays as it is when it is loaded again, or one of its bounds denotes
nothing. -/
theorem readCondition_cases {condition : List (Value × Value)}
    (h : Value.AreNamed Json.IsValue condition) :
    (∃ condition', readCondition condition = .ok condition' ∧
      List.Forall₂ LoadsBound condition condition' ∧
      readCondition condition' = .ok condition') ∨
    ∃ text, readCondition condition = .error (.unreadableTime text) ∧
      (∃ bound ∈ bounds, (.text bound, .text text) ∈ condition) ∧ DenotesNothing text := by
  obtain hloaded | ⟨failure, hfails, bound, hbound, value, hmem, hvalue, hmoment⟩ :=
    changesWith_readBound.cases (by decide) h (fun _ _ => loadsBound_of_changed)
      (fun _ _ _ => momentOf_again)
  · exact .inl hloaded
  · right
    unfold momentOf at hmoment
    split at hmoment
    · next text htext =>
      obtain ⟨rfl, hnothing⟩ := readMoment_eq_error_iff.mp (map_eq_error.mp hmoment)
      rw [hvalue.asText?_eq_some.mp htext] at hmem
      exact ⟨text, hfails, ⟨bound, hbound, hmem⟩, hnothing⟩
    · exact absurd hmoment nofun

theorem conditionOf_eq_ok {value value' : Value} (hvalue : Json.IsValue value)
    (h : conditionOf value = .ok value') :
    (∃ condition condition', value = .mapping condition ∧ value' = .mapping condition' ∧
      List.Forall₂ LoadsBound condition condition' ∧
      readCondition condition' = .ok condition') ∨
    value' = value ∧ ∀ condition, value ≠ .mapping condition := by
  cases value with
  | mapping condition =>
    obtain ⟨condition', hread, rfl⟩ := map_eq_ok.mp h
    obtain ⟨loaded, hloaded, hbounds, hagain⟩ | ⟨text, hfails, -⟩ :=
      readCondition_cases hvalue.areNamed
    · obtain rfl := Except.ok.inj (hread.symm.trans hloaded)
      exact .inl ⟨condition, condition', rfl, rfl, hbounds, hagain⟩
    · exact absurd (hread.symm.trans hfails) nofun
  | _ => exact .inr ⟨(Except.ok.inj h).symm, nofun⟩

theorem loadsMetatag_of_changed {entry entry' : String × Value} (hvalue : Json.IsValue entry.2)
    (h : Changed conditionOf metatags entry entry') :
    LoadsMetatag (.text entry.1, entry.2) (.text entry'.1, entry'.2) := by
  obtain ⟨name, value⟩ := entry
  obtain ⟨name', value'⟩ := entry'
  obtain ⟨rfl, hchange⟩ := h
  dsimp only at hvalue hchange ⊢
  by_cases hname : name' ∈ metatags
  · rw [if_pos hname] at hchange
    obtain ⟨condition, condition', rfl, rfl, hbounds, -⟩ | ⟨rfl, hother⟩ :=
      conditionOf_eq_ok hvalue hchange
    · exact .read hname hbounds
    · exact .kept fun name _ condition heq => hother condition (Prod.mk.inj heq).2
  · rw [if_neg hname] at hchange
    rw [hchange]
    refine .kept fun name hmetatag condition heq => hname ?_
    rw [Value.text.inj (Prod.mk.inj heq).1]
    exact hmetatag

theorem conditionOf_again {value value' : Value} (hvalue : Json.IsValue value)
    (h : conditionOf value = .ok value') : conditionOf value' = .ok value' := by
  obtain ⟨condition, condition', rfl, rfl, -, hagain⟩ | ⟨rfl, -⟩ := conditionOf_eq_ok hvalue h
  · rw [conditionOf, hagain]
    rfl
  · exact h

/-- The text is a bound of a temporal metatag, and denotes no moment. -/
def IsUnreadable (entries : List (Value × Value)) (text : String) : Prop :=
  (∃ name ∈ metatags, ∃ condition, (.text name, .mapping condition) ∈ entries ∧
    ∃ bound ∈ bounds, (.text bound, .text text) ∈ condition) ∧ DenotesNothing text

/-- The metatags of an object are loaded, and stay as they are when they are loaded again, or a
bound denotes nothing. -/
theorem withMoments_cases (members : List (String × Json)) :
    (∃ entries', withMoments (Json.entries members) = .ok entries' ∧
      List.Forall₂ LoadsMetatag (Json.entries members) entries' ∧
      withMoments entries' = .ok entries') ∨
    ∃ text, withMoments (Json.entries members) = .error (.unreadableTime text) ∧
      IsUnreadable (Json.entries members) text := by
  obtain hloaded | ⟨failure, hfails, name, hname, value, hmem, hvalue, hcondition⟩ :=
    changesWith_readMetatag.cases (by decide) (Json.areNamed_entries members)
      (fun _ _ => loadsMetatag_of_changed) (fun _ _ => conditionOf_again)
  · exact .inl hloaded
  · right
    cases value with
    | mapping condition =>
      have hread := map_eq_error.mp hcondition
      obtain ⟨loaded, hloaded, -⟩ | ⟨text, hunread, hbound, hnothing⟩ :=
        readCondition_cases hvalue.areNamed
      · exact absurd (hread.symm.trans hloaded) nofun
      · obtain rfl := Except.error.inj (hread.symm.trans hunread)
        exact ⟨text, hfails, ⟨name, hname, condition, hmem, hbound⟩, hnothing⟩
    | _ => exact absurd hcondition nofun

/-- Where metatags are loaded, every bound that is a text denotes a moment. -/
theorem not_isUnreadable_of_loads {entries entries' : List (Value × Value)}
    (h : List.Forall₂ LoadsMetatag entries entries') (text : String) :
    ¬IsUnreadable entries text := by
  rintro ⟨⟨name, hname, condition, hmem, bound, hbound, hmem'⟩, hnothing⟩
  obtain ⟨_, hloads⟩ := exists_of_forall₂ h hmem
  cases hloads with
  | kept hother => exact hother name hname condition rfl
  | read _ hconditions =>
    obtain ⟨_, hloads⟩ := exists_of_forall₂ hconditions hmem'
    cases hloads with
    | kept hother => exact hother bound hbound text rfl
    | read _ hlayout hread => exact hnothing _ hlayout ⟨_, hread⟩

/-- Metatags of a JSON object are loaded, unless a bound of a temporal metatag is a text that
denotes no moment under any layout. The entries keep their keys and their order, and only such
bounds are replaced, by the moments that they denote. Loading them again changes nothing. -/
theorem withMoments_loads (members : List (String × Json)) :
    let entries := Json.entries members
    ((∃ failure, withMoments entries = .error failure ∧ failure.kind = "PostSearchValueError") ↔
      ∃ text, IsUnreadable entries text) ∧
    (∀ failure, withMoments entries = .error failure →
      ∃ text, failure = .unreadableTime text ∧ IsUnreadable entries text) ∧
    ((∀ text, ¬IsUnreadable entries text) → ∃ entries', withMoments entries = .ok entries' ∧
      List.Forall₂ LoadsMetatag entries entries' ∧ withMoments entries' = .ok entries') := by
  intro entries
  obtain ⟨entries', hok, hloads, hagain⟩ | ⟨text, herror, hunreadable⟩ := withMoments_cases members
  · have hnone := not_isUnreadable_of_loads hloads
    have hnot : ∀ failure, withMoments entries ≠ .error failure := by
      intro failure hfails
      exact absurd (hok.symm.trans hfails) nofun
    refine ⟨iff_of_false ?_ ?_, fun failure hfails => absurd hfails (hnot failure), fun _ => ?_⟩
    · exact fun ⟨failure, hfails, _⟩ => hnot failure hfails
    · exact fun ⟨text, hunreadable⟩ => hnone text hunreadable
    · exact ⟨entries', hok, hloads, hagain⟩
  · refine ⟨iff_of_true ⟨_, herror, rfl⟩ ⟨text, hunreadable⟩, ?_, fun hnone => ?_⟩
    · intro failure hfails
      exact ⟨text, Except.error.inj (hfails.symm.trans herror), hunreadable⟩
    · exact absurd hunreadable (hnone text)

/-- A condition with a bound, beside a text in place of a condition. -/
theorem withMoments_loads_age :
    let entries := Json.entries [("age", .object [("operator", .text "lt"),
      ("value", .text "20200115")]), ("date", .text "not a range")]
    ∃ entries', withMoments entries = .ok entries' ∧
      List.Forall₂ LoadsMetatag entries entries' ∧ withMoments entries' = .ok entries' := by
  intro entries
  obtain ⟨hfails, -, hloads⟩ := withMoments_loads [("age", .object [("operator", .text "lt"),
    ("value", .text "20200115")]), ("date", .text "not a range")]
  refine hloads fun text hunreadable => ?_
  obtain ⟨failure, hfailure, -⟩ := hfails.mpr ⟨text, hunreadable⟩
  have hread : (withMoments entries).toBool = true := by decide +kernel
  rw [hfailure] at hread
  exact absurd hread nofun

end Temporal

end BoardSearch
