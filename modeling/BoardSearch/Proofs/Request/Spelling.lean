import Mathlib.Data.List.Forall2
import BoardSearch.Proofs.Request.Breaking

/-!
# Spellings of range conditions and of groupings

A range condition can be written as a tuple, as a mapping or as itself, and a grouping of
tags as a mapping or as itself. The reading of a request puts what is spelled in place of
each spelling. So a request that was read has nothing left to replace, and nothing is seen
in it of how its conditions and groupings were spelled.

## Main definitions

* `RangeCondition.SpelledAs`: the ways to write a range condition;
* `TagGrouping.SpelledAs`: the ways to write a grouping of tags;
* `Value.SpelledAlike`: two ways to write one condition, one grouping, or one value.

## Main statements

* `Request.readMetatag_of_condition`, `Request.readMetatag_of_grouping`: each spelling is
  read as what it spells;
* `Request.readMetatag_of_read`: what a value was read as is read as itself;
* `Request.ofValue_normalises`: a request that was read is read as itself, and mappings of
  which the values are spelled alike are read as one request.
-/

namespace BoardSearch

/-- The ways to write a range condition. -/
inductive RangeCondition.SpelledAs (condition : RangeCondition) : Value → Prop where
  | itself : condition.SpelledAs condition.toValue
  /-- An operator and up to two bounds. A bound that is missing is absent, and what follows
  the bounds is ignored. -/
  | tuple {operator : Value} {bounds : List Value}
      (hoperator : operator.asOperator? = some condition.operator)
      (hbound : bounds[0]?.getD .null = condition.bound)
      (hupper : bounds[1]?.getD .null = condition.upper) :
      condition.SpelledAs (.tuple (operator :: bounds))
  /-- An operator and up to two bounds under their names. Other keys are ignored. -/
  | mapping {entries : List (Value × Value)} {operator : Value}
      (hentry : Value.find? "operator" entries = some operator)
      (hoperator : operator.asOperator? = some condition.operator)
      (hbound : (Value.find? "value" entries).getD .null = condition.bound)
      (hupper : (Value.find? "value2" entries).getD .null = condition.upper) :
      condition.SpelledAs (.mapping entries)

namespace TagGrouping

/-- The ways to write the tags of a group. -/
inductive GroupSpelledAs (tags : List Value) : Value → Prop where
  | list : GroupSpelledAs tags (.list tags)
  | tuple : GroupSpelledAs tags (.tuple tags)
  /-- No tags: the absent value, and all else that counts as false. -/
  | empty {value : Value} (htags : tags = []) (hvalue : value.truthy = false) :
      GroupSpelledAs tags value

/-- The ways to write a grouping of tags. -/
inductive SpelledAs (grouping : TagGrouping) : Value → Prop where
  | itself : grouping.SpelledAs grouping.toValue
  /-- Groups under their names, at least one. A group that is missing is absent. -/
  | mapping {entries : List (Value × Value)} (hsome : entries ≠ [])
      (hnames : ∀ entry ∈ entries, ∃ name ∈ groupNames, entry.1.asText? = some name)
      (hincluded : GroupSpelledAs grouping.included
        ((Value.find? "include" entries).getD .null))
      (hexcluded : GroupSpelledAs grouping.excluded
        ((Value.find? "exclude" entries).getD .null))
      (hrelated : GroupSpelledAs grouping.related
        ((Value.find? "related" entries).getD .null)) :
      grouping.SpelledAs (.mapping entries)

end TagGrouping

/-- Two values are the same, or they are two ways to write one condition or one grouping. -/
inductive Value.SpelledAlike : Value → Value → Prop where
  | same (value : Value) : SpelledAlike value value
  | condition {condition : RangeCondition} {value value' : Value}
      (h : condition.SpelledAs value) (h' : condition.SpelledAs value') :
      SpelledAlike value value'
  | grouping {grouping : TagGrouping} {value value' : Value}
      (h : grouping.SpelledAs value) (h' : grouping.SpelledAs value') :
      SpelledAlike value value'

namespace TagGrouping

theorem group_of_spelledAs {tags : List Value} {value : Value} (h : GroupSpelledAs tags value) :
    group value = .ok tags := by
  cases h with
  | list | tuple => cases tags <;> rfl
  | empty htags hvalue => rw [group, hvalue, htags]; rfl

/-- Entries under the names of groups spell a grouping. -/
theorem spelledBy_of_names {entries : List (Value × Value)} (hsome : entries ≠ [])
    (hnames : ∀ entry ∈ entries, ∃ name ∈ groupNames, entry.1.asText? = some name) :
    spelledBy entries = true := by
  have hall : entries.all (fun entry => isGroupName entry.1) = true := by
    refine List.all_eq_true.mpr fun entry hentry => ?_
    obtain ⟨name, hname, htext⟩ := hnames entry hentry
    exact List.any_eq_true.mpr ⟨name, hname, by simp [Value.isText, htext]⟩
  simp [spelledBy, hsome, hall]

end TagGrouping

namespace Request

/-! ## Values -/

/-- Every spelling of a range condition is read as the condition. -/
theorem readMetatag_of_condition {condition : RangeCondition} {value : Value}
    (h : condition.SpelledAs value) : readMetatag value = .ok condition.toValue := by
  cases h with
  | itself => rfl
  | @tuple operator bounds hoperator hbound hupper =>
    have hcondition : RangeCondition.ofTuple? (operator :: bounds) = some condition := by
      rw [RangeCondition.ofTuple?, hoperator, List.head?_eq_getElem?, List.head?_drop, hbound,
        hupper]
      rfl
    rw [readMetatag, hcondition]
    rfl
  | @mapping entries operator hentry hoperator hbound hupper =>
    have hcondition : RangeCondition.ofEntries? entries = some condition := by
      simp [RangeCondition.ofEntries?, hentry, hoperator, hbound, hupper]
    rw [readMetatag, hcondition]

/-- Every spelling of a grouping is read as the grouping. -/
theorem readMetatag_of_grouping {grouping : TagGrouping} {value : Value}
    (h : grouping.SpelledAs value) : readMetatag value = .ok grouping.toValue := by
  cases h with
  | itself => rfl
  | @mapping entries hsome hnames hincluded hexcluded hrelated =>
    have hspelled := TagGrouping.spelledBy_of_names hsome hnames
    have hgrouping : TagGrouping.ofEntries entries = .ok grouping := by
      simp only [TagGrouping.ofEntries, TagGrouping.groupOf,
        TagGrouping.group_of_spelledAs hincluded, TagGrouping.group_of_spelledAs hexcluded,
        TagGrouping.group_of_spelledAs hrelated]
      rfl
    simp only [readMetatag, TagGrouping.ofEntries?_of_spelledBy hspelled, hspelled, if_true,
      hgrouping]
    rfl

theorem readMetatag_of_spelledAlike {value value' : Value} (h : value.SpelledAlike value') :
    readMetatag value = readMetatag value' := by
  cases h with
  | same => rfl
  | condition h h' => rw [readMetatag_of_condition h, readMetatag_of_condition h']
  | grouping h h' => rw [readMetatag_of_grouping h, readMetatag_of_grouping h']

/-- What a value was read as is read as itself. -/
theorem readMetatag_of_read {value metatag : Value} (h : readMetatag value = .ok metatag) :
    readMetatag metatag = .ok metatag := by
  obtain rfl | ⟨condition, rfl⟩ | ⟨grouping, rfl⟩ := readMetatag_cases h
  · exact h
  · exact readMetatag_of_condition .itself
  · exact readMetatag_of_grouping .itself

/-! ## Mappings -/

/-- What a mapping is read as has each name once, and each value of it is read as itself. -/
theorem metatags_of_ofValue {entries : List (Value × Value)} {request : Request}
    (h : ofValue (.mapping entries) = .ok request) :
    request.names.Nodup ∧
      ∀ metatag ∈ request.metatags, readMetatag metatag.2 = .ok metatag.2 := by
  rw [ofValue_mapping] at h
  obtain ⟨metatags, hmetatags, rfl⟩ := map_eq_ok.mp h
  refine ⟨Keyed.nodup_ofEntries metatags, fun metatag hmem => ?_⟩
  -- of the values that were read some are replaced by later ones, and none is changed
  obtain ⟨entry, -, hentry⟩ :=
    exists_of_mem_mapM hmetatags (Keyed.mem_of_mem_ofEntries hmem)
  obtain ⟨key, -, hvalue⟩ := bind_eq_ok.mp hentry
  obtain ⟨value, hread, hpair⟩ := bind_eq_ok.mp hvalue
  obtain rfl := Except.ok.inj hpair
  exact readMetatag_of_read hread

/-- Mappings with the same keys in the same order, of which the values are spelled alike,
are read alike. -/
theorem ofValue_of_spelledAlike {entries entries' : List (Value × Value)}
    (h : List.Forall₂ (fun entry entry' =>
      entry.1 = entry'.1 ∧ entry.2.SpelledAlike entry'.2) entries entries') :
    ofValue (.mapping entries) = ofValue (.mapping entries') := by
  rw [ofValue_mapping, ofValue_mapping]
  congr 1
  induction h with
  | nil => rfl
  | @cons entry entry' rest rest' hentry _ ih =>
    have hread : readEntry entry = readEntry entry' := by
      rw [readEntry, readEntry, hentry.1, readMetatag_of_spelledAlike hentry.2]
    rw [List.mapM_cons, List.mapM_cons, hread, ih]

/-- The reading of a mapping normalises it. What was read is read as the same request, as a
mapping of its metatags and as a request. And from two mappings that differ only in how
their range conditions and groupings are spelled the same request is read, or neither is. -/
theorem ofValue_normalises :
    (∀ (entries : List (Value × Value)) (request : Request),
      ofValue (.mapping entries) = .ok request →
        ofValue (.record request.metatags) = .ok request ∧
          ofValue request.toValue = .ok request) ∧
    ∀ entries entries' : List (Value × Value),
      List.Forall₂ (fun entry entry' =>
        entry.1 = entry'.1 ∧ entry.2.SpelledAlike entry'.2) entries entries' →
      ofValue (.mapping entries) = ofValue (.mapping entries') := by
  refine ⟨fun entries request hread => ⟨?_, rfl⟩, fun _ _ => ofValue_of_spelledAlike⟩
  obtain ⟨hnodup, hself⟩ := metatags_of_ofValue hread
  exact ofValue_record_self hnodup hself

/-- A condition as a tuple, a grouping with a list, and two keys that are written alike. -/
def tupleSpelling : List (Value × Value) :=
  [(.text "score", .tuple [.text "gte", .int 5]),
    (.null, .int 1),
    (.text "tags", .mapping [(.text "include", .list [.text "cat"])]),
    (.text "None", .int 2)]

/-- The same condition as a mapping with a key of no use, and the same grouping with a
tuple and with groups that have no tags. -/
def mappingSpelling : List (Value × Value) :=
  [(.text "score", .mapping [(.text "note", .null), (.text "value", .int 5),
      (.text "operator", .operator .gte)]),
    (.null, .int 1),
    (.text "tags", .mapping [(.text "related", .null), (.text "include", .tuple [.text "cat"]),
      (.text "exclude", .list [])]),
    (.text "None", .int 2)]

/-- Both spellings are read as one request, in which the later value under the name that
two keys are written as has the place of the earlier one. -/
theorem ofValue_normalises_spellings :
    let request : Request := ⟨[("score", .range .gte (.int 5) .null), ("None", .int 2),
      ("tags", .tags [.text "cat"] [] [])]⟩
    ofValue (.mapping tupleSpelling) = .ok request ∧
      ofValue (.record request.metatags) = .ok request ∧
      ofValue (.mapping tupleSpelling) = ofValue (.mapping mappingSpelling) := by
  intro request
  have hread : ofValue (.mapping tupleSpelling) = .ok request := rfl
  have hcondition : (Value.tuple [.text "gte", .int 5]).SpelledAlike
      (.mapping [(.text "note", .null), (.text "value", .int 5),
        (.text "operator", .operator .gte)]) :=
    @Value.SpelledAlike.condition ⟨.gte, .int 5, .null⟩ _ _ (.tuple rfl rfl rfl)
      (.mapping rfl rfl rfl rfl)
  have hgrouping : (Value.mapping [(.text "include", .list [.text "cat"])]).SpelledAlike
      (.mapping [(.text "related", .null), (.text "include", .tuple [.text "cat"]),
        (.text "exclude", .list [])]) := by
    refine @Value.SpelledAlike.grouping ⟨[.text "cat"], [], []⟩ _ _
      (.mapping (List.cons_ne_nil _ _) ?_ .list (.empty rfl rfl) (.empty rfl rfl))
      (.mapping (List.cons_ne_nil _ _) ?_ .tuple .list (.empty rfl rfl))
    · exact List.forall_mem_singleton.mpr ⟨"include", by decide, rfl⟩
    · refine List.forall_mem_cons.mpr ⟨⟨"related", by decide, rfl⟩, ?_⟩
      exact List.forall_mem_cons.mpr ⟨⟨"include", by decide, rfl⟩,
        List.forall_mem_singleton.mpr ⟨"exclude", by decide, rfl⟩⟩
  refine ⟨hread, (ofValue_normalises.1 _ request hread).1,
    ofValue_normalises.2 _ _ (.cons ⟨rfl, hcondition⟩ (.cons ⟨rfl, .same _⟩
      (.cons ⟨rfl, hgrouping⟩ (.cons ⟨rfl, .same _⟩ .nil))))⟩

end Request

end BoardSearch
