import BoardSearch.Proofs.Outcome
import BoardSearch.Request.Reading

/-!
# Requests that are read from named values

A mapping with texts for keys is read one entry after another, each by itself. So the
request has just the names of the mapping, and it can be read if every value can.

## Main definitions

* `Request.readEntry`: an entry of a mapping as the metatag that it is read as;
* `Request.readField`: a named value as the metatag that it is read as.

## Main statements

* `Request.readMetatag_cases`: a value is read as itself, as a condition or as a grouping;
* `Request.ofValue_mapping`, `Request.ofValue_record`: a mapping is read entry by entry;
* `Request.ofValue_record_self`: values that are read as themselves are the request;
* `Request.get?_ofEntries`: a name stands for the last value under it;
* `Request.get?_eq_none_of_read`: a request has no other names than the mapping.
-/

namespace BoardSearch.Request

/-- A value is read as itself, as a range condition or as a grouping of tags. -/
theorem readMetatag_cases {value metatag : Value} (h : readMetatag value = .ok metatag) :
    metatag = value ∨ (∃ condition : RangeCondition, metatag = condition.toValue) ∨
      ∃ grouping : TagGrouping, metatag = grouping.toValue := by
  unfold readMetatag at h
  split at h
  · rename_i items
    obtain rfl := Except.ok.inj h
    cases RangeCondition.ofTuple? items with
    | none => exact .inl rfl
    | some condition => exact .inr (.inl ⟨condition, rfl⟩)
  · split at h
    · rename_i condition _
      exact .inr (.inl ⟨condition, (Except.ok.inj h).symm⟩)
    · split at h
      · obtain ⟨grouping, -, rfl⟩ := map_eq_ok.mp h
        exact .inr (.inr ⟨grouping, rfl⟩)
      · exact .inl (Except.ok.inj h).symm
  · exact .inl (Except.ok.inj h).symm

/-- An entry of a mapping as the metatag that it is read as. -/
def readEntry (entry : Value × Value) : Except Failure (String × Value) := do
  return (← entry.1.written, ← readMetatag entry.2)

/-- A named value as the metatag that it is read as. -/
def readField (entry : String × Value) : Except Failure (String × Value) :=
  (readMetatag entry.2).map fun value => (entry.1, value)

/-- A mapping is read entry by entry. -/
theorem ofValue_mapping (entries : List (Value × Value)) :
    ofValue (.mapping entries) =
      (entries.mapM readEntry).map fun metatags => ⟨Keyed.ofEntries metatags⟩ := by
  show (do return ⟨Keyed.ofEntries (← entries.mapM readEntry)⟩ : Except Failure Request) = _
  cases entries.mapM readEntry <;> rfl

/-- A text is written out as itself. -/
theorem readEntry_text (entry : String × Value) :
    readEntry (.text entry.1, entry.2) = readField entry := by
  show (do return (entry.1, ← readMetatag entry.2) : Except Failure _) = readField entry
  unfold readField
  cases readMetatag entry.2 <;> rfl

/-- A mapping with texts for keys is read entry by entry. -/
theorem ofValue_record (entries : List (String × Value)) :
    ofValue (.record entries) =
      (entries.mapM readField).map fun metatags => ⟨Keyed.ofEntries metatags⟩ := by
  have hentry : (readEntry ∘ fun entry : String × Value => (Value.text entry.1, entry.2)) =
      readField := funext readEntry_text
  rw [Value.record, ofValue_mapping, List.mapM_map, hentry]

/-- Values under different names that are each read as itself are the request. -/
theorem ofValue_record_self {entries : List (String × Value)}
    (hnodup : (entries.map (·.1)).Nodup)
    (hself : ∀ entry ∈ entries, readMetatag entry.2 = .ok entry.2) :
    ofValue (.record entries) = .ok ⟨entries⟩ := by
  have hread : entries.mapM readField = .ok entries := by
    refine mapM_eq_self fun entry hentry => ?_
    rw [readField, hself entry hentry]
    rfl
  rw [ofValue_record, hread, Except.map, Keyed.ofEntries_of_nodup hnodup]

/-- Reading an entry leaves its name as it is. -/
theorem name_of_readField {entry metatag : String × Value}
    (h : readField entry = .ok metatag) : metatag.1 = entry.1 := by
  obtain ⟨value, -, rfl⟩ := map_eq_ok.mp h
  rfl

/-- Reading entries leaves their names as they are. -/
theorem names_of_read {entries metatags : List (String × Value)}
    (h : entries.mapM readField = .ok metatags) :
    metatags.map Prod.fst = entries.map Prod.fst := by
  induction entries generalizing metatags with
  | nil =>
    obtain rfl : [] = metatags := Except.ok.inj h
    rfl
  | cons entry rest ih =>
    rw [List.mapM_cons] at h
    obtain ⟨metatag, hmetatag, h⟩ := bind_eq_ok.mp h
    obtain ⟨others, hothers, h⟩ := bind_eq_ok.mp h
    obtain rfl : metatag :: others = metatags := Except.ok.inj h
    rw [List.map_cons, List.map_cons, name_of_readField hmetatag, ih hothers]

/-- In what a mapping is read as, a name stands for the last value under it. -/
theorem get?_ofEntries (metatags : List (String × Value)) (name : String) :
    get? ⟨Keyed.ofEntries metatags⟩ name = Keyed.find? name metatags.reverse :=
  Keyed.find?_ofEntries name metatags

/-- A request has no other names than the mapping that it is read from. -/
theorem get?_eq_none_of_read {entries metatags : List (String × Value)}
    (h : entries.mapM readField = .ok metatags) {name : String}
    (hname : name ∉ entries.map Prod.fst) :
    get? ⟨Keyed.ofEntries metatags⟩ name = none := by
  rw [get?_ofEntries, Keyed.find?_eq_none, List.map_reverse, List.mem_reverse, names_of_read h]
  exact hname

/-- What several mappings one after another are read as: of two values under a name the
later one counts. -/
theorem get?_append (first second : List (String × Value)) (name : String) :
    get? ⟨Keyed.ofEntries (first ++ second)⟩ name =
      (get? ⟨Keyed.ofEntries second⟩ name).or (get? ⟨Keyed.ofEntries first⟩ name) := by
  rw [get?_ofEntries, get?_ofEntries, get?_ofEntries, List.reverse_append, Keyed.find?_append]

/-- What a mapping is read as is the entries that were read, put one after another. -/
theorem exists_read_of_ofValue {entries : List (String × Value)} {request : Request}
    (h : ofValue (.record entries) = .ok request) :
    ∃ metatags, entries.mapM readField = .ok metatags ∧ ⟨Keyed.ofEntries metatags⟩ = request := by
  rw [ofValue_record] at h
  exact map_eq_ok.mp h

/-- A metatag of a request that was read is what one of the entries is read as. -/
theorem exists_of_mem_read {entries : List (String × Value)} {request : Request}
    (h : ofValue (.record entries) = .ok request) {metatag : String × Value}
    (hmem : metatag ∈ request.metatags) :
    ∃ entry ∈ entries, readMetatag entry.2 = .ok metatag.2 := by
  obtain ⟨metatags, hmetatags, rfl⟩ := exists_read_of_ofValue h
  obtain ⟨entry, hentry, hfield⟩ :=
    exists_of_mem_mapM hmetatags (Keyed.mem_of_mem_ofEntries hmem)
  obtain ⟨value, hvalue, rfl⟩ := map_eq_ok.mp hfield
  exact ⟨entry, hentry, hvalue⟩

/-- A scalar is the metatag itself. -/
theorem scalarOf?_eq_some {value scalar : Value} (h : scalarOf? value = some scalar) :
    value = scalar := by
  cases value <;> simp_all [scalarOf?]

end BoardSearch.Request
