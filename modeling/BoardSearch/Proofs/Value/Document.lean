import BoardSearch.Json.Document
import BoardSearch.Proofs.Json.Soundness

/-!
# Values that have a document

The values that a search read from a JSON text is made of are again made of nothing, truth
values, numbers, texts, moments, lists and records. Such a value has a document, unless a
range condition or a grouping of tags is in it.

## Main definitions

* `Value.Sound`: a value that can come of a JSON text;
* `Value.isWritable`: a value that can be written as a JSON text;
* `Value.IsDocumented`: a value with a document, or one that cannot be written.

## Main statements

* `Value.Sound.isDocumented`: the document of a sound value, if it has one;
* `Json.Sound.toValue`: what a sound document stands for is sound.
-/

namespace BoardSearch

/-- A style in which every number is written. -/
def Json.Choices.inStyle (style : Json.Style) : Json.Choices :=
  { Json.Choices.standard with style }

namespace Value

/-! ## Sound values -/

/-- A value that can come of a JSON text: its integers are short, its numbers of the binary64
format are canonical, and its records have no name twice. -/
inductive Sound : Value → Prop where
  | null : Sound .null
  | bool (b : Bool) : Sound (.bool b)
  | int {n : Int} (h : isShort n = true) : Sound (.int n)
  | float {x : Binary64} (h : x.IsCanonical) : Sound (.float x)
  | text (s : String) : Sound (.text s)
  | moment (m : Moment) : Sound (.moment m)
  | operator (op : RangeOperator) : Sound (.operator op)
  | list {items : List Value} (h : ∀ item ∈ items, Sound item) : Sound (.list items)
  | record {entries : List (String × Value)} (hnames : (entries.map (·.1)).Nodup)
      (h : ∀ entry ∈ entries, Sound entry.2) : Sound (record entries)
  | range (op : RangeOperator) {bound upper : Value} (hbound : Sound bound)
      (hupper : Sound upper) : Sound (.range op bound upper)
  | tags {included excluded related : List Value} (hincluded : ∀ tag ∈ included, Sound tag)
      (hexcluded : ∀ tag ∈ excluded, Sound tag) (hrelated : ∀ tag ∈ related, Sound tag) :
      Sound (.tags included excluded related)

theorem record_injective : Function.Injective record := by
  intro entries entries' h
  have hpair : Function.Injective fun entry : String × Value => (Value.text entry.1, entry.2) := by
    rintro ⟨name, value⟩ ⟨name', value'⟩ h
    obtain ⟨htext, hvalue⟩ := Prod.mk.inj h
    exact Prod.ext (Value.text.inj htext) hvalue
  exact List.map_injective_iff.mpr hpair (Value.mapping.inj h)

theorem sound_list {items : List Value} : (list items).Sound ↔ ∀ item ∈ items, item.Sound := by
  refine ⟨fun h => ?_, .list⟩
  cases h with
  | list h => exact h

theorem sound_record {entries : List (String × Value)} (hnames : (entries.map (·.1)).Nodup) :
    (record entries).Sound ↔ ∀ entry ∈ entries, entry.2.Sound := by
  refine ⟨fun h => ?_, .record hnames⟩
  generalize hvalue : record entries = value at h
  cases h with
  | record _ h =>
    obtain rfl := record_injective hvalue
    exact h
  | _ => simp [record] at hvalue

/-- A sound mapping is a record. -/
theorem exists_record_of_sound {entries : List (Value × Value)} (h : (mapping entries).Sound) :
    ∃ named : List (String × Value), mapping entries = record named ∧
      (named.map (·.1)).Nodup ∧ ∀ entry ∈ named, entry.2.Sound := by
  generalize hvalue : mapping entries = value at h
  cases h with
  | record hnames h => exact ⟨_, rfl, hnames, h⟩
  | _ => simp at hvalue

/-! ## Writable values -/

mutual

/-- The value can be written as a JSON text: there are no range conditions, no groupings and
no requests in it, and its numbers are finite. -/
def isWritable : Value → Bool
  | .null | .bool _ | .int _ | .text _ | .date _ | .moment _ | .operator _ => true
  | .float x => x.isFinite
  | .list items | .tuple items | .set items | .frozenSet items => itemsAreWritable items
  | .mapping entries => entriesAreWritable entries
  | .bytes _ | .range _ _ _ | .tags _ _ _ | .request _ => false
termination_by structural value => value

/-- The values of a row can be written as JSON texts. -/
def itemsAreWritable : List Value → Bool
  | [] => true
  | value :: rest => isWritable value && itemsAreWritable rest
termination_by structural values => values

/-- The values of a mapping can be written as JSON texts. -/
def entriesAreWritable : List (Value × Value) → Bool
  | [] => true
  | (_, value) :: rest => isWritable value && entriesAreWritable rest
termination_by structural entries => entries

end

theorem isWritable_list {items : List Value} :
    (list items).isWritable = true ↔ ∀ item ∈ items, item.isWritable = true := by
  rw [isWritable]
  induction items with
  | nil => simp [itemsAreWritable]
  | cons item items ih => simp [itemsAreWritable, ih]

theorem isWritable_record {entries : List (String × Value)} :
    (record entries).isWritable = true ↔ ∀ entry ∈ entries, entry.2.isWritable = true := by
  rw [record, isWritable]
  induction entries with
  | nil => simp [entriesAreWritable]
  | cons entry entries ih => simp [entriesAreWritable, ih]

/-! ## Documents -/

/-- The value has a sound document, the same in every style, or it has none and cannot be
written. -/
def IsDocumented (value : Value) : Prop :=
  (∃ d : Json, (∀ style, document (.inStyle style) value = .ok d) ∧ d.Sound ∧
      d.isFinite = value.isWritable) ∨
    value.isWritable = false ∧ ∀ style, document (.inStyle style) value = .error .unserializable

/-- The documents of a row of values. -/
theorem documents_of_forall {items : List Value} (h : ∀ item ∈ items, item.IsDocumented) :
    (∃ ds : List Json, (∀ style, documents (.inStyle style) items = .ok ds) ∧
      (∀ d ∈ ds, d.Sound) ∧ Json.itemsAreFinite ds = itemsAreWritable items) ∨
    itemsAreWritable items = false ∧
      ∀ style, documents (.inStyle style) items = .error .unserializable := by
  induction items with
  | nil => exact .inl ⟨[], fun _ => rfl, List.forall_mem_nil _, rfl⟩
  | cons item items ih =>
    obtain ⟨hitem, hitems⟩ := List.forall_mem_cons.mp h
    obtain ⟨d, hd, hsound, hfinite⟩ | ⟨hwritable, hfails⟩ := hitem
    · obtain ⟨ds, hds, hsounds, hfinites⟩ | ⟨hwritable, hfails⟩ := ih hitems
      · refine .inl ⟨d :: ds, fun style => ?_, List.forall_mem_cons.mpr ⟨hsound, hsounds⟩, ?_⟩
        · rw [documents, hd, hds]
          rfl
        · rw [Json.itemsAreFinite, itemsAreWritable, hfinite, hfinites]
      · refine .inr ⟨by rw [itemsAreWritable, hwritable, Bool.and_false], fun style => ?_⟩
        rw [documents, hd, hfails]
        rfl
    · refine .inr ⟨by rw [itemsAreWritable, hwritable, Bool.false_and], fun style => ?_⟩
      rw [documents, hfails]
      rfl

/-- The document of a record is the object of its members, since an object loses none. -/
theorem document_record {style : Json.Style} {entries : List (String × Value)}
    {ms : List (String × Json)} (hms : members (.inStyle style) (documentEntries (.inStyle style)
      (entries.map fun entry => (.text entry.1, entry.2))) = .ok ms)
    (hnames : ms.map (·.1) = entries.map (·.1)) :
    document (.inStyle style) (record entries) = .ok (.object ms) := by
  have hkept : (ms.isEmpty && !(entries.map fun entry =>
      (text entry.1, entry.2)).isEmpty) = false := by
    cases entries with
    | nil => simp
    | cons entry entries =>
      cases ms with
      | nil => simp at hnames
      | cons => rfl
  have hbind : (inOrder (.inStyle style) (documentEntries (.inStyle style)
      (entries.map fun entry => (text entry.1, entry.2)))).bind (members (.inStyle style)) =
        .ok ms := hms
  rw [record, document, hbind, Except.map, hkept]
  rfl

theorem document_record_error {style : Json.Style} {entries : List (String × Value)}
    {failure : Failure} (h : members (.inStyle style) (documentEntries (.inStyle style)
      (entries.map fun entry => (.text entry.1, entry.2))) = .error failure) :
    document (.inStyle style) (record entries) = .error failure := by
  have hbind : (inOrder (.inStyle style) (documentEntries (.inStyle style)
      (entries.map fun entry => (text entry.1, entry.2)))).bind (members (.inStyle style)) =
        .error failure := h
  rw [record, document, hbind]
  rfl

/-- The members for the entries of a record. -/
theorem members_of_forall {entries : List (String × Value)}
    (h : ∀ entry ∈ entries, entry.2.IsDocumented) :
    (∃ ms : List (String × Json),
      (∀ style, members (.inStyle style) (documentEntries (.inStyle style)
        (entries.map fun entry => (.text entry.1, entry.2))) = .ok ms) ∧
      ms.map (·.1) = entries.map (·.1) ∧ (∀ m ∈ ms, m.2.Sound) ∧
      Json.membersAreFinite ms = (record entries).isWritable) ∨
    (record entries).isWritable = false ∧
      ∀ style, members (.inStyle style) (documentEntries (.inStyle style)
        (entries.map fun entry => (.text entry.1, entry.2))) = .error .unserializable := by
  induction entries with
  | nil => exact .inl ⟨[], fun _ => rfl, rfl, List.forall_mem_nil _, rfl⟩
  | cons entry entries ih =>
    obtain ⟨hentry, hentries⟩ := List.forall_mem_cons.mp h
    have hwritable : (record (entry :: entries)).isWritable =
        (entry.2.isWritable && (record entries).isWritable) := rfl
    obtain ⟨d, hd, hsound, hfinite⟩ | ⟨hnot, hfails⟩ := hentry
    · obtain ⟨ms, hms, hnames, hsounds, hfinites⟩ | ⟨hnot, hfails⟩ := ih hentries
      · refine .inl ⟨(entry.1, d) :: ms, fun style => ?_, by rw [List.map_cons, hnames]; rfl,
          List.forall_mem_cons.mpr ⟨hsound, hsounds⟩, ?_⟩
        · rw [List.map_cons, documentEntries, members, memberName, hd, hms]
          rfl
        · rw [Json.membersAreFinite, hwritable, hfinite, hfinites]
      · refine .inr ⟨by rw [hwritable, hnot, Bool.and_false], fun style => ?_⟩
        rw [List.map_cons, documentEntries, members, memberName, hd, hfails]
        rfl
    · refine .inr ⟨by rw [hwritable, hnot, Bool.false_and], fun style => ?_⟩
      rw [List.map_cons, documentEntries, members, memberName, hfails]
      rfl

/-- A sound value has a sound document, or a part of it has none. -/
theorem Sound.isDocumented {value : Value} (h : value.Sound) : value.IsDocumented := by
  induction h with
  | null => exact .inl ⟨_, fun _ => rfl, .null, rfl⟩
  | bool b => exact .inl ⟨_, fun _ => rfl, .bool b, rfl⟩
  | int h => exact .inl ⟨_, fun _ => rfl, .int h, rfl⟩
  | float h => exact .inl ⟨_, fun _ => rfl, .float h, rfl⟩
  | text s => exact .inl ⟨_, fun _ => rfl, .text s, rfl⟩
  | moment m => exact .inl ⟨_, fun _ => rfl, .text _, rfl⟩
  | operator op => exact .inl ⟨_, fun _ => rfl, .text _, rfl⟩
  | range | tags => exact .inr ⟨rfl, fun _ => rfl⟩
  | list _ ih =>
    obtain ⟨ds, hds, hsounds, hfinites⟩ | ⟨hwritable, hfails⟩ := documents_of_forall ih
    · refine .inl ⟨.array ds, fun style => ?_, .array hsounds, hfinites⟩
      rw [document, hds]
      rfl
    · refine .inr ⟨hwritable, fun style => ?_⟩
      rw [document, hfails]
      rfl
  | @record entries hnames _ ih =>
    obtain ⟨ms, hms, hkeys, hsounds, hfinites⟩ | ⟨hwritable, hfails⟩ := members_of_forall ih
    · exact .inl ⟨.object ms, fun style => document_record (hms style) hkeys,
        .object (hkeys ▸ hnames) hsounds, hfinites⟩
    · exact .inr ⟨hwritable, fun style => document_record_error (hfails style)⟩

end Value

/-! ## What documents stand for -/

namespace Json

theorem itemValues_eq (items : List Json) : itemValues items = items.map toValue := by
  induction items with
  | nil => rfl
  | cons item items ih => rw [itemValues, ih, List.map_cons]

theorem memberValues_eq (members : List (String × Json)) :
    Value.mapping (memberValues members) =
      .record (members.map fun member => (member.1, member.2.toValue)) := by
  have hvalues : memberValues members =
      members.map fun member => (.text member.1, member.2.toValue) := by
    induction members with
    | nil => rfl
    | cons member members ih => rw [memberValues, ih, List.map_cons]
  rw [hvalues, Value.record, List.map_map]
  rfl

theorem Sound.toValue {document : Json} (h : document.Sound) : document.toValue.Sound := by
  induction h with
  | null => exact .null
  | bool b => exact .bool b
  | int h => exact .int h
  | float h => exact .float h
  | text s => exact .text s
  | array _ ih =>
    rw [Json.toValue, itemValues_eq]
    exact .list (List.forall_mem_map.mpr ih)
  | object hnames _ ih =>
    rw [Json.toValue, memberValues_eq]
    refine .record ?_ (List.forall_mem_map.mpr ih)
    rwa [List.map_map]

end Json

end BoardSearch
