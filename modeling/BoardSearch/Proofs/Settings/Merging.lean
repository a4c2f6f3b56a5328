import BoardSearch.Proofs.Json.Reading
import BoardSearch.Proofs.Request.Changing
import BoardSearch.Settings.Loading

/-!
# Where the values of settings come from

What the program sets goes over what the environment says, and that over what the settings
file says. The three can be put together wherever the texts of variables are JSON that have to
be.

## Main definitions

* `Settings.laid`: a value that may be there laid over another one;
* `Settings.IsReadable`: a JSON text without integers that are too long;
* `Settings.Schema.Readable`: variables hold JSON texts where they have to;
* `Settings.Field.FoundIn`: what is found for a setting among the sources.

## Main statements

* `Settings.find?_overlayNamed`: what is found under a name in values laid over others;
* `Settings.Schema.exists_gather`: readable variables are put together, and each setting is
  found in them.
-/

namespace BoardSearch

variable {α β ε : Type}

theorem foldlM_eq_ok {step : β → α → Except ε β} {next : β → α → β} {items : List α}
    (h : ∀ item ∈ items, ∀ b, step b item = .ok (next b item)) (b : β) :
    items.foldlM step b = .ok (items.foldl next b) := by
  induction items generalizing b with
  | nil => rfl
  | cons item rest ih =>
    obtain ⟨hitem, hrest⟩ := List.forall_mem_cons.mp h
    exact bind_eq_ok.mpr ⟨next b item, hitem b, ih hrest _⟩

theorem exists_foldlM_eq_ok {step : β → α → Except ε β} {items : List α}
    (h : ∀ item ∈ items, ∀ b, ∃ next, step b item = .ok next) (b : β) :
    ∃ result, items.foldlM step b = .ok result := by
  induction items generalizing b with
  | nil => exact ⟨b, rfl⟩
  | cons item rest ih =>
    obtain ⟨hitem, hrest⟩ := List.forall_mem_cons.mp h
    obtain ⟨next, hnext⟩ := hitem b
    obtain ⟨result, hresult⟩ := ih hrest next
    exact ⟨result, bind_eq_ok.mpr ⟨next, hnext, hresult⟩⟩

namespace Settings

/-! ## Values over values -/

/-- A value laid over another one, where either may be missing. -/
def laid (below above : Option Value) : Option Value :=
  (above.map (overlay below)).or below

/-- Named values laid over others, one after another. -/
def overlayNamed (below above : List (String × Value)) : List (String × Value) :=
  above.foldl (fun below entry =>
    Keyed.put entry.1 (overlay (Keyed.find? entry.1 below) entry.2) below) below

theorem overlayEntries_entriesOf (below above : List (String × Value)) :
    overlayEntries (Value.entriesOf below) (Value.entriesOf above) =
      Value.entriesOf (overlayNamed below above) := by
  induction above generalizing below with
  | nil => rfl
  | cons entry rest ih =>
    have hput : Keyed.put (.text entry.1)
        (overlay (Keyed.find? (.text entry.1) (Value.entriesOf below)) entry.2)
        (Value.entriesOf below) = Value.entriesOf
          (Keyed.put entry.1 (overlay (Keyed.find? entry.1 below) entry.2) below) := by
      have hfind := Value.find?_record entry.1 below
      unfold Value.find? at hfind
      rw [Value.entriesOf, hfind, Value.put_record]
      rfl
    show overlayEntries (Keyed.put _ _ _) (Value.entriesOf rest) = _
    rw [hput, ih]
    rfl

theorem find?_overlayNamed {above : List (String × Value)} (hnodup : (above.map (·.1)).Nodup)
    (below : List (String × Value)) (name : String) :
    Keyed.find? name (overlayNamed below above) =
      laid (Keyed.find? name below) (Keyed.find? name above) := by
  induction above generalizing below with
  | nil => simp [overlayNamed, Keyed.find?, laid]
  | cons entry rest ih =>
    obtain ⟨hnew, hrest⟩ := List.nodup_cons.mp hnodup
    show Keyed.find? name (overlayNamed (Keyed.put _ _ below) rest) = _
    rw [ih hrest, Keyed.find?_put]
    by_cases hname : entry.1 = name
    · subst hname
      -- the name does not come again
      have hnone : Keyed.find? entry.1 rest = none := Keyed.find?_eq_none.mpr hnew
      simp [laid, Keyed.find?, hnone]
    · simp [laid, Keyed.find?, hname]

/-! ## Settings in a row -/

/-- The names and values of settings that have a value. Of several under one name the last one
counts. -/
def named (fields : List Field) (value : Field → Option Value) : List (String × Value) :=
  Keyed.ofEntries (fields.filterMap fun field => (value field).map (field.entry, ·))

section Rows

variable {fields : List Field} {value : Field → Option Value}

theorem nodup_named (fields : List Field) (value : Field → Option Value) :
    ((named fields value).map (·.1)).Nodup :=
  Keyed.nodup_ofEntries _

theorem find?_named (hnodup : (fields.map (·.entry)).Nodup) {field : Field}
    (hfield : field ∈ fields) : Keyed.find? field.entry (named fields value) = value field := by
  have hkeys : ((fields.filterMap fun field => (value field).map (field.entry, ·)).map
      (·.1)).Nodup := by
    refine List.pairwise_map.mpr (List.pairwise_filterMap.mpr ?_)
    refine (List.pairwise_map.mp hnodup).imp fun {first second} hne entry hentry entry' hentry' => ?_
    obtain ⟨_, _, rfl⟩ := Option.map_eq_some_iff.mp hentry
    obtain ⟨_, _, rfl⟩ := Option.map_eq_some_iff.mp hentry'
    exact hne
  rw [named, Keyed.ofEntries_of_nodup hkeys]
  cases hvalue : value field with
  | some v =>
    refine (Keyed.find?_eq_some_iff hkeys).mpr (List.mem_filterMap.mpr ⟨field, hfield, ?_⟩)
    rw [hvalue]
    rfl
  | none =>
    refine Keyed.find?_eq_none.mpr fun hmem => ?_
    obtain ⟨entry, hentry, heq⟩ := List.mem_map.mp hmem
    obtain ⟨other, hother, hsome⟩ := List.mem_filterMap.mp hentry
    obtain ⟨v, hv, rfl⟩ := Option.map_eq_some_iff.mp hsome
    -- another setting under this name would be this one
    obtain rfl : other = field := List.inj_on_of_nodup_map hnodup hother hfield heq
    exact absurd (hvalue.symm.trans hv) nofun

theorem foldl_supply (fields : List Field) (value : Field → Option Value) :
    fields.foldl (fun entries field => field.supply entries (value field)) [] =
      Value.entriesOf (named fields value) := by
  have hrow : ∀ (fields : List Field) (built : List (String × Value)),
      fields.foldl (fun entries field => field.supply entries (value field))
        (Value.entriesOf built) =
      Value.entriesOf ((fields.filterMap fun field => (value field).map (field.entry, ·)).foldl
        (fun built entry => Keyed.put entry.1 entry.2 built) built) := by
    intro fields
    induction fields with
    | nil => exact fun _ => rfl
    | cons field rest ih =>
      intro built
      rw [List.foldl_cons, List.filterMap_cons]
      cases value field with
      | none => exact ih built
      | some v =>
        have hput : field.supply (Value.entriesOf built) (some v) =
            Value.entriesOf (Keyed.put field.entry v built) :=
          Value.put_record field.entry v built
        rw [hput]
        exact ih _
  exact hrow fields []

end Rows

theorem Schema.valuesFrom_eq {schema : Schema} {source : Failure.SettingsSource}
    {known : Variables} {value : Field → Option Value}
    (h : ∀ field ∈ schema.fields, field.valueFrom schema.toNaming source known = .ok (value field)) :
    schema.valuesFrom source known = .ok (Value.entriesOf (named schema.fields value)) := by
  rw [← foldl_supply]
  refine foldlM_eq_ok (fun field hfield entries => ?_) []
  exact bind_eq_ok.mpr ⟨value field, h field hfield, rfl⟩

/-! ## Readable variables -/

/-- A text is a JSON text whose integers are not too long to be read. -/
def IsReadable (text : String) : Prop :=
  ∃ document : Json, Json.Spells text.toList (.element document) [] ∧ document.isShort = true

theorem IsReadable.exists_read {text : String} (h : IsReadable text) :
    ∃ document, Json.read text = .ok document := by
  obtain ⟨document, hspells, hshort⟩ := h
  have hread := Json.read_of_spells hspells
  rw [if_pos hshort] at hread
  exact ⟨_, hread⟩

theorem Form.exists_read {form : Form} {text : String} (failure : Failure)
    (h : form = .document → IsReadable text) : ∃ value, form.read failure text = .ok value := by
  cases form with
  | plain => exact ⟨_, rfl⟩
  | document =>
    obtain ⟨document, hread⟩ := (h rfl).exists_read
    exact ⟨document.toValue, by unfold Form.read; rw [hread]⟩
  | lenient =>
    unfold Form.read
    cases Json.read text <;> exact ⟨_, rfl⟩

/-- The variables for a setting and its parts hold JSON texts where they have to; one for a part
may be empty. -/
structure Field.Readable (field : Field) (naming : Naming) (known : Variables) : Prop where
  whole : ∀ text, field.shape.formAt [] = .document →
    (Keyed.find? (field.lookupName naming.stem) known).join = some text → IsReadable text
  parts : ∀ delimiter ∈ naming.delimiter?, ∀ entry ∈ known, ∀ path text,
    partPath? delimiter (field.lookupName naming.stem) entry.1 = some path →
    field.shape.formAt path = .document → entry.2 = some text → text ≠ "" → IsReadable text

theorem Field.readable_of_single {field : Field} {scalar : Scalar}
    (h : field.shape = .single scalar) (naming : Naming) (known : Variables) :
    field.Readable naming known := by
  have hplain : ∀ path, field.shape.formAt path = .plain := by
    intro path
    rw [h]
    cases path <;> rfl
  exact ⟨fun _ hform => absurd ((hplain _).symm.trans hform) nofun,
    fun _ _ _ _ path _ _ hform => absurd ((hplain path).symm.trans hform) nofun⟩

theorem Field.readable_nil (field : Field) (naming : Naming) : field.Readable naming [] where
  whole := nofun
  parts := fun _ _ _ h => absurd h List.not_mem_nil

/-- The variables that have to hold JSON texts do. -/
def Schema.Readable (schema : Schema) (sources : Sources) : Prop :=
  ∀ field ∈ schema.fields, field.Readable schema.toNaming sources.environmentSettings ∧
    field.Readable schema.toNaming sources.fileSettings

theorem exists_partValue {form : Form} {own : Option String} (failure : Failure)
    (h : ∀ text, form = .document → own = some text → text ≠ "" → IsReadable text) :
    ∃ value, partValue failure form own = .ok value := by
  cases own with
  | none => exact ⟨_, rfl⟩
  | some text =>
    rw [partValue]
    split
    · exact ⟨_, rfl⟩
    · rename_i hempty
      exact Form.exists_read failure fun hform => h text hform rfl fun heq => hempty (by simp [heq])

theorem Field.exists_partVariables {field : Field} {naming : Naming} {known : Variables}
    (h : field.Readable naming known) (failure : Failure) :
    ∃ entries, partVariables failure field.shape naming.delimiter?
      (field.lookupName naming.stem) known = .ok entries := by
  unfold partVariables
  cases hfilter : naming.delimiter?.filter (!·.isEmpty) with
  | none => exact ⟨[], rfl⟩
  | some delimiter =>
    have hdelimiter : delimiter ∈ naming.delimiter? := (Option.filter_eq_some_iff.mp hfilter).1
    refine exists_foldlM_eq_ok (fun entry hentry entries => ?_) []
    split
    · rename_i path hpath
      obtain ⟨value, hvalue⟩ := exists_partValue failure fun text =>
        h.parts delimiter hdelimiter entry hentry path text hpath
      exact ⟨_, bind_eq_ok.mpr ⟨value, hvalue, rfl⟩⟩
    · exact ⟨entries, rfl⟩

theorem Field.exists_valueFrom {field : Field} {naming : Naming} {known : Variables}
    (h : field.Readable naming known) (source : Failure.SettingsSource) :
    ∃ value, field.valueFrom naming source known = .ok value := by
  unfold valueFrom
  dsimp only
  split
  · exact ⟨_, rfl⟩
  · obtain ⟨entries, hentries⟩ :=
      field.exists_partVariables h (.unreadableGroup field.name source)
    rw [hentries]
    unfold wholeValue
    split
    · exact ⟨_, rfl⟩
    · rename_i text hown
      obtain ⟨value, hvalue⟩ := Form.exists_read (.unreadableGroup field.name source)
        fun hform => h.whole text hform hown
      rw [hvalue]
      cases value <;> exact ⟨_, rfl⟩

/-! ## All the sources -/

/-- What is found for a setting in values that were gathered: what the program sets, over what
the environment says, over what the settings file says. -/
def Field.FoundIn (field : Field) (naming : Naming) (sources : Sources) (gathered : Entries) :
    Prop :=
  ∃ environment file,
    field.valueFrom naming .environment sources.environmentSettings = .ok environment ∧
    field.valueFrom naming .file sources.fileSettings = .ok file ∧
    Value.find? field.entry gathered =
      laid (laid file environment) (field.argument? sources.arguments)

/-- What variables say about a setting, if they can be read. -/
def Field.supplied (field : Field) (naming : Naming) (source : Failure.SettingsSource)
    (known : Variables) : Option Value :=
  (field.valueFrom naming source known).toOption.join

theorem Field.valueFrom_eq_supplied {field : Field} {naming : Naming} {known : Variables}
    (h : field.Readable naming known) (source : Failure.SettingsSource) :
    field.valueFrom naming source known = .ok (field.supplied naming source known) := by
  obtain ⟨value, hvalue⟩ := field.exists_valueFrom h source
  rw [supplied, hvalue]
  rfl

/-- Readable variables are put together, and each setting with a name of its own is found. -/
theorem Schema.exists_gather {schema : Schema} {sources : Sources}
    (h : schema.Readable sources) : ∃ gathered, schema.gather sources = .ok gathered ∧
      ((schema.fields.map (·.entry)).Nodup →
        ∀ field ∈ schema.fields, field.FoundIn schema.toNaming sources gathered) := by
  have henvironment := schema.valuesFrom_eq fun field hfield =>
    field.valueFrom_eq_supplied (h field hfield).1 .environment
  have hfile := schema.valuesFrom_eq fun field hfield =>
    field.valueFrom_eq_supplied (h field hfield).2 .file
  refine ⟨_, bind_eq_ok.mpr ⟨_, henvironment, bind_eq_ok.mpr ⟨_, hfile, rfl⟩⟩, ?_⟩
  intro hnodup field hfield
  refine ⟨_, _, field.valueFrom_eq_supplied (h field hfield).1 .environment,
    field.valueFrom_eq_supplied (h field hfield).2 .file, ?_⟩
  rw [arguments, foldl_supply, overlayEntries_entriesOf, overlayEntries_entriesOf]
  rw [Value.entriesOf, Value.find?_record, find?_overlayNamed (nodup_named _ _),
    find?_overlayNamed (nodup_named _ _), find?_named hnodup hfield, find?_named hnodup hfield,
    find?_named hnodup hfield]

end Settings

end BoardSearch
