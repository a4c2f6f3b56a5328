import BoardSearch.Proofs.Settings.Checking
import BoardSearch.Proofs.Text.Case

/-!
# Reports on settings

The check of a schema finds what is at fault in the values that were gathered for it, and
the report tells it: a line for each fault, with the variable that feeds the setting.

## Main definitions

* `Settings.Field.Fails`, `Settings.Schema.Fails`: what is at fault in gathered values;
* `Settings.Field.DefaultsFit`: the defaults that are not checked are admitted;
* `Settings.Schema.locations`: the places of a schema;
* `Settings.Schema.Tells`: a line tells a problem.

## Main statements

* `Settings.Schema.mem_problemsOf_check`: the problems that are found are those that there are;
* `Settings.Schema.sublist_locationsOf_check`: they are found in the order of the schema;
* `Settings.Field.admits_of_check`: a setting gets a value of the form that it is declared to
  have;
* `Settings.Schema.tells_line`: the report has a line that tells each problem;
* `Settings.Field.toLower_variableName`: the variable that is named is the one looked for.
-/

namespace BoardSearch

namespace Settings

variable {schema : Schema} {gathered : Entries}

/-! ## Faults -/

/-- What is at fault with a setting in the values that were gathered. -/
inductive Field.Fails (field : Field) (gathered : Entries) : Problem → Prop
  /-- A setting without a default is not there. -/
  | missing : Value.find? field.entry gathered = none → field.default = none →
    Fails field gathered ⟨[field.entry], .missing⟩
  /-- Something is at fault in the default, unless it is that of a group. -/
  | default {default : Value} {location : List String} {refusal : Refusal} :
    Value.find? field.entry gathered = none → field.default = some default →
      (∀ kind members, field.shape ≠ .group kind members) →
      field.shape.Fails default ⟨location, refusal⟩ →
      Fails field gathered ⟨field.entry :: location, refusal⟩
  /-- Something is at fault in the value that was found. -/
  | value {value : Value} {location : List String} {refusal : Refusal} :
    Value.find? field.entry gathered = some value → field.shape.Fails value ⟨location, refusal⟩ →
      Fails field gathered ⟨field.entry :: location, refusal⟩

/-- What is at fault in the values that were gathered for a schema. -/
inductive Schema.Fails (schema : Schema) (gathered : Entries) : Problem → Prop
  | field {field : Field} {problem : Problem} : field ∈ schema.fields →
    field.Fails gathered problem → Fails schema gathered problem
  /-- Each setting is fine, and their rule is broken. -/
  | rule {values : List (String × Value)} {message : String} :
    values.map (·.1) = schema.fields.map (·.name) →
      List.Forall₂ (fun field entry => field.check gathered = .ok entry.2) schema.fields values →
      schema.rule values = some message → Fails schema gathered ⟨[], .rule message⟩

/-- The places within the values that were gathered for a schema, in the order in which they are
declared, and the whole of it. -/
def Schema.locations (schema : Schema) (gathered : Entries) : List (List String) :=
  (schema.fields.flatMap fun field =>
    (settledPlaces (Value.find? field.entry gathered) field.default field.shape.locations).map
      (field.entry :: ·)) ++ [[]]

namespace Shape

theorem mem_problemsOf_checkDefault {shape : Shape} {default : Value} {problem : Problem} :
    problem ∈ problemsOf (shape.checkDefault default) ↔
      (∀ kind members, shape ≠ .group kind members) ∧ shape.Fails default problem := by
  cases shape with
  | single | other =>
    exact mem_problemsOf_check.trans ⟨fun h => ⟨nofun, h⟩, fun h => h.2⟩
  | group kind members =>
    exact iff_of_false List.not_mem_nil fun h => h.1 kind members rfl

theorem hasReason_checkDefault (shape : Shape) (default : Value) :
    HasReason (shape.checkDefault default) := by
  cases shape with
  | single | other => exact hasReason_check _ default
  | group kind members => exact hasReason_ok default

theorem sublist_locationsOf_checkDefault (shape : Shape) (default : Value) :
    (locationsOf (shape.checkDefault default)).Sublist (shape.locations default) := by
  cases shape with
  | single | other => exact sublist_locationsOf_check _ default
  | group kind members => exact List.nil_sublist _

end Shape

namespace Field

variable {field : Field}

theorem mem_problemsOf_check {problem : Problem} :
    problem ∈ problemsOf (field.check gathered) ↔ field.Fails gathered problem := by
  rw [check, problemsOf_within, List.mem_map]
  simp only [mem_problemsOf_settle, Shape.mem_problemsOf_check,
    Shape.mem_problemsOf_checkDefault]
  constructor
  · rintro ⟨⟨location, refusal⟩, hproblem, rfl⟩
    obtain ⟨hfound, hdefault, heq⟩ | ⟨value, hfound, hfails⟩ |
      ⟨hfound, default, hdefault, hgroup, hfails⟩ := hproblem
    · obtain ⟨rfl, rfl⟩ := Problem.mk.inj heq
      exact .missing hfound hdefault
    · exact .value hfound hfails
    · exact .default hfound hdefault hgroup hfails
  · intro h
    cases h with
    | missing hfound hdefault => exact ⟨_, .inl ⟨hfound, hdefault, rfl⟩, rfl⟩
    | value hfound hfails => exact ⟨_, .inr (.inl ⟨_, hfound, hfails⟩), rfl⟩
    | default hfound hdefault hgroup hfails =>
      exact ⟨_, .inr (.inr ⟨hfound, _, hdefault, hgroup, hfails⟩), rfl⟩

theorem hasReason_check (field : Field) (gathered : Entries) :
    HasReason (field.check gathered) :=
  (hasReason_settle field.shape.hasReason_check field.shape.hasReason_checkDefault).within _

/-- The defaults that are taken as they are, within a group and for the whole of it, are
admitted. -/
structure DefaultsFit (field : Field) : Prop where
  members : field.shape.DefaultsFit
  whole : ∀ kind members, field.shape = .group kind members →
    ∀ default, field.default = some default → field.shape.Admits default

/-- A value that a setting gets is one that it is declared to hold. -/
theorem admits_of_check {result : Value} (hfit : field.DefaultsFit)
    (h : field.check gathered = .ok result) : field.shape.Admits result := by
  obtain ⟨given, _, hgiven⟩ | ⟨_, default, hsome, hchecked⟩ := settle_eq_ok.mp (within_eq_ok.mp h)
  · exact Shape.admits_of_check hfit.members hgiven
  · cases hshape : field.shape with
    | single scalar =>
      rw [hshape] at hchecked
      exact Shape.admits_of_check .single hchecked
    | other kind =>
      rw [hshape] at hchecked
      exact Shape.admits_of_check .other hchecked
    | group kind members =>
      rw [hshape] at hchecked
      obtain rfl := Except.ok.inj hchecked
      exact hshape ▸ hfit.whole kind members hshape _ hsome

/-- The variable that is named is the one that is looked for, in letters of the other case. -/
theorem toLower_variableName (stem : String)
    (hascii : ∀ c ∈ (field.otherName.getD (stem ++ field.name)).toList, c.toNat < 128) :
    Text.toLower (field.variableName stem) = field.lookupName stem :=
  Text.toLower_toUpper hascii

end Field

namespace Schema

theorem hasReason_checks (schema : Schema) (gathered : Entries) :
    HasReason (collect (schema.checks gathered)) := by
  refine hasReason_collect fun check hcheck => ?_
  obtain ⟨field, _, rfl⟩ := List.mem_map.mp hcheck
  exact field.hasReason_check gathered

theorem mem_problemsOf_checks {problem : Problem} :
    problem ∈ problemsOf (collect (schema.checks gathered)) ↔
      ∃ field ∈ schema.fields, field.Fails gathered problem := by
  rw [problemsOf_collect, checks, List.flatMap_map, List.mem_flatMap]
  simp only [Field.mem_problemsOf_check]

theorem checks_eq_ok {values : List (String × Value)} :
    collect (schema.checks gathered) = .ok values ↔
      values.map (·.1) = schema.fields.map (·.name) ∧
      List.Forall₂ (fun field entry => field.check gathered = .ok entry.2) schema.fields values := by
  rw [collect_eq_ok, checks, List.map_map, List.forall₂_map_left_iff]
  rfl

/-- A check finds problems with settings, or else that their rule is broken, or else nothing. -/
theorem check_cases (schema : Schema) (gathered : Entries) :
    (∃ problems, problems ≠ [] ∧ collect (schema.checks gathered) = .error problems ∧
      schema.check gathered = .error problems) ∨
    ∃ values, collect (schema.checks gathered) = .ok values ∧
      ((∃ message, schema.rule values = some message ∧
        schema.check gathered = .error [⟨[], .rule message⟩]) ∨
      schema.rule values = none ∧ schema.check gathered = .ok values) := by
  unfold check
  cases hchecks : collect (schema.checks gathered) with
  | error problems =>
    exact .inl ⟨problems, schema.hasReason_checks gathered problems hchecks, rfl, rfl⟩
  | ok values =>
    refine .inr ⟨values, rfl, ?_⟩
    cases hrule : schema.rule values with
    | some message => exact .inl ⟨message, rfl, by simp [bind, Except.bind, hrule]⟩
    | none => exact .inr ⟨rfl, by simp [bind, Except.bind, hrule, pure, Except.pure]⟩

theorem hasReason_check (schema : Schema) (gathered : Entries) :
    HasReason (schema.check gathered) := by
  obtain ⟨problems, hne, _, hcheck⟩ | ⟨values, _, ⟨message, _, hcheck⟩ | ⟨_, hcheck⟩⟩ :=
    schema.check_cases gathered
  · rw [hcheck]
    intro problems' h
    exact Except.error.inj h ▸ hne
  · rw [hcheck]
    exact hasReason_problem _
  · rw [hcheck]
    exact hasReason_ok values

theorem checks_of_check {values : List (String × Value)} (h : schema.check gathered = .ok values) :
    values.map (·.1) = schema.fields.map (·.name) ∧
      List.Forall₂ (fun field entry => field.check gathered = .ok entry.2) schema.fields values := by
  obtain ⟨_, _, _, hfails⟩ | ⟨values', hchecks, ⟨_, _, hfails⟩ | ⟨_, hvalues⟩⟩ :=
    schema.check_cases gathered
  · exact absurd (h.symm.trans hfails) nofun
  · exact absurd (h.symm.trans hfails) nofun
  · obtain rfl := Except.ok.inj (h.symm.trans hvalues)
    exact checks_eq_ok.mp hchecks

theorem fails_iff {problem : Problem} :
    schema.Fails gathered problem ↔ problem ∈ problemsOf (collect (schema.checks gathered)) ∨
      ∃ values message, collect (schema.checks gathered) = .ok values ∧
        schema.rule values = some message ∧ problem = ⟨[], .rule message⟩ := by
  rw [mem_problemsOf_checks]
  constructor
  · rintro (⟨hfield, hfails⟩ | ⟨hnames, hvalues, hrule⟩)
    · exact .inl ⟨_, hfield, hfails⟩
    · exact .inr ⟨_, _, checks_eq_ok.mpr ⟨hnames, hvalues⟩, hrule, rfl⟩
  · rintro (⟨field, hfield, hfails⟩ | ⟨values, message, hchecks, hrule, rfl⟩)
    · exact .field hfield hfails
    · obtain ⟨hnames, hvalues⟩ := checks_eq_ok.mp hchecks
      exact .rule hnames hvalues hrule

theorem mem_problemsOf_check {problem : Problem} :
    problem ∈ problemsOf (schema.check gathered) ↔ schema.Fails gathered problem := by
  rw [fails_iff]
  obtain ⟨problems, _, hchecks, hcheck⟩ | ⟨values, hchecks, ⟨message, hrule, hcheck⟩ |
    ⟨hrule, hcheck⟩⟩ := schema.check_cases gathered
  · simp [hchecks, hcheck]
  · simp [hchecks, hcheck, hrule]
  · simp [hchecks, hcheck, hrule]

/-- The places of problems are in the order of the schema. -/
theorem sublist_locationsOf_check (schema : Schema) (gathered : Entries) :
    (locationsOf (schema.check gathered)).Sublist (schema.locations gathered) := by
  have hfields : (locationsOf (collect (schema.checks gathered))).Sublist
      (schema.fields.flatMap fun field => (settledPlaces (Value.find? field.entry gathered)
        field.default field.shape.locations).map (field.entry :: ·)) :=
    sublist_locationsOf_collect fun field _ => sublist_locationsOf_settle
      field.shape.sublist_locationsOf_check field.shape.sublist_locationsOf_checkDefault
  obtain ⟨problems, _, hchecks, hcheck⟩ | ⟨values, _, ⟨message, _, hcheck⟩ | ⟨_, hcheck⟩⟩ :=
    schema.check_cases gathered
  · rw [hcheck, ← hchecks]
    exact hfields.trans (List.sublist_append_left _ _)
  · rw [hcheck]
    exact List.sublist_append_right _ _
  · rw [hcheck]
    exact List.nil_sublist _

/-! ## Names -/

/-- The settings of a schema are told apart by their names: no two are read under the same one,
neither at the top nor within a group. -/
structure WellNamed (schema : Schema) : Prop where
  entries : (schema.fields.map (·.entry)).Nodup
  members : ∀ field ∈ schema.fields, field.shape.NamesApart

theorem nodup_locations (h : schema.WellNamed) (gathered : Entries) :
    (schema.locations gathered).Nodup := by
  have hfields : (schema.fields.flatMap fun field => (settledPlaces
      (Value.find? field.entry gathered) field.default field.shape.locations).map
        (field.entry :: ·)).Nodup :=
    nodup_places h.entries fun field hfield =>
      nodup_settledPlaces (Shape.nodup_locations (h.members field hfield))
  refine List.nodup_append.mpr ⟨hfields, List.nodup_singleton _, ?_⟩
  rintro location hlocation _ hwhole rfl
  obtain rfl := List.mem_singleton.mp hwhole
  simp at hlocation

/-- A setting that is read under another name is read under one that no setting has. The report
takes the name of a setting for its own. -/
def ReadsApart (schema : Schema) : Prop :=
  ∀ field ∈ schema.fields, ∀ word ∈ field.otherName, ∀ other ∈ schema.fields, other.name ≠ word

instance (schema : Schema) : Decidable schema.ReadsApart :=
  inferInstanceAs (Decidable (∀ field ∈ schema.fields, ∀ word ∈ field.otherName,
    ∀ other ∈ schema.fields, other.name ≠ word))

/-- A line tells a problem: with a setting, by its variable and the names within it in capital
letters; or with the settings as a whole. -/
inductive Tells (schema : Schema) : Problem → String → Prop
  | setting {field : Field} {rest : List String} {refusal : Refusal} : field ∈ schema.fields →
    Tells schema ⟨field.entry :: rest, refusal⟩
      ("\n  " ++
        String.intercalate schema.joint (field.variableName schema.stem :: rest.map Text.toUpper) ++
        ":  " ++ refusal.message)
  | whole {refusal : Refusal} : Tells schema ⟨[], refusal⟩ ("\n  " ++ refusal.message)

/-- The report names the variable of a setting. -/
theorem reportedName_entry (happart : schema.ReadsApart) {field : Field}
    (hfield : field ∈ schema.fields) (rest : List String) :
    schema.reportedName field.entry rest =
      String.intercalate schema.joint (field.variableName schema.stem :: rest.map Text.toUpper) := by
  unfold reportedName
  dsimp only
  rw [List.map_cons]
  congr 2
  cases hother : field.otherName with
  | none =>
    have hname : (schema.fields.any fun field' => field'.name == field.entry) = true :=
      List.any_eq_true.mpr ⟨field, hfield, by simp [Field.entry, hother]⟩
    rw [if_pos hname, Text.toUpper_append, Text.toUpper_toUpper]
    simp [Field.variableName, Field.entry, hother, Text.toUpper_append]
  | some word =>
    have hname : ¬ (schema.fields.any fun field' => field'.name == field.entry) = true := by
      rw [List.any_eq_true]
      rintro ⟨other, hmem, heq⟩
      refine happart field hfield word hother other hmem ?_
      simpa [Field.entry, hother] using heq
    rw [if_neg hname, Text.toUpper_toUpper]
    simp [Field.variableName, Field.entry, hother]

/-- Each problem is told by its line. -/
theorem tells_line (happart : schema.ReadsApart) {problem : Problem}
    (hfails : schema.Fails gathered problem) : schema.Tells problem (schema.line problem) := by
  have hsetting : ∀ {field : Field} (_ : field ∈ schema.fields) (rest : List String)
      (refusal : Refusal), schema.Tells ⟨field.entry :: rest, refusal⟩
        (schema.line ⟨field.entry :: rest, refusal⟩) := by
    intro field hfield rest refusal
    show schema.Tells _ ("\n  " ++ schema.reportedName field.entry rest ++ ":  " ++ refusal.message)
    rw [reportedName_entry happart hfield]
    exact .setting hfield
  obtain ⟨hfield, hfails⟩ | _ := hfails
  · obtain _ | _ | _ := hfails
    · exact hsetting hfield _ _
    · exact hsetting hfield _ _
    · exact hsetting hfield _ _
  · exact .whole

end Schema

end Settings

end BoardSearch
