import BoardSearch.Settings.Schema

/-!
# Checking settings

Values that were gathered for the settings of a schema are read as what the settings
hold. Everything that is at fault is found, not only the first; the report names each
setting at fault by the variable that feeds it.

## Main definitions

* `Settings.Shape.check`, `Settings.Field.check`, `Settings.Schema.check`: the values of
  settings, or what is at fault;
* `Settings.Schema.report`: the report on what is at fault.
-/

namespace BoardSearch.Settings

/-- The entries of a mapping. -/
abbrev Entries := List (Value × Value)

/-- What was checked as a part of what has the given name. -/
def within {α : Type} (name : String) (checked : Checked α) : Checked α :=
  checked.mapError (List.map fun problem => ⟨name :: problem.location, problem.refusal⟩)

/-- A value that was found for a setting, or else its default. -/
def settle (found default : Option Value) (check checkDefault : Value → Checked Value) :
    Checked Value :=
  match found, default with
  | some value, _ => check value
  | none, some value => checkDefault value
  | none, none => .error [⟨[], .missing⟩]

/-- Named values, or the problems with all of them. -/
def collect : List (String × Checked Value) → Checked (List (String × Value))
  | [] => .ok []
  | (name, .ok value) :: rest => (collect rest).map ((name, value) :: ·)
  | (_, .error problems) :: rest =>
    match collect rest with
    | .ok _ => .error problems
    | .error more => .error (problems ++ more)

mutual

/-- A value as what a setting holds. -/
def Shape.check (shape : Shape) (value : Value) : Checked Value :=
  match shape with
  | .single scalar => (scalar.read value).mapError fun refusal => [⟨[], refusal⟩]
  | .group kind members =>
    match value with
    | .mapping entries => (collect (memberChecks members entries)).map .record
    | _ => .error [⟨[], .noGroup kind⟩]
  | .other kind => kind.check value
termination_by structural shape

/-- The members of a group, by name. A default of theirs is taken as it is. -/
def memberChecks (members : List Member) (entries : Entries) : List (String × Checked Value) :=
  match members with
  | [] => []
  | .mk name shape default :: rest =>
    (name, within name (settle (Value.find? name entries) default shape.check .ok)) ::
      memberChecks rest entries
termination_by structural members

end

/-- The default of a setting. Only that of a group, which is such a group, is taken as it is. -/
def Shape.checkDefault (shape : Shape) (default : Value) : Checked Value :=
  match shape with
  | .single _ | .other _ => shape.check default
  | .group _ _ => .ok default

/-- The value of a setting among those that were gathered. -/
def Field.check (field : Field) (gathered : Entries) : Checked Value :=
  within field.entry (settle (Value.find? field.entry gathered) field.default field.shape.check
    field.shape.checkDefault)

/-- The settings among the values that were gathered, by name. -/
def Schema.checks (schema : Schema) (gathered : Entries) : List (String × Checked Value) :=
  schema.fields.map fun field => (field.name, field.check gathered)

/-- The settings of a schema. Their rule is asked only if each of them is fine. -/
def Schema.check (schema : Schema) (gathered : Entries) : Checked (List (String × Value)) := do
  let values ← collect (schema.checks gathered)
  match schema.rule values with
  | some message => .error [⟨[], .rule message⟩]
  | none => return values

/-! ## Reports -/

/-- The variable that the report names for a location, from its first name on. -/
def Schema.reportedName (schema : Schema) (first : String) (rest : List String) : String :=
  let isName := schema.fields.any fun field => field.name == first
  let variableName :=
    if isName then schema.stem ++ Text.toUpper first else Text.toUpper first
  String.intercalate schema.joint ((variableName :: rest).map Text.toUpper)

/-- A problem on a line of its own. -/
def Schema.line (schema : Schema) (problem : Problem) : String :=
  match problem.location with
  | first :: rest =>
    "\n  " ++ schema.reportedName first rest ++ ":  " ++ problem.refusal.message
  | [] => "\n  " ++ problem.refusal.message

/-- The report on problems. -/
def Schema.report (schema : Schema) (problems : List Problem) : String :=
  "Error loading settings from environment:" ++ String.join (problems.map schema.line)

end BoardSearch.Settings
