import BoardSearch.Settings.Scalar
import BoardSearch.Text.Case

/-!
# Schemas of settings

A schema lists the settings of a service. Each has a name, by which the program
sets it, and a variable, by which the environment and the settings file do.

## Main definitions

* `Settings.Form`: how the text of a variable is read;
* `Settings.Kind`: a kind of values that a service declares for itself;
* `Settings.Shape`: a single value, a group of settings, which may be groups again, or a value
  of another kind;
* `Settings.Member`: a setting within a group;
* `Settings.Field`: a setting;
* `Settings.Naming`: how the variables of a service are named;
* `Settings.Schema`: the settings of a service, with a rule for them as a whole;
* `Settings.Shape.formAt`: how the text of a variable for a part of a setting is read;
* `Settings.Field.variableName`: the variable of a setting.

## Design notes

Single values and groups are checked here. Lists, mappings, unions, and whatever else a service
declares for its settings, are kinds: a kind brings its own check, of which no more is asked than
that it gives values of the kind alone, and that it refuses a value with a problem or several, at
different places.
-/

namespace BoardSearch.Settings

/-- How the text of a variable is read. -/
inductive Form where
  /-- As it is. -/
  | plain
  /-- As a JSON text. -/
  | document
  /-- As a JSON text, or else as it is. -/
  | lenient
deriving DecidableEq

/-- A kind of values that a service declares for itself. -/
structure Kind where
  /-- How the text of a variable is read, by the path of the part that the variable is for. -/
  form : List String → Form
  /-- A mapping from variables under the names that the kind has for its entries. -/
  named : Value → Value
  /-- The values of the kind. -/
  Admits : Value → Prop
  /-- A value of any form as one of the kind, or the problems with it and its parts. -/
  check : Value → Checked Value
  admits_check : ∀ {value result : Value}, check value = .ok result → Admits result
  ne_nil_of_check : ∀ {value : Value} {problems : List Problem},
    check value = .error problems → problems ≠ []
  nodup_of_check : ∀ {value : Value} {problems : List Problem},
    check value = .error problems → (problems.map (·.location)).Nodup

mutual

/-- What a setting holds. -/
inductive Shape where
  | single (scalar : Scalar)
  /-- Several settings, under the name of their kind. -/
  | group (kind : String) (members : List Member)
  | other (kind : Kind)

/-- A setting within a group: its name, what it holds, and its default. -/
inductive Member where
  | mk (name : String) (shape : Shape) (default : Option Value)

end

namespace Shape

/-- A single integer above zero. -/
def positive : Shape := .single .positive

/-- A single text, perhaps without the blanks at its ends. -/
def text (stripped : Bool) : Shape := .single (.text stripped)

end Shape

namespace Member

def name : Member → String
  | mk name _ _ => name

def shape : Member → Shape
  | mk _ shape _ => shape

def default : Member → Option Value
  | mk _ _ default => default

/-- The member of a name in letters of either case. -/
def named? (members : List Member) (name : String) : Option Member :=
  members.find? fun member => Text.toLower member.name == Text.toLower name

end Member

/-- How the text of a variable is read for what lies at the end of a path. -/
def Shape.formAt : Shape → List String → Form
  | .single _, _ => .plain
  | .other kind, path => kind.form path
  | .group _ _, [] => .document
  | .group _ members, name :: path =>
    match Member.named? members name with
    | some member => member.shape.formAt path
    | none => .plain

/-- A setting. -/
structure Field where
  name : String
  /-- The other name that it is read under, which is also its variable. -/
  otherName : Option String
  shape : Shape
  default : Option Value

/-- How the variables of a service are named. -/
structure Naming where
  /-- What the names of variables begin with. -/
  stem : String
  /-- What stands between the parts of a variable for a part of a setting. Without it there are
  no such variables. -/
  delimiter? : Option String := some "__"

/-- What stands between the names in the variable of a report. -/
def Naming.joint (naming : Naming) : String :=
  match naming.delimiter? with
  | some delimiter => if delimiter.isEmpty then "__" else delimiter
  | none => "__"

/-- The settings of a service. -/
structure Schema extends Naming where
  fields : List Field
  /-- What is wrong with settings that are fine one by one. -/
  rule : List (String × Value) → Option String

namespace Field

/-- The name under which a setting is found among values. -/
def entry (field : Field) : String := field.otherName.getD field.name

/-- The variable of a setting in capital letters, for a stem. -/
def variableName (field : Field) (stem : String) : String :=
  Text.toUpper (field.otherName.getD (stem ++ field.name))

/-- The variable as it is looked for, without regard to case. -/
def lookupName (field : Field) (stem : String) : String :=
  Text.toLower (field.otherName.getD (stem ++ field.name))

end Field

end BoardSearch.Settings
