import BoardSearch.Failure
import BoardSearch.Json.Document
import BoardSearch.Json.Reader
import BoardSearch.Settings.Checking
import BoardSearch.Settings.Dotenv

/-!
# Loading settings

Settings come from the program itself, from variables of the environment, and from
a settings file, in this order; a setting that comes from none of them has its
default. Groups are merged member by member. A variable for a group holds a JSON text, and so
may those for other kinds of values.

## Main definitions

* `Settings.Sources`: where settings come from;
* `Settings.overlay`: a value laid over another one;
* `Settings.Schema.gather`: what the sources say about the settings of a schema;
* `Settings.load`: the settings of a service.
-/

namespace BoardSearch.Settings

/-- Where settings come from. -/
structure Sources where
  /-- What the program sets, by name. -/
  arguments : List (String × Value)
  environment : List (String × String)
  /-- The text of the settings file. -/
  file : Option String

/-- No sources, so that every setting has its default. -/
def Sources.nothing : Sources := ⟨[], [], none⟩

/-! ## Merging -/

mutual

/-- What results where a value is laid over another one: mappings are merged, and
anything else is replaced. -/
def overlay (below : Option Value) (above : Value) : Value :=
  match above with
  | .mapping entries =>
    match below with
    | some (.mapping present) => .mapping (overlayEntries present entries)
    | _ => .mapping entries
  | above => above
termination_by structural above

/-- The entries of a mapping with those of another one laid over them. -/
def overlayEntries (below : Entries) (above : Entries) : Entries :=
  match above with
  | [] => below
  | (key, value) :: rest =>
    overlayEntries (Keyed.put key (overlay (Keyed.find? key below) value) below) rest
termination_by structural above

end

/-! ## Variables -/

/-- Variables by their names in small letters. One without a value counts as unset. -/
abbrev Variables := List (String × Option String)

/-- Variables with their names in small letters. -/
def lowered (known : Variables) : Variables :=
  Keyed.ofEntries (known.map fun entry => (Text.toLower entry.1, entry.2))

/-- The value of the text of a variable. -/
def Form.read (form : Form) (failure : Failure) (text : String) : Except Failure Value :=
  match form, Json.read text with
  | .plain, _ => .ok (.text text)
  | _, .ok read => .ok read.toValue
  | .document, .error _ => .error failure
  | .lenient, .error _ => .ok (.text text)

/-- The parts of a name between delimiters, behind a number of characters that are left out. -/
def nameParts (delimiter : List Char) : Nat → List Char → List (List Char)
  | _, [] => [[]]
  | skipped + 1, _ :: rest => nameParts delimiter skipped rest
  | 0, c :: rest =>
    if delimiter.isPrefixOf (c :: rest) then
      [] :: nameParts delimiter (delimiter.length - 1) rest
    else
      match nameParts delimiter 0 rest with
      | [] => [[c]]
      | part :: parts => (c :: part) :: parts

/-- Entries with a value at the end of a path. Nothing is put below a value that is
no mapping. -/
def putPath (value : Value) : List String → Entries → Entries
  | [], entries => entries
  | [key], entries => Keyed.put (.text key) value entries
  | key :: rest, entries =>
    match Value.find? key entries with
    | some (.mapping inner) =>
      Keyed.put (.text key) (.mapping (putPath value rest inner)) entries
    | some _ => entries
    | none => Keyed.put (.text key) (.mapping (putPath value rest [])) entries

/-- The rest of a text behind its beginning. -/
def behind? (beginning text : String) : Option String :=
  if beginning.toList.isPrefixOf text.toList then
    some (String.ofList (text.toList.drop beginning.length))
  else none

/-- The path of a variable for a part of a setting, from the name of the setting on. -/
def partPath? (delimiter lookupName variableName : String) : Option (List String) :=
  (behind? (lookupName ++ delimiter) variableName).map fun path =>
    (nameParts delimiter.toList 0 path.toList).map String.ofList

/-- The value of a variable for a part of a setting. The empty text is taken as it is. -/
def partValue (failure : Failure) (form : Form) : Option String → Except Failure Value
  | none => .ok .null
  | some text => if text.isEmpty then .ok (.text text) else form.read failure text

/-- What variables say about the parts of a setting. -/
def partVariables (failure : Failure) (shape : Shape) (delimiter? : Option String)
    (lookupName : String) (known : Variables) : Except Failure Entries :=
  match delimiter?.filter (!·.isEmpty) with
  | none => .ok []
  | some delimiter => known.foldlM (fun entries entry =>
    match partPath? delimiter lookupName entry.1 with
    | some path => do
      return putPath (← partValue failure (shape.formAt path) entry.2) path entries
    | none => return entries) []

mutual

/-- A value whose entries are under the names of the members that they are for. -/
def withMemberNames (shape : Option Shape) (value : Value) : Value :=
  match value with
  | .mapping entries =>
    match shape with
    | some (.group _ members) => .mapping (Keyed.ofEntries (memberEntries members entries))
    | _ => .mapping entries
  | value => value
termination_by structural value

/-- Entries of a group under the names of its members, in the letters of these. -/
def memberEntries (members : List Member) (entries : Entries) : Entries :=
  match entries with
  | [] => []
  | (key, value) :: rest =>
    let found := key.asText?.bind (Member.named? members)
    ((found.map fun member => .text member.name).getD key,
      withMemberNames (found.map (·.shape)) value) :: memberEntries members rest
termination_by structural entries

end

/-- A value from variables, under the names that what a setting holds has for its entries. -/
def Shape.named (shape : Shape) (entries : Entries) : Value :=
  match shape with
  | .other kind => kind.named (.mapping entries)
  | shape => withMemberNames (some shape) (.mapping entries)

/-- The value of a setting that is put together from the variable for it and those for its
parts. -/
def wholeValue (failure : Failure) (shape : Shape) (own : Option String)
    (parts : Except Failure Entries) : Except Failure (Option Value) := do
  match own with
  | none =>
    let entries ← parts
    return if entries.isEmpty then none else some (shape.named entries)
  | some text =>
    match ← (shape.formAt []).read failure text with
    | .mapping entries => return some (shape.named (overlayEntries entries (← parts)))
    | .null => return none
    | value => return some value

/-- What variables say about a setting. -/
def Field.valueFrom (field : Field) (naming : Naming) (source : Failure.SettingsSource)
    (known : Variables) : Except Failure (Option Value) :=
  let lookupName := field.lookupName naming.stem
  let own := (Keyed.find? lookupName known).join
  match field.shape.formAt [] with
  | .plain => .ok (own.map .text)
  | _ =>
    let failure := .unreadableGroup field.name source
    wholeValue failure field.shape own
      (partVariables failure field.shape naming.delimiter? lookupName known)

/-- Entries with a value for a setting, if there is one. -/
def Field.supply (field : Field) (entries : Entries) (value : Option Value) : Entries :=
  match value with
  | some value => Keyed.put (.text field.entry) value entries
  | none => entries

/-- What variables say about the settings of a schema. -/
def Schema.valuesFrom (schema : Schema) (source : Failure.SettingsSource) (known : Variables) :
    Except Failure Entries :=
  schema.fields.foldlM (fun entries field =>
    return field.supply entries (← field.valueFrom schema.toNaming source known)) []

/-- The variables of the environment. -/
def Sources.environmentSettings (sources : Sources) : Variables :=
  lowered (sources.environment.map fun entry => (entry.1, some entry.2))

/-- The variables of the settings file. -/
def Sources.fileSettings (sources : Sources) : Variables :=
  match sources.file with
  | some text => lowered (Dotenv.read sources.environment text)
  | none => []

/-- What the program sets a setting to. It may name the setting in letters of either
case; of several names the exact one counts, and else the last one. -/
def Field.argument? (field : Field) (arguments : List (String × Value)) : Option Value :=
  let alike := arguments.reverse.find? fun entry =>
    Text.toLower entry.1 == Text.toLower field.entry
  (Keyed.find? field.entry arguments).or (alike.map (·.2))

/-- What the program sets the settings of a schema to. -/
def Schema.arguments (schema : Schema) (arguments : List (String × Value)) : Entries :=
  schema.fields.foldl (fun entries field => field.supply entries (field.argument? arguments)) []

/-- What the sources say about the settings of a schema. -/
def Schema.gather (schema : Schema) (sources : Sources) : Except Failure Entries := do
  let environment ← schema.valuesFrom .environment sources.environmentSettings
  let file ← schema.valuesFrom .file sources.fileSettings
  return overlayEntries (overlayEntries file environment) (schema.arguments sources.arguments)

/-- The settings of a service, by name. -/
def load (schema : Schema) (sources : Sources) : Except Failure (List (String × Value)) := do
  (schema.check (← schema.gather sources)).mapError fun problems =>
    .settings (schema.report problems)

end BoardSearch.Settings
