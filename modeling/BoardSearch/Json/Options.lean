import BoardSearch.Json.Document
import BoardSearch.Value.Same

/-!
# Options of writing

What a caller asks of the JSON text of a value, by the names of options. A value
of any kind can turn an option on, and an option that is not named keeps its
default. The spaces after separators are left out where lines are broken, unless
the separators are given.

## Main definitions

* `Json.Options`: options by name;
* `Json.Options.choices`: what they say about a document;
* `Value.serializeWith`: the JSON text of a value under options.

## Design notes

A text by itself has no lines to indent. Its indentation is not looked at, and an
indentation that makes no sense is no failure there.
-/

namespace BoardSearch

/-- Options of writing, by name. -/
abbrev Json.Options := List (String × Value)

namespace Json.Options

/-- The names of the options. -/
def names : List String :=
  ["skipkeys", "ensure_ascii", "check_circular", "allow_nan", "indent", "separators",
    "sort_keys"]

/-- An option that is on or off. -/
def isOn (options : Options) (name : String) (default : Bool) : Bool :=
  ((Keyed.find? name options).map Value.truthy).getD default

/-- What a level of nesting is indented by: a text, or a number of spaces. -/
def indent? (options : Options) : Except Failure (Option String) :=
  match Keyed.find? "indent" options with
  | none | some .null => .ok none
  | some (.text s) => .ok (some s)
  | some (.int n) => (indentation n).map some
  | some (.bool b) => (indentation (if b then 1 else 0)).map some
  | some _ => .error .mistyped

/-- The separators of items and of names, given that lines are broken or not. -/
def separators (options : Options) (broken : Bool) : Except Failure (String × String) :=
  match Keyed.find? "separators" options with
  | none | some .null => .ok (if broken then "," else ", ", ": ")
  | some value =>
    match value.items? with
    | some [.text items, .text names] => .ok (items, names)
    | _ => .error .mistyped

/-- What the options say about a document. -/
def choices (options : Options) : Except Failure Choices := do
  if options.any fun option => !names.contains option.1 then throw .mistyped
  let indent ← options.indent?
  let (items, names) ← options.separators indent.isSome
  return ⟨⟨indent, items, names, options.isOn "ensure_ascii" true⟩,
    options.isOn "skipkeys" false, options.isOn "sort_keys" false,
    options.isOn "allow_nan" true⟩

end Json.Options

/-- The JSON text of a value under options. -/
def Value.serializeWith (options : Json.Options) (value : Value) : Except Failure String := do
  let options : Json.Options :=
    if value.asText?.isSome then Keyed.remove "indent" options else options
  value.serialize (← options.choices)

/-- A text is written without a look at the indentation. -/
theorem Value.serializeWith_text (options : Json.Options) (s : String) (indent : Value) :
    (Value.text s).serializeWith (("indent", indent) :: options)
      = (Value.text s).serializeWith options := by
  simp [Value.serializeWith, Value.asText?, Keyed.remove]

end BoardSearch
