import BoardSearch.Keyed
import BoardSearch.Text.Blank
import BoardSearch.Text.Line

/-!
# Settings files

A settings file has a name and a value on each line. Values can be quoted, then
they may hold escapes and line breaks, and lines can end in a comment. A value may
refer to variables of the environment and to earlier lines.

## Main definitions

* `Dotenv.Binding`: a name with a value, or without one;
* `Dotenv.bindings`: the bindings of a text;
* `Dotenv.expanded`: a value with its references replaced;
* `Dotenv.read`: the variables that a text sets.

## Design notes

A line that cannot be read is passed over from the place where it cannot. A file
is read with line feeds for all its line breaks.
-/

namespace BoardSearch.Dotenv

/-- A name with a value; a line without an equals sign has none. -/
structure Binding where
  name : String
  value : Option String
deriving DecidableEq

/-- A blank other than a line feed. -/
def isLineBlank (c : Char) : Bool := Text.isBlank c && c != '\n'

/-- A text without the blanks of a line that it begins with. -/
def skipLineBlanks (text : List Char) : List Char := text.dropWhile isLineBlank

/-- The rest of a text after the line it begins with. -/
def skipLine (text : List Char) : List Char := (text.dropWhile (· != '\n')).drop 1

/-- The word that a line may begin with, which says that a variable is handed on. -/
def exportWord : List Char := ['e', 'x', 'p', 'o', 'r', 't']

/-- A line without that word and the blanks behind it. -/
def skipExport (text : List Char) : List Char :=
  if exportWord.isPrefixOf text then
    let rest := text.drop exportWord.length
    if (skipLineBlanks rest).length < rest.length then skipLineBlanks rest else text
  else text

/-- A character of a name that is not quoted. -/
def isNameChar (c : Char) : Bool := c != '=' && c != '#' && !Text.isBlank c

/-- A name and what follows it, or none where a comment stands in its place. A name
has at least one character. On failure the text is given back. -/
def readName (text : List Char) : Except (List Char) (Option String × List Char) :=
  match text with
  | '#' :: _ => .ok (none, text)
  | '\'' :: rest =>
    match rest.span (· != '\'') with
    | ([], _) | (_, []) => .error text
    | (name, _ :: after) => .ok (some (String.ofList name), after)
  | _ =>
    match text.span isNameChar with
    | ([], _) => .error text
    | (name, after) => .ok (some (String.ofList name), after)

/-- The text up to a closing quote, and what follows. A character behind a backslash
belongs to it and does not close. -/
def readQuoted? (quote : Char) : List Char → Option (List Char × List Char)
  | [] => none
  | '\\' :: d :: rest => (readQuoted? quote rest).map fun read => ('\\' :: d :: read.1, read.2)
  | c :: rest =>
    if c = quote then some ([], rest)
    else (readQuoted? quote rest).map fun read => (c :: read.1, read.2)

/-- The character of an escape in a value between double quotes. -/
def escapedChar? (c : Char) : Option Char :=
  match c with
  | '\\' | '\'' | '"' => some c
  | 'a' => some '\x07'
  | 'b' => some '\x08'
  | 'f' => some '\x0c'
  | 'n' => some '\n'
  | 'r' => some '\r'
  | 't' => some '\t'
  | 'v' => some '\x0b'
  | _ => none

/-- The character of an escape in a value between single quotes. -/
def escapedPlain? (c : Char) : Option Char :=
  if c = '\\' || c = '\'' then some c else none

/-- A value with its escapes replaced; other backslashes stay. -/
def unescape (escaped? : Char → Option Char) : List Char → List Char
  | '\\' :: c :: rest =>
    match escaped? c with
    | some c => c :: unescape escaped? rest
    | none => '\\' :: unescape escaped? (c :: rest)
  | c :: rest => c :: unescape escaped? rest
  | [] => []

/-- A comment begins here: blanks, and a number sign. -/
def beginsComment (text : List Char) : Bool :=
  match text with
  | c :: _ => Text.isBlank c && (text.dropWhile Text.isBlank).head? == some '#'
  | [] => false

/-- A value without the comment behind it. -/
def withoutComment : List Char → List Char
  | [] => []
  | c :: rest => if beginsComment (c :: rest) then [] else c :: withoutComment rest

/-- A value that is not quoted: the rest of the line, without a comment and without the
blanks at its ends. -/
def plainValue (line : List Char) : List Char := Text.strip Text.isBlank (withoutComment line)

/-- A value and what follows it. The blanks in front of a value belong to a comment
that stands in its place. -/
def readValue (text : List Char) : Except (List Char) (String × List Char) :=
  let value := skipLineBlanks text
  let quoted := fun quote escaped? rest =>
    match readQuoted? quote rest with
    | some (read, after) => .ok (String.ofList (unescape escaped? read), after)
    | none => .error value
  match value with
  | '\'' :: rest => quoted '\'' escapedPlain? rest
  | '"' :: rest => quoted '"' escapedChar? rest
  | _ =>
    let (line, rest) := text.span (· != '\n')
    .ok (String.ofList (plainValue line), rest)

/-- A text without the comment that it may begin with. -/
def skipComment (text : List Char) : List Char :=
  match skipLineBlanks text with
  | '#' :: rest => rest.dropWhile (· != '\n')
  | _ => text

/-- What follows the end of a line, where nothing but blanks stands before it. -/
def readLineEnd (text : List Char) : Except (List Char) (List Char) :=
  match skipLineBlanks text with
  | [] => .ok []
  | '\n' :: rest => .ok rest
  | _ => .error text

/-- A value behind an equals sign, if there is one, and what follows. -/
def readAssigned (text : List Char) : Except (List Char) (Option String × List Char) :=
  match skipLineBlanks text with
  | '=' :: rest => (readValue rest).map fun read => (some read.1, read.2)
  | rest => .ok (none, rest)

/-- A binding, if the line has one, and the lines that follow. -/
def readBinding (text : List Char) : Except (List Char) (Option Binding × List Char) := do
  let (name, rest) ← readName (skipExport text)
  let (value, rest) ← readAssigned rest
  let rest ← readLineEnd (skipComment rest)
  return (name.map fun name => ⟨name, value⟩, rest)

/-- The bindings of at most `fuel` lines. -/
def bindingsFrom : Nat → List Char → List Binding
  | 0, _ => []
  | fuel + 1, text =>
    match text.dropWhile Text.isBlank with
    | [] => []
    | text =>
      match readBinding text with
      | .ok (binding, rest) => binding.toList ++ bindingsFrom fuel rest
      | .error rest => bindingsFrom fuel (skipLine rest)

/-- A text without the mark of its byte order. -/
def withoutMark : List Char → List Char
  | '\ufeff' :: rest => rest
  | text => text

/-- The bindings of a text. -/
def bindings (text : String) : List Binding :=
  let chars := withoutMark (Text.withLineFeeds text).toList
  bindingsFrom (chars.length + 1) chars

/-! ## References -/

/-- A reference to a variable, with what stands for it where there is none. -/
structure Reference where
  name : String
  default : String

/-- The reference whose opening brace has been read, and what follows it. -/
def readReference? (text : List Char) : Option (Reference × List Char) :=
  match text.span fun c => c != '\x7d' && c != ':' with
  | (name, '\x7d' :: rest) => some (⟨String.ofList name, ""⟩, rest)
  | (name, ':' :: '-' :: rest) =>
    match rest.span (· != '\x7d') with
    | (default, _ :: after) => some (⟨String.ofList name, String.ofList default⟩, after)
    | (_, []) => none
  | _ => none

/-- What a reference stands for. A variable without a value is empty. -/
def Reference.resolve (reference : Reference) (known : List (String × Option String)) :
    String :=
  match Keyed.find? reference.name known with
  | some value => value.getD ""
  | none => reference.default

/-- A value of at most `fuel` characters with its references replaced. -/
def expandFrom (known : List (String × Option String)) : Nat → List Char → List Char
  | 0, _ => []
  | _ + 1, [] => []
  | fuel + 1, '$' :: '\x7b' :: rest =>
    match readReference? rest with
    | some (reference, after) =>
      (reference.resolve known).toList ++ expandFrom known fuel after
    | none => '$' :: expandFrom known fuel ('\x7b' :: rest)
  | fuel + 1, c :: rest => c :: expandFrom known fuel rest

/-- A value with its references replaced. -/
def expanded (known : List (String × Option String)) (value : String) : String :=
  String.ofList (expandFrom known (value.length + 1) value.toList)

/-- The variables with those of one more binding. -/
def bind (environment : List (String × String)) (built : List (String × Option String))
    (binding : Binding) : List (String × Option String) :=
  let surroundings := environment.map fun entry => (entry.1, some entry.2)
  let known := Keyed.ofEntries (surroundings ++ built)
  Keyed.put binding.name (binding.value.map (expanded known)) built

/-- The variables that a text sets, in an environment that its values may refer to. -/
def read (environment : List (String × String)) (text : String) :
    List (String × Option String) :=
  (bindings text).foldl (bind environment) []

end BoardSearch.Dotenv
