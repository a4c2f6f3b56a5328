import BoardSearch.Text.Digit

/-!
# Message templates

A template is a text with directives, which begin with a percent sign and say
where and how an argument is to be written.

## Main definitions

* `Template.Directive`: a directive;
* `Template.Piece`: what a template is made of;
* `Template.pieces`: the pieces of a text.

## Design notes

A directive is a percent sign, perhaps the key of an entry in parentheses, flags,
a width, a precision after a point, a letter of no meaning, and the letter of the
conversion. Pieces are read without regard to the arguments; what is wrong with
a template shows when the piece with the fault is reached.
-/

namespace BoardSearch.Template

/-- A width or a precision. -/
inductive Measure where
  | given (n : Nat)
  /-- The next argument is the measure. -/
  | argument
deriving DecidableEq

/-- The flags of a directive. -/
structure Flags where
  /-- The text stands at the left of its field. -/
  left : Bool
  /-- A number that is not negative has a plus sign. -/
  plus : Bool
  /-- A number that is not negative has a blank for a sign. -/
  blank : Bool
  /-- A number shows its base or its point. -/
  marked : Bool
  /-- A number fills its field with zeros. -/
  zero : Bool
deriving DecidableEq

/-- How an argument is to be written. -/
structure Directive where
  /-- The entry of a mapping that is written. -/
  key : Option String
  flags : Flags
  width : Option Measure
  precision : Option Measure
  /-- The letter of the conversion; `none` at the end of the template. -/
  conversion : Option Char
  /-- Where the letter stands in the template. -/
  index : Nat
deriving DecidableEq

/-- A piece of a template. -/
inductive Piece where
  /-- A character that stands for itself. -/
  | literal (c : Char)
  | directive (d : Directive)
  /-- A key without a closing parenthesis. Nothing follows it. -/
  | openKey
deriving DecidableEq

/-- A character in front of what was read. -/
def precede (c : Char) (read : List Char × List Char) : List Char × List Char :=
  (c :: read.1, read.2)

/-- A key up to the parenthesis that closes it, and what follows. There are `depth`
open parentheses inside of the key. -/
def readKey? (depth : Nat) : List Char → Option (List Char × List Char)
  | [] => none
  | c :: rest =>
    if c = ')' then
      match depth with
      | 0 => some ([], rest)
      | depth + 1 => (readKey? depth rest).map (precede c)
    else if c = '(' then (readKey? (depth + 1) rest).map (precede c)
    else (readKey? depth rest).map (precede c)

/-- A character that is a flag. -/
def isFlag (c : Char) : Bool := "-+ #0".toList.contains c

/-- The flags that characters stand for. -/
def Flags.ofChars (chars : List Char) : Flags :=
  ⟨chars.contains '-', chars.contains '+', chars.contains ' ', chars.contains '#',
    chars.contains '0'⟩

/-- A measure, if there is one, and what follows. -/
def readMeasure : List Char → Option Measure × List Char
  | '*' :: rest => (some .argument, rest)
  | text =>
    let (digits, rest) := text.span Text.isPlainDigit
    if digits.isEmpty then (none, rest)
    else (some (.given (Text.positional (digits.map fun c => c.toNat - '0'.toNat))), rest)

/-- A precision, which is zero when nothing follows the point, and what follows. -/
def readPrecision : List Char → Option Measure × List Char
  | '.' :: rest =>
    let (measure, rest) := readMeasure rest
    (some (measure.getD (.given 0)), rest)
  | text => (none, text)

/-- What follows a letter that tells the size of a number, which has no meaning. -/
def skipSize : List Char → List Char
  | c :: rest => if c = 'h' || c = 'l' || c = 'L' then rest else c :: rest
  | [] => []

/-- A directive from its flags on, in a template of so many characters, and what follows it. -/
def readDirective (length : Nat) (key : Option String) (text : List Char) :
    Directive × List Char :=
  let (flags, rest) := text.span isFlag
  let (width, rest) := readMeasure rest
  let (precision, rest) := readPrecision rest
  let rest := skipSize rest
  (⟨key, .ofChars flags, width, precision, rest.head?, length - rest.length⟩, rest.drop 1)

/-- The pieces of the rest of a template of so many characters, at most `fuel` of them. -/
def piecesFrom (length : Nat) : Nat → List Char → List Piece
  | 0, _ => []
  | _ + 1, [] => []
  | fuel + 1, '%' :: '%' :: rest => .literal '%' :: piecesFrom length fuel rest
  | fuel + 1, '%' :: '(' :: rest =>
    match readKey? 0 rest with
    | none => [.openKey]
    | some (key, rest) =>
      let (directive, rest) := readDirective length (some (String.ofList key)) rest
      .directive directive :: piecesFrom length fuel rest
  | fuel + 1, '%' :: rest =>
    let (directive, rest) := readDirective length none rest
    .directive directive :: piecesFrom length fuel rest
  | fuel + 1, c :: rest => .literal c :: piecesFrom length fuel rest

/-- The pieces of a template. -/
def pieces (template : String) : List Piece :=
  let chars := template.toList
  piecesFrom chars.length chars.length chars

end BoardSearch.Template
