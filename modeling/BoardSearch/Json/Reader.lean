import BoardSearch.Json.Basic
import BoardSearch.Text.Numeral

/-!
# Reading JSON

A reader of JSON texts that also knows the words `NaN`, `Infinity` and
`-Infinity`. A fault is reported with the line, the column and the offset of the
character at which the reader gave up.

## Main definitions

* `Json.Fault`: what a text can lack or hold amiss;
* `Json.ReadError`: a fault with its place, or a numeral that is too long;
* `Json.read`: the document that a text holds.

## Design notes

Nested documents are read with a bound on the nesting that the length of the
text always meets; a machine on which calls cannot be nested as deep as that is
none of the reader's concern. Later members of an object replace earlier ones of
the same name. A text is a row of characters, and half of a pair of units is none:
by itself it is replaced by U+FFFD, so that two names which differ in such halves
alone become one.
-/

namespace BoardSearch.Json

/-- What is wrong with a text. -/
inductive Fault where
  | expectedValue
  | expectedComma
  | expectedColon
  | expectedName
  | controlCharacter
  | unterminatedText
  | unknownEscape
  | unfinishedUnit
  | extraData
  | byteOrderMark
deriving DecidableEq

/-- The wording of a fault. -/
def Fault.message : Fault → String
  | expectedValue => "Expecting value"
  | expectedComma => "Expecting ',' delimiter"
  | expectedColon => "Expecting ':' delimiter"
  | expectedName => "Expecting property name enclosed in double quotes"
  | controlCharacter => "Invalid control character at"
  | unterminatedText => "Unterminated string starting at"
  | unknownEscape => "Invalid \\escape"
  | unfinishedUnit => "Invalid \\uXXXX escape"
  | extraData => "Extra data"
  | byteOrderMark => "Unexpected UTF-8 BOM (decode using utf-8-sig)"

/-- A place in a text. Lines and columns are counted from 1, offsets from 0. -/
structure Place where
  line : Nat
  column : Nat
  offset : Nat
deriving DecidableEq

/-- The place after the first `offset` characters of a text. -/
def Place.of (text : List Char) (offset : Nat) : Place :=
  let before := text.take offset
  ⟨before.count '\n' + 1, (before.reverse.takeWhile (· != '\n')).length + 1, offset⟩

/-- Why a text holds no document. -/
inductive ReadError where
  /-- The text is no JSON text. -/
  | malformed (fault : Fault) (place : Place)
  /-- An integer has too many digits. -/
  | numeral (reason : Text.NumeralError)
deriving DecidableEq

/-- The wording of a refused text. -/
def ReadError.message : ReadError → String
  | malformed fault place =>
    fault.message ++ ": line " ++ toString place.line ++ " column " ++ toString place.column
      ++ " (char " ++ toString place.offset ++ ")"
  | numeral reason => reason.message

/-- What stops the reader: a fault, with the text from the place of the fault on,
or a numeral. -/
inductive Obstacle where
  | fault (fault : Fault) (rest : List Char)
  | numeral (reason : Text.NumeralError)

/-- What was read, with the text after it, or what stopped the reader. -/
abbrev Reading (α : Type) := Except Obstacle (α × List Char)

/-- The four blanks of JSON texts. -/
def isBlank (c : Char) : Bool := c == ' ' || c == '\t' || c == '\n' || c == '\r'

/-- The value of a digit in base sixteen. -/
def hexValue? (c : Char) : Option Nat :=
  if '0' ≤ c && c ≤ '9' then some (c.toNat - '0'.toNat)
  else if 'a' ≤ c && c ≤ 'f' then some (c.toNat - 'a'.toNat + 10)
  else if 'A' ≤ c && c ≤ 'F' then some (c.toNat - 'A'.toNat + 10)
  else none

/-- The unit that four digits in base sixteen stand for. -/
def unit? (a b c d : Char) : Option Nat := do
  let a ← hexValue? a
  let b ← hexValue? b
  let c ← hexValue? c
  let d ← hexValue? d
  return ((a * 16 + b) * 16 + c) * 16 + d

/-- The first half of a pair of units. -/
def isHighHalf (unit : Nat) : Bool := 0xD800 ≤ unit && unit < 0xDC00

/-- The second half of a pair of units. -/
def isLowHalf (unit : Nat) : Bool := 0xDC00 ≤ unit && unit < 0xE000

/-- The character of a unit; half of a pair by itself is no character and is replaced. -/
def charOfUnit (unit : Nat) : Char :=
  if isHighHalf unit || isLowHalf unit then '\ufffd' else Char.ofNat unit

/-- The character of a pair of units. -/
def charOfPair (high low : Nat) : Char :=
  Char.ofNat (0x10000 + (high - 0xD800) * 0x400 + (low - 0xDC00))

/-- The characters of code points among which pairs of units still stand apart. -/
def joinPairs : List Nat → List Char
  | [] => []
  | [unit] => [charOfUnit unit]
  | high :: low :: rest =>
    if isHighHalf high && isLowHalf low then charOfPair high low :: joinPairs rest
    else charOfUnit high :: joinPairs (low :: rest)

/-- The character of an escape with one letter. -/
def plainEscape? (c : Char) : Option Char :=
  match c with
  | '"' => some '"'
  | '\\' => some '\\'
  | '/' => some '/'
  | 'b' => some '\x08'
  | 'f' => some '\x0c'
  | 'n' => some '\n'
  | 'r' => some '\r'
  | 't' => some '\t'
  | _ => none

/-- A code point in front of what was read. -/
def precede (unit : Nat) (reading : Reading (List Nat)) : Reading (List Nat) :=
  reading.map fun read => (unit :: read.1, read.2)

/-- The code points of a text up to its closing quote. `opening` is the text from
the opening quote on. An escaped unit must be followed by another character. -/
def readUnits (opening : List Char) : List Char → Reading (List Nat)
  | [] => .error (.fault .unterminatedText opening)
  | '"' :: rest => .ok ([], rest)
  | ['\\'] => .error (.fault .unterminatedText opening)
  | '\\' :: 'u' :: a :: b :: c :: d :: rest =>
    match unit? a b c d, rest.isEmpty with
    | some unit, false => precede unit (readUnits opening rest)
    | _, _ => .error (.fault .unfinishedUnit ('u' :: a :: b :: c :: d :: rest))
  | '\\' :: c :: rest =>
    if c = 'u' then .error (.fault .unfinishedUnit (c :: rest))
    else match plainEscape? c with
      | some c => precede c.toNat (readUnits opening rest)
      | none => .error (.fault .unknownEscape ('\\' :: c :: rest))
  | c :: rest =>
    if c.toNat < 0x20 then .error (.fault .controlCharacter (c :: rest))
    else precede c.toNat (readUnits opening rest)

/-- A text whose opening quote is the first character of `opening`. -/
def readText (opening : List Char) : Reading String :=
  (readUnits opening (opening.drop 1)).map fun read =>
    (String.ofList (joinPairs read.1), read.2)

/-- The ASCII digits that a text begins with, and what follows. -/
def spanPlainDigits (text : List Char) : List Char × List Char := text.span Text.isPlainDigit

/-- The value of ASCII digits. -/
def plainValue (digits : List Char) : Nat :=
  Text.positional (digits.map fun c => c.toNat - '0'.toNat)

/-- The digits after a decimal point, if there are any, and what follows. -/
def readFraction : List Char → Option (List Char) × List Char
  | '.' :: c :: rest =>
    if Text.isPlainDigit c then
      let (digits, after) := spanPlainDigits (c :: rest)
      (some digits, after)
    else (none, '.' :: c :: rest)
  | rest => (none, rest)

/-- An exponent with at least one digit, if there is one, and what follows. -/
def readExponent : List Char → Option Int × List Char
  | e :: rest =>
    if e = 'e' || e = 'E' then
      let (sign, unsigned) := Text.spanSign rest
      let (digits, after) := spanPlainDigits unsigned
      if digits.isEmpty then (none, e :: rest)
      else (some ((sign.getD .plus).apply (plainValue digits)), after)
    else (none, e :: rest)
  | [] => (none, [])

/-- The digits before the point: a zero by itself, or digits that do not begin with one. -/
def readWhole : List Char → Option (List Char × List Char)
  | '0' :: rest => some (['0'], rest)
  | unsigned =>
    let (digits, rest) := spanPlainDigits unsigned
    if digits.isEmpty then none else some (digits, rest)

/-- A number: an integer unless it has a fraction or an exponent. -/
def readNumber (text : List Char) : Reading Json :=
  let (negative, unsigned) := match text with
    | '-' :: rest => (true, rest)
    | rest => (false, rest)
  match readWhole unsigned with
  | none => .error (.fault .expectedValue text)
  | some (whole, rest) =>
    let (fraction, rest) := readFraction rest
    let (exponent, rest) := readExponent rest
    match fraction, exponent with
    | none, none =>
      if Text.maxDigits < whole.length then .error (.numeral (.tooLong whole.length))
      else .ok (.int (Binary64.signed negative (plainValue whole)), rest)
    | _, _ =>
      let fraction := fraction.getD []
      let digits := plainValue (whole ++ fraction)
      .ok (.float (.ofDecimal negative digits (exponent.getD 0 - fraction.length)), rest)

/-- The words that stand for a document by themselves. -/
def words : List (List Char × Json) :=
  [(['n', 'u', 'l', 'l'], .null), (['t', 'r', 'u', 'e'], .bool true),
    (['f', 'a', 'l', 's', 'e'], .bool false), (['N', 'a', 'N'], .float .nan),
    (['I', 'n', 'f', 'i', 'n', 'i', 't', 'y'], .float (.infinite false)),
    (['-', 'I', 'n', 'f', 'i', 'n', 'i', 't', 'y'], .float (.infinite true))]

/-- A word or a number. -/
def readScalar (text : List Char) : Reading Json :=
  match words.find? fun word => word.1.isPrefixOf text with
  | some (word, document) => .ok (document, text.drop word.length)
  | none => readNumber text

mutual

/-- A document at the beginning of a text. `depth` bounds the calls. -/
def readDocument (depth : Nat) (text : List Char) : Reading Json :=
  match depth with
  | 0 => .error (.fault .expectedValue text)
  | depth + 1 =>
    match text with
    | '"' :: _ => (readText text).map fun read => (.text read.1, read.2)
    | '[' :: rest =>
      match rest.dropWhile isBlank with
      | ']' :: after => .ok (.array [], after)
      | items => (readItems depth items).map fun read => (.array read.1, read.2)
    | '\x7b' :: rest =>
      match rest.dropWhile isBlank with
      | '\x7d' :: after => .ok (.object [], after)
      | members => (readMembers depth members).map fun read =>
        (.object (Keyed.ofEntries read.1), read.2)
    | _ => readScalar text

/-- The items of an array from the first or the next one to the closing bracket. -/
def readItems (depth : Nat) (text : List Char) :
    Except Obstacle (List Json × List Char) :=
  match depth with
  | 0 => .error (.fault .expectedValue text)
  | depth + 1 => do
    let (item, rest) ← readDocument depth text
    match rest.dropWhile isBlank with
    | ']' :: after => return ([item], after)
    | ',' :: more =>
      let (items, after) ← readItems depth (more.dropWhile isBlank)
      return (item :: items, after)
    | rest => .error (.fault .expectedComma rest)

/-- The members of an object from the first or the next one to the closing brace. -/
def readMembers (depth : Nat) (text : List Char) :
    Except Obstacle (List (String × Json) × List Char) :=
  match depth with
  | 0 => .error (.fault .expectedValue text)
  | depth + 1 =>
    match text with
    | '"' :: _ => do
      let (name, rest) ← readText text
      match rest.dropWhile isBlank with
      | ':' :: rest =>
        let (value, rest) ← readDocument depth (rest.dropWhile isBlank)
        match rest.dropWhile isBlank with
        | '\x7d' :: after => return ([(name, value)], after)
        | ',' :: more =>
          let (members, after) ← readMembers depth (more.dropWhile isBlank)
          return ((name, value) :: members, after)
        | rest => .error (.fault .expectedComma rest)
      | rest => .error (.fault .expectedColon rest)
    | _ => .error (.fault .expectedName text)

end

/-- The document that a text holds, with blanks around it at most. -/
def readWholeText (text : List Char) : Except Obstacle Json := do
  let (document, rest) ← readDocument (2 * text.length + 1) (text.dropWhile isBlank)
  match rest.dropWhile isBlank with
  | [] => return document
  | rest => .error (.fault .extraData rest)

/-- The document that a text holds. -/
def read (text : String) : Except ReadError Json :=
  let chars := text.toList
  let placed := fun fault (rest : List Char) =>
    ReadError.malformed fault (.of chars (chars.length - rest.length))
  match chars with
  | '\ufeff' :: _ => .error (placed .byteOrderMark chars)
  | _ =>
    match readWholeText chars with
    | .ok document => .ok document
    | .error (.fault fault rest) => .error (placed fault rest)
    | .error (.numeral reason) => .error (.numeral reason)

end BoardSearch.Json
