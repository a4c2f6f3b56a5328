import BoardSearch.Number.Places
import BoardSearch.Template.Basic
import BoardSearch.Template.Fault
import BoardSearch.Text.Letter
import BoardSearch.Value.Same
import BoardSearch.Value.Shown
import BoardSearch.Value.Written

/-!
# Filling templates

The text that a template makes of its arguments. The directives take the
arguments one after another, or by their keys if the argument is a mapping, and
every argument of a row has to be taken.

## Main definitions

* `Template.Arguments`: a row of arguments, or one by itself;
* `Template.convert`: the characters a directive writes for an argument;
* `Template.Directive.lay`: those characters in their field;
* `Template.fill`: the text of a template.

## Design notes

That a field has no more than `maxWidth` characters is an assumption about the memory of the
machine, not a rule of templates: a wider one is taken to fail, and what is said about it is not
looked at. A number between 0xD800 and 0xDFFF is half of a pair of units and no character of a
text, so that U+FFFD is written for it.
-/

namespace BoardSearch.Template

/-- What a template is filled with. -/
inductive Arguments where
  | row (items : List Value)
  /-- One argument, whose entries can be asked for if it has any. -/
  | single (value : Value)

/-- The most characters that a field is taken to have room for. -/
def maxWidth : Nat := Nat.pow 2 32

/-- A width is less than this. -/
def widthBound : Nat := Nat.pow 2 63

/-- A precision is less than this. -/
def precisionBound : Nat := Nat.pow 2 31

/-! ## Conversions -/

/-- The sign and the digits of an integer, with zeros in front of them up to the
precision, and with a mark for the base. -/
def integerChars (base : Nat) (mark : List Char) (precision : Nat) (n : Int) : List Char :=
  let digits := Nat.toDigits base n.natAbs
  (if n < 0 then ['-'] else []) ++ mark ++ List.replicate (precision - digits.length) '0' ++ digits

/-- The integer that a conversion to decimal digits writes: a fraction is cut off. -/
def decimalArgument (letter : Char) (value : Value) : Except Fault Int :=
  match value.asInt? with
  | some n => .ok n
  | none =>
    match value with
    | .float x =>
      match x.trunc? with
      | some n => .ok n
      | none => .error (if x = .nan then .notANumber else .infinite)
    | value => .error (.noNumber letter value.kindName)

/-- The integer that a conversion to another base writes. -/
def integerArgument (letter : Char) (value : Value) : Except Fault Int :=
  match value.asInt? with
  | some n => .ok n
  | none => .error (.noInteger letter value.kindName)

/-- The number that a conversion to a fraction writes. -/
def realArgument (value : Value) : Except Fault Binary64 :=
  match value.asInt? with
  | some n =>
    match Binary64.ofInt n with
    | .infinite _ => .error .beyondReals
    | x => .ok x
  | none =>
    match value with
    | .float x => .ok x
    | value => .error (.noReal value.kindName)

/-- The character that a value is or has the number of. -/
def characterArgument (value : Value) : Except Fault Char :=
  match value.asText?, value.asInt? with
  | some text, _ =>
    match text.toList with
    | [c] => .ok c
    | _ => .error .noCharacter
  | none, some n =>
    if n < 0 || 0x110000 ≤ n then .error .beyondCharacters
    else if 0xD800 ≤ n && n < 0xE000 then .ok '\ufffd'
    else .ok (Char.ofNat n.toNat)
  | none, none => .error .noCharacter

/-- The first characters of a text, up to the precision. -/
def cut (precision : Option Nat) (text : List Char) : List Char :=
  match precision with
  | some n => text.take n
  | none => text

/-- An integer with a precision. In base ten it may not have too many digits. -/
def writeInteger (base : Nat) (mark : List Char) (precision : Option Nat) (n : Int) :
    Except Fault (List Char) :=
  let precision := precision.getD 0
  if precisionBound ≤ precision + 3 then .error .hugeIntegerPrecision
  else if base = 10 && !Value.isShort n then .error .unwritable
  else .ok (integerChars base mark precision n)

/-- The characters that a directive writes for an argument, and whether they are a number. -/
def convert (flags : Flags) (precision : Option Nat) (letter : Char) (index : Nat)
    (value : Value) : Except Fault (List Char × Bool) :=
  let mark := fun mark : List Char => if flags.marked then mark else []
  let text := fun text : String =>
    if value.hasText then .ok (cut precision text.toList, false) else .error .unwritable
  let integer := fun base mark n => (writeInteger base mark precision n).map (·, true)
  let real := fun (write : Bool → Nat → Binary64 → List Char) =>
    (realArgument value).map fun x => (write flags.marked (precision.getD 6) x, true)
  let capital := fun (written : Except Fault (List Char × Bool)) =>
    written.map fun written => (written.1.map Char.toUpper, written.2)
  match letter with
  | 's' => text value.shown
  | 'r' => text value.quoted
  | 'a' => text (Text.plainEscapes value.quoted)
  | 'd' | 'i' | 'u' => (decimalArgument letter value).bind (integer 10 [])
  | 'o' => (integerArgument letter value).bind (integer 8 (mark ['0', 'o']))
  | 'x' => (integerArgument letter value).bind (integer 16 (mark ['0', 'x']))
  | 'X' => capital ((integerArgument letter value).bind (integer 16 (mark ['0', 'x'])))
  | 'e' => real Binary64.scientific
  | 'E' => capital (real Binary64.scientific)
  | 'f' => real Binary64.fixed
  | 'F' => capital (real Binary64.fixed)
  | 'g' => real Binary64.general
  | 'G' => capital (real Binary64.general)
  | 'c' => (characterArgument value).map fun c => ([c], false)
  | letter => .error (.unknownConversion letter index)

/-! ## Fields -/

/-- A sign in front of a number, and the number without it. -/
def splitSign (flags : Flags) (chars : List Char) : List Char × List Char :=
  match chars with
  | '-' :: rest => (['-'], rest)
  | '+' :: rest => (['+'], rest)
  | rest => (if flags.plus then ['+'] else if flags.blank then [' '] else [], rest)

/-- A number begins with a mark for its base. -/
def hasMark (flags : Flags) (letter : Char) : Bool :=
  flags.marked && (letter == 'x' || letter == 'X' || letter == 'o')

/-- A text in a field of so many characters. -/
def layText (left : Bool) (width : Nat) (chars : List Char) : List Char :=
  let blanks := List.replicate (width - chars.length) ' '
  if left then chars ++ blanks else blanks ++ chars

/-- A number in a field of so many characters. Zeros come behind the sign and the mark. -/
def layNumber (flags : Flags) (letter : Char) (width : Nat) (chars : List Char) : List Char :=
  let (sign, unsigned) := splitSign flags chars
  let mark := if hasMark flags letter then unsigned.take 2 else []
  let head := sign ++ mark
  let digits := unsigned.drop mark.length
  let zeros :=
    if flags.zero && !flags.left then
      List.replicate (width - (head.length + digits.length)) '0'
    else []
  layText flags.left width (head ++ zeros ++ digits)

/-! ## Taking arguments -/

/-- What there is to take arguments from. -/
structure Supply where
  /-- The arguments that have not been taken. -/
  items : List Value
  /-- The argument whose entries can be asked for. -/
  entries : Option Value

/-- The supply before the first directive. -/
def Supply.ofArguments : Arguments → Supply
  | .row items => ⟨items, none⟩
  | .single value =>
    let entries := match value with
      | .mapping _ | .list _ | .bytes _ => some value
      | _ => none
    ⟨[value], entries⟩

/-- The next argument. -/
def Supply.take (supply : Supply) : Except Fault (Value × Supply) :=
  match supply.items with
  | [] => .error .tooFewArguments
  | value :: rest => .ok (value, { supply with items := rest })

/-- The supply in which the entry under a key is the next argument. -/
def Supply.select (supply : Supply) (key : String) : Except Fault Supply :=
  match supply.entries with
  | some (.mapping entries) =>
    match Value.find? key entries with
    | some value => .ok { supply with items := [value] }
    | none => .error (.missingKey key)
  | some (.bytes _) => .error (.numberedEntries "byte")
  | some _ => .error (.numberedEntries "list")
  | none => .error .noMapping

/-- The supply before a directive, which may have a key. -/
def Supply.before (supply : Supply) (key : Option String) : Except Fault Supply :=
  match key with
  | some key => supply.select key
  | none => .ok supply

/-- The next argument, as an integer. -/
def Supply.takeCount (supply : Supply) : Except Fault (Int × Supply) := do
  let (value, supply) ← supply.take
  match value.asInt? with
  | some n => return (n, supply)
  | none => .error .noCount

/-- The width of a directive, and whether a negative argument asks for the left side. -/
def Supply.takeWidth (supply : Supply) :
    Option Measure → Except Fault (Nat × Bool × Supply)
  | none => .ok (0, false, supply)
  | some (.given n) => if widthBound ≤ n then .error .hugeWidth else .ok (n, false, supply)
  | some .argument => do
    let (n, supply) ← supply.takeCount
    if n < -widthBound || widthBound ≤ n then .error .hugeWidthArgument
    return (n.natAbs, n < 0, supply)

/-- The precision of a directive. A negative argument asks for none of the digits. -/
def Supply.takePrecision (supply : Supply) :
    Option Measure → Except Fault (Option Nat × Supply)
  | none => .ok (none, supply)
  | some (.given n) =>
    if precisionBound ≤ n then .error .hugePrecision else .ok (some n, supply)
  | some .argument => do
    let (n, supply) ← supply.takeCount
    if n < -precisionBound || precisionBound ≤ n then .error .hugePrecisionArgument
    return (some n.toNat, supply)

/-- The characters of a directive, and the supply after it. -/
def Directive.write (d : Directive) (supply : Supply) :
    Except Fault (List Char × Supply) := do
  let supply ← supply.before d.key
  let (width, negative, supply) ← supply.takeWidth d.width
  let (precision, supply) ← supply.takePrecision d.precision
  match d.conversion with
  | none => .error .unfinished
  | some letter =>
    let (value, supply) ← supply.take
    let flags := { d.flags with left := d.flags.left || negative }
    let (chars, isNumber) ← convert flags precision letter d.index value
    if maxWidth < width then .error .tooLong
    return (if isNumber then layNumber flags letter width chars
      else layText flags.left width chars, supply)

/-- The characters of pieces. At the end every argument of a row has to be taken. -/
def write (supply : Supply) : List Piece → Except Fault (List Char)
  | [] =>
    if supply.items.isEmpty || supply.entries.isSome then .ok [] else .error .tooManyArguments
  | .literal c :: rest => (write supply rest).map (c :: ·)
  | .openKey :: _ => .error (if supply.entries.isSome then .openKey else .noMapping)
  | .directive d :: rest => do
    let (chars, supply) ← d.write supply
    return chars ++ (← write supply rest)

/-- The text of a template. -/
def fill (template : String) (arguments : Arguments) : Except Fault String :=
  (write (.ofArguments arguments) (pieces template)).map String.ofList

end BoardSearch.Template
