import BoardSearch.Log.Level
import BoardSearch.Settings.Refusal
import BoardSearch.Text.Numeral
import BoardSearch.Value.Same

/-!
# Single settings

A setting comes as a text, from the environment or a file, or as a value of any
form, from the program. Either way it is read as what the setting holds.

## Main definitions

* `Settings.Scalar`: the single values that a setting can hold;
* `Settings.readIntegerText`, `Settings.readNumberText`, `Settings.readSwitchText`: the texts
  of integers, numbers and switches;
* `Settings.Scalar.read`: the value that a setting gets.
-/

namespace BoardSearch.Settings

/-- A single value that a setting holds. -/
inductive Scalar where
  | integer
  /-- An integer above zero. -/
  | positive
  | number
  /-- A text, perhaps without the blanks at its ends. -/
  | text (stripped : Bool)
  | switch
  | level

/-- A text without the margins at its ends. -/
def trimmed (text : List Char) : List Char := Text.strip Text.isMargin text

/-! ## Integers -/

/-- The digits of an integer from the first one that counts on. Zeros and underscores
in front of it are left out, but for one before a point or at the end. -/
def fromFirstDigit (last : Char) : List Char → Option (List Char)
  | [] => some [last]
  | c :: rest =>
    if c = '0' || c = '_' then fromFirstDigit c rest
    else if Text.isPlainDigit c then some (c :: rest)
    else if c = '.' then some (last :: c :: rest)
    else none

/-- An unsigned integer without zeros in front of it. It begins with a digit. -/
def withoutZeros : List Char → Option (List Char)
  | [] => none
  | c :: rest =>
    if c = '0' then fromFirstDigit c rest
    else if Text.isPlainDigit c then some (c :: rest)
    else none

/-- The text behind a minus sign that only zeros and underscores stand in front of. -/
def behindMinus? : List Char → Option (List Char)
  | '-' :: rest => some rest
  | '0' :: rest =>
    match rest.dropWhile fun c => c == '0' || c == '_' with
    | '-' :: rest => some rest
    | _ => none
  | _ => none

/-- The sign of an integer and its digits, without zeros in front of either. -/
def signAndDigits (text : List Char) : Option (Bool × List Char) :=
  match behindMinus? text with
  | some rest => (withoutZeros rest).map (true, ·)
  | none => (withoutZeros text).map (false, ·)

/-- An integer without a point and the zeros behind it, of which there is at least one. -/
def withoutPoint (text : List Char) : List Char :=
  match text.span (· != '.') with
  | (whole, _ :: zero :: fraction) =>
    if (zero :: fraction).all (· == '0') then whole else text
  | _ => text

/-- Two underscores stand side by side. -/
def hasDoubleUnderscore : List Char → Bool
  | '_' :: '_' :: _ => true
  | _ :: rest => hasDoubleUnderscore rest
  | [] => false

/-- A numeral without its underscores, if they stand by themselves within it. -/
def withoutUnderscores (text : List Char) : Option (List Char) :=
  if text.head? = some '_' || text.getLast? = some '_' || !text.contains '_'
      || hasDoubleUnderscore text then none
  else some (text.filter (· != '_'))

/-- The value of ASCII digits. -/
def digitsValue (digits : List Char) : Nat :=
  Text.positional (digits.map fun c => c.toNat - '0'.toNat)

/-- An integer of a sign and plain digits, which do not begin with a zero unless it is
the only one. -/
def readPlainInteger (negative : Bool) (digits : List Char) : Except Refusal Int :=
  if digits.isEmpty || !digits.all Text.isPlainDigit || (digits.head? = some '0' && digits != ['0'])
    then .error .unreadableInteger
  else if Text.maxDigits < digits.length + (if negative then 1 else 0) then .error .hugeInteger
  else .ok (if negative then -(digitsValue digits : Int) else digitsValue digits)

/-- A plus sign in front of an integer is left out. -/
def withoutPlus : List Char → Option (List Char)
  | '+' :: '-' :: _ => none
  | '+' :: rest => some rest
  | text => some text

/-- The integer that a text is. -/
def readIntegerText (text : String) : Except Refusal Int :=
  match (withoutPlus (trimmed text.toList)).bind signAndDigits with
  | none => .error .unreadableInteger
  | some (negative, digits) =>
    let digits := withoutPoint digits
    readPlainInteger negative ((withoutUnderscores digits).getD digits)

/-- The greatest number of the binary64 format that is taken for an integer. -/
def integerBound : Int := Nat.pow 2 63

/-- The integer that a number of the binary64 format is. -/
def readIntegerNumber (x : Binary64) : Except Refusal Int :=
  match x.value? with
  | none => .error .notFinite
  | some (num, den) =>
    if num % den != 0 then .error .fractional
    else
      let n := num / den
      if -integerBound < n && n < integerBound then .ok n else .error .hugeInteger

/-- The text that a value can be read from. -/
def sourceText? : Value → Option String
  | .bytes octets => String.fromUTF8? ⟨octets.toArray⟩
  | value => value.asText?

/-- The integer of a setting. -/
def readInteger (value : Value) : Except Refusal Int :=
  match value, value.asInt? with
  | _, some n => .ok n
  | .float x, none => readIntegerNumber x
  | .bytes _, none => readIntegerText ((sourceText? value).getD "")
  | value, none =>
    match value.asText? with
    | some text => readIntegerText text
    | none => .error .noInteger

/-! ## Numbers -/

/-- The words for numbers that are not finite, in small letters. -/
def numberWords : List (List Char × Binary64) :=
  [("inf".toList, .infinite false), ("infinity".toList, .infinite false), ("nan".toList, .nan)]

/-- Digits with a point among them, at least one digit in all, as the digits and the
number of those behind the point; and what follows. -/
def readMantissa (text : List Char) : Option (List Char × Nat × List Char) :=
  let (whole, rest) := text.span Text.isPlainDigit
  let (fraction, rest) := match rest with
    | '.' :: rest => rest.span Text.isPlainDigit
    | rest => ([], rest)
  if whole.isEmpty && fraction.isEmpty then none
  else some (whole ++ fraction, fraction.length, rest)

/-- The exponent that a text is, or zero for the empty text. -/
def readExponent : List Char → Option Int
  | [] => some 0
  | c :: rest =>
    if c = 'e' || c = 'E' then
      let (sign, digits) := Text.spanSign rest
      if digits.isEmpty || !digits.all Text.isPlainDigit then none
      else some ((sign.getD .plus).apply (digitsValue digits))
    else none

/-- The number that a text is, without blanks and underscores. -/
def readPlainNumber (text : List Char) : Option Binary64 :=
  let (sign, unsigned) := Text.spanSign text
  let negative := sign == some .minus
  match numberWords.find? fun word => word.1 == unsigned.map Char.toLower with
  | some (_, x) => some (if negative then x.neg else x)
  | none => do
    let (digits, places, rest) ← readMantissa unsigned
    let exponent ← readExponent rest
    return Binary64.ofDecimal negative (digitsValue digits) (exponent - places)

/-- The number that a text is. -/
def readNumberText (text : String) : Except Refusal Binary64 :=
  let chars := text.toList
  match (readPlainNumber (trimmed chars)).or ((withoutUnderscores chars).bind readPlainNumber) with
  | some x => .ok x
  | none => .error .unreadableNumber

/-- The number of a setting. An integer beyond the format is refused. -/
def readNumber (value : Value) : Except Refusal Binary64 :=
  match value, value.asInt? with
  | _, some n =>
    match Binary64.ofInt n with
    | .infinite _ => .error .noNumber
    | x => .ok x
  | .float x, none => .ok x
  | value, none =>
    match sourceText? value with
    | some text => readNumberText text
    | none => .error .noNumber

/-! ## Texts, switches and levels -/

/-- The text of a setting. -/
def readText (stripped : Bool) (value : Value) : Except Refusal String :=
  match sourceText? value, value with
  | some text, _ => .ok (if stripped then String.ofList (trimmed text.toList) else text)
  | none, .bytes _ => .error .undecodableText
  | none, _ => .error .noText

/-- The words that turn a switch on. -/
def onWords : List String := ["1", "on", "t", "true", "y", "yes"]

/-- The words that turn a switch off. -/
def offWords : List String := ["0", "off", "f", "false", "n", "no"]

/-- The switch that a text is, in letters of either case. -/
def readSwitchText (text : String) : Except Refusal Bool :=
  let word := String.ofList (text.toList.map Char.toLower)
  if onWords.contains word then .ok true
  else if offWords.contains word then .ok false
  else .error .unreadableSwitch

/-- The switch that an integer is. -/
def readSwitchInteger (n : Int) : Except Refusal Bool :=
  if n = 0 then .ok false else if n = 1 then .ok true else .error .unreadableSwitch

/-- The switch of a setting. -/
def readSwitch (value : Value) : Except Refusal Bool :=
  match value with
  | .bool b => .ok b
  | .int n =>
    if -integerBound ≤ n && n < integerBound then readSwitchInteger n else .error .noSwitch
  | .float x =>
    match readIntegerNumber x with
    | .ok n => readSwitchInteger n
    | .error _ => .error .noSwitch
  | value =>
    match sourceText? value, value with
    | some text, _ => readSwitchText text
    | none, .bytes _ => .error .unreadableSwitch
    | none, _ => .error .noSwitch

/-- The log level of a setting, whose word has to be spelled exactly. -/
def readLevel (value : Value) : Except Refusal Log.Level :=
  match (sourceText? value).bind Log.Level.ofWord? with
  | some level => .ok level
  | none => .error .noLevel

/-- The value that a setting gets. A level is its word. -/
def Scalar.read (scalar : Scalar) (value : Value) : Except Refusal Value :=
  match scalar with
  | .integer => (readInteger value).map .int
  | .positive => do
    let n ← readInteger value
    if 0 < n then return .int n else .error .notPositive
  | .number => (readNumber value).map .float
  | .text stripped => (readText stripped value).map .text
  | .switch => (readSwitch value).map .bool
  | .level => (readLevel value).map fun level => .text level.word

end BoardSearch.Settings
