import BoardSearch.Text.Blank
import BoardSearch.Text.Digit
import BoardSearch.Text.Quoted

/-!
# Integers in texts

A text can begin with a numeral, blanks and a sign and a row of digits, or be
one as a whole. Either way the numeral may have at most `maxDigits` digits.

## Main definitions

* `Text.Numeral`: the numeral a text begins with, in its three parts;
* `Text.Numeral.ofPrefix?`: the longest such numeral;
* `Text.Numeral.toInt`: the integer it stands for;
* `Text.readInteger`: a text that is an integer as a whole.
-/

namespace BoardSearch.Text

/-- The most digits that a numeral may be read from. -/
def maxDigits : Nat := 4300

/-- Why a numeral stands for no integer, or an integer has no numeral. -/
inductive NumeralError where
  /-- The text is no numeral. -/
  | malformed (text : String)
  /-- There are more digits than `maxDigits`. -/
  | tooLong (digits : Nat)
  /-- The integer has more digits than `maxDigits`. -/
  | unwritable
deriving DecidableEq

/-- The wording of a refused numeral. Only the first two hundred characters of
a malformed one are quoted. -/
def NumeralError.message : NumeralError → String
  | .malformed text =>
    "invalid literal for int() with base 10: " ++ String.ofList ((quoted text).toList.take 200)
  | .tooLong digits =>
    "Exceeds the limit (" ++ toString maxDigits
      ++ " digits) for integer string conversion: value has " ++ toString digits
      ++ " digits; use sys.set_int_max_str_digits() to increase the limit"
  | .unwritable =>
    "Exceeds the limit (" ++ toString maxDigits
      ++ " digits) for integer string conversion; use sys.set_int_max_str_digits() to increase the"
      ++ " limit"

/-- Whether a numeral is written with a minus sign. -/
inductive Sign where
  | plus
  | minus
deriving DecidableEq

/-- A natural number with a sign. -/
def Sign.apply (sign : Sign) (n : Nat) : Int :=
  match sign with
  | .plus => n
  | .minus => -(n : Int)

/-- An optional sign and what follows it. -/
def spanSign : List Char → Option Sign × List Char
  | '+' :: rest => (some .plus, rest)
  | '-' :: rest => (some .minus, rest)
  | rest => (none, rest)

/-- The numeral that a text begins with: blanks, a sign if there is one, and
digits. `written` is the part of the text it takes up. -/
structure Numeral where
  /-- The characters of the numeral, with the blanks in front of it. -/
  written : List Char
  /-- The sign, if one is written. -/
  sign : Option Sign
  /-- The values of the digits, the most significant first. -/
  digits : List Nat

/-- The longest numeral at the beginning of a text; there is none when no digit
follows the blanks and at most one sign. -/
def Numeral.ofPrefix? (text : List Char) : Option Numeral :=
  let (sign, unsigned) := spanSign (text.dropWhile isBlank)
  let (digits, rest) := spanDigits unsigned
  if digits.isEmpty then none
  else some ⟨text.take (text.length - rest.length), sign, digits⟩

/-- The integer a numeral stands for. An information separator can be a blank in
front of a numeral, but an integer may not have it as a margin. -/
def Numeral.toInt (numeral : Numeral) : Except NumeralError Int :=
  if numeral.written.any isSeparator then
    .error (.malformed (String.ofList numeral.written))
  else if maxDigits < numeral.digits.length then
    .error (.tooLong numeral.digits.length)
  else
    .ok ((numeral.sign.getD .plus).apply (positional numeral.digits))

/-- Digits that may be grouped by single underscores between two of them. -/
def readGrouped : List Char → Option (List Nat)
  | [] => some []
  | [c] => (digitValue? c).map ([·])
  | c :: '_' :: d :: rest => do
    let first ← digitValue? c
    let others ← readGrouped (d :: rest)
    return first :: others
  | c :: rest => do
    let first ← digitValue? c
    let others ← readGrouped rest
    return first :: others

/-- The integer that a whole text stands for: margins at the ends, a sign if
there is one, and at least one digit. -/
def readInteger (text : String) : Except NumeralError Int :=
  let (sign, unsigned) := spanSign (strip isMargin text.toList)
  match readGrouped unsigned with
  | none | some [] => .error (.malformed text)
  | some digits =>
    if maxDigits < digits.length then .error (.tooLong digits.length)
    else .ok ((sign.getD .plus).apply (positional digits))

end BoardSearch.Text
