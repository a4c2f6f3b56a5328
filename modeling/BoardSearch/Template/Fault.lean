import BoardSearch.Text.Numeral

/-!
# Faults of message templates

Why the arguments of a message do not fit its template.

## Main definitions

* `Template.Fault`: the causes;
* `Template.Fault.kind`, `Template.Fault.message`: the kind of a fault, and what is said about it;
* `Template.Fault.quoted`: both in one text, for notices.
-/

namespace BoardSearch.Template

/-- Why arguments do not fit a template. -/
inductive Fault where
  /-- A directive names a key, and the argument has no entries. -/
  | noMapping
  /-- A directive names a key, and the argument has numbered entries only. -/
  | numberedEntries (what : String)
  /-- The name of a key is not closed. -/
  | openKey
  /-- There is no entry under a key. -/
  | missingKey (key : String)
  /-- The template ends within a directive. -/
  | unfinished
  | tooFewArguments
  | tooManyArguments
  | hugeWidth
  | hugePrecision
  /-- An argument that stands for a width or a precision is no integer. -/
  | noCount
  /-- An argument that stands for a width has too many bits. -/
  | hugeWidthArgument
  /-- An argument that stands for a precision has too many bits. -/
  | hugePrecisionArgument
  /-- The precision of an integer is too great. -/
  | hugeIntegerPrecision
  /-- A text would become too long. -/
  | tooLong
  /-- No conversion goes by this letter, which stands at a place in the template. -/
  | unknownConversion (letter : Char) (index : Nat)
  /-- A conversion to a decimal integer is given something else than a number. -/
  | noNumber (letter : Char) (form : String)
  /-- A conversion to another base is given something else than an integer. -/
  | noInteger (letter : Char) (form : String)
  /-- A conversion to a decimal fraction is given something else than a number. -/
  | noReal (form : String)
  | notANumber
  | infinite
  /-- An integer is beyond the binary64 numbers. -/
  | beyondReals
  /-- A conversion to a character is given neither a character nor an integer. -/
  | noCharacter
  /-- An integer is no code point. -/
  | beyondCharacters
  /-- An integer has too many digits to be written out. -/
  | unwritable
  /-- What should be a template is of a form that takes no arguments. -/
  | noTemplate (form arguments : String)
deriving DecidableEq

namespace Fault

/-- The kind of a fault. -/
def kind : Fault → String
  | noMapping | numberedEntries _ | tooFewArguments | tooManyArguments | noCount | noNumber _ _
  | noInteger _ _ | noReal _ | noCharacter | noTemplate _ _ => "TypeError"
  | openKey | unfinished | hugeWidth | hugePrecision | unknownConversion _ _
  | notANumber | unwritable => "ValueError"
  | hugeWidthArgument | hugePrecisionArgument | hugeIntegerPrecision | infinite | beyondReals
  | beyondCharacters => "OverflowError"
  | missingKey _ => "KeyError"
  | tooLong => "MemoryError"

/-- A letter as it is named in messages, where letters are ASCII. -/
def letterText (letter : Char) : String :=
  if 31 ≤ letter.toNat && letter.toNat ≤ 126 then letter.toString else "?"

/-- What is said about a fault, if anything. -/
def message? : Fault → Option String
  | noMapping => some "format requires a mapping"
  | numberedEntries what => some (what ++ " indices must be integers or slices, not str")
  | openKey => some "incomplete format key"
  | missingKey key => some key
  | unfinished => some "incomplete format"
  | tooFewArguments => some "not enough arguments for format string"
  | tooManyArguments => some "not all arguments converted during string formatting"
  | hugeWidth => some "width too big"
  | hugePrecision => some "precision too big"
  | noCount => some "* wants int"
  | hugeWidthArgument => some "Python int too large to convert to C ssize_t"
  | hugePrecisionArgument => some "Python int too large to convert to C int"
  | hugeIntegerPrecision => some "precision too large"
  | tooLong => none
  | unknownConversion letter index =>
    some ("unsupported format character '" ++ letterText letter ++ "' (0x"
      ++ String.ofList (Text.hex 1 letter.toNat) ++ ") at index " ++ toString index)
  | noNumber letter form =>
    some ("%" ++ letter.toString ++ " format: a real number is required, not " ++ form)
  | noInteger letter form =>
    some ("%" ++ letter.toString ++ " format: an integer is required, not " ++ form)
  | noReal form => some ("must be real number, not " ++ form)
  | notANumber => some "cannot convert float NaN to integer"
  | infinite => some "cannot convert float infinity to integer"
  | beyondReals => some "int too large to convert to float"
  | noCharacter => some "%c requires int or char"
  | beyondCharacters => some "%c arg not in range(0x110000)"
  | unwritable => some Text.NumeralError.unwritable.message
  | noTemplate form arguments =>
    some ("unsupported operand type(s) for %: '" ++ form ++ "' and '" ++ arguments ++ "'")

/-- A fault as it is quoted in notices. -/
def quoted (fault : Fault) : String :=
  fault.kind ++ "(" ++ (fault.message?.map Text.quoted).getD "" ++ ")"

/-- What a fault says when it is reported by itself. A key is quoted. -/
def report? (fault : Fault) : Option String :=
  match fault with
  | missingKey key => some (Text.quoted key)
  | fault => fault.message?

end Fault

end BoardSearch.Template
