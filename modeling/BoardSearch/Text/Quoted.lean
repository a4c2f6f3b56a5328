import BoardSearch.Text.Blank
import BoardSearch.Text.Printable

/-!
# Quoted texts

The form a text or a row of bytes takes inside a message: between single
quotes, unless it holds single quotes only, with escapes for what cannot be
shown.

## Main definitions

* `Text.hex`: a number in base sixteen, padded to a width;
* `Text.quoted`: a text between quotes;
* `Text.plainEscapes`: a text with escapes for all that is not ASCII;
* `Text.quotedBytes`: bytes between quotes, after a `b`.
-/

namespace BoardSearch.Text

/-- A number in base sixteen with at least `width` digits. -/
def hex (width n : Nat) : List Char :=
  let digits := Nat.toDigits 16 n
  List.replicate (width - digits.length) '0' ++ digits

/-- The quote that goes around a text: the double one only where the text holds
single quotes and no double ones. -/
def quoteFor (text : List Char) : Char :=
  if text.contains '\'' && !text.contains '"' then '"' else '\''

/-- The escape of a character that has no visible form, in the shortest of the
three widths. -/
def codeEscape (c : Char) : List Char :=
  if c.toNat < 0x100 then '\\' :: 'x' :: hex 2 c.toNat
  else if c.toNat < 0x10000 then '\\' :: 'u' :: hex 4 c.toNat
  else '\\' :: 'U' :: hex 8 c.toNat

/-- A character inside quotes. -/
def quotedChar (shown : Char → Bool) (quote c : Char) : List Char :=
  if c = quote || c = '\\' then ['\\', c]
  else if c = '\t' then ['\\', 't']
  else if c = '\n' then ['\\', 'n']
  else if c = '\r' then ['\\', 'r']
  else if shown c then [c]
  else codeEscape c

/-- A text between quotes in which the characters for which `shown` holds stand
for themselves. -/
def quotedWhere (shown : Char → Bool) (text : String) : String :=
  let quote := quoteFor text.toList
  String.ofList (quote :: text.toList.flatMap (quotedChar shown quote) ++ [quote])

/-- A text between quotes; what has a visible form stands for itself. -/
def quoted (text : String) : String := quotedWhere isPrintable text

/-- A text with escapes for all that is not ASCII. -/
def plainEscapes (text : String) : String :=
  String.ofList (text.toList.flatMap fun c => if isAscii c then [c] else codeEscape c)

/-- Bytes between quotes, after a `b`; a byte stands for itself when it is the
code of a visible ASCII character. -/
def quotedBytes (bytes : List UInt8) : String :=
  let chars := bytes.map fun b => Char.ofNat b.toNat
  let quote := quoteFor chars
  let shown := fun c : Char => 0x20 ≤ c.toNat && c.toNat < 0x7F
  String.ofList ('b' :: quote :: chars.flatMap (quotedChar shown quote) ++ [quote])

end BoardSearch.Text
