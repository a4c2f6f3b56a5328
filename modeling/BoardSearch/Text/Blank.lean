import BoardSearch.Text.Class

/-!
# Blank characters

Two notions of blank meet when an integer is read from a text: the blanks of
every script, among them the four information separators, and the blanks that
an integer may be padded with, to which the separators do not belong.

## Main definitions

* `Text.isBlank`: white space of any script, and U+001C to U+001F;
* `Text.isMargin`: a blank other than these four;
* `Text.strip`: a text without the blanks at its ends.
-/

namespace BoardSearch.Text

/-- The white space characters of Unicode 15, with the four information
separators U+001C to U+001F. -/
def blankRanges : Ranges :=
  [(0x09, 0x0D), (0x1C, 0x20), (0x85, 0x85), (0xA0, 0xA0), (0x1680, 0x1680), (0x2000, 0x200A),
    (0x2028, 0x2029), (0x202F, 0x202F), (0x205F, 0x205F), (0x3000, 0x3000)]

/-- A blank of any script. -/
def isBlank (c : Char) : Bool := within blankRanges c

/-- An information separator, which is a blank but no margin of a number. -/
def isSeparator (c : Char) : Bool :=
  0x1C ≤ c.toNat && c.toNat ≤ 0x1F

/-- A blank that a number may have around it. -/
def isMargin (c : Char) : Bool := isBlank c && !isSeparator c

/-- A character below U+0080. -/
def isAscii (c : Char) : Bool := c.toNat < 0x80

/-- The text between the characters at its two ends that satisfy `blank`. -/
def strip (blank : Char → Bool) (text : List Char) : List Char :=
  ((text.dropWhile blank).reverse.dropWhile blank).reverse

end BoardSearch.Text
