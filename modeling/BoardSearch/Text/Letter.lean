/-!
# Small letters in ASCII

Names such as order tokens and months are spelled with ASCII letters, and are
compared without regard to case. Only the letters whose small form is ASCII can
take part in such a name, so the mapping leaves every other character as it is.
The mapping of all letters is `Text.toLower`, by which settings are named.

## Main definitions

* `Text.lowerCase`: small letters, where they are ASCII;
* `Text.sameLetter`: two characters that differ in case alone.
-/

namespace BoardSearch.Text

/-- The small form of a character, where that begins with an ASCII letter: besides
the capital ASCII letters these are the kelvin sign and the dotted capital I, whose
dot stays. -/
def lowerOf (c : Char) : List Char :=
  match c.toNat with
  | 0x130 => ['i', '\u0307']
  | 0x212A => ['k']
  | _ => [c.toLower]

/-- A text in small letters, as far as they are ASCII. -/
def lowerCase (text : String) : String :=
  String.ofList (text.toList.flatMap lowerOf)

/-- Two characters that a comparison without regard to case takes for one: the
same letter in two cases, the dotted and dotless forms of i, and the long s. -/
def sameLetter (a b : Char) : Bool :=
  fold a == fold b
where
  /-- The representative of the characters that differ only in case. -/
  fold (c : Char) : Char :=
    match c.toNat with
    | 0x130 => 'i'
    | 0x131 => 'i'
    | 0x17F => 's'
    | 0x212A => 'k'
    | _ => c.toLower

end BoardSearch.Text
