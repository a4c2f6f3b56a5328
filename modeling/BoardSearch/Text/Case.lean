import BoardSearch.Text.Case.Table

/-!
# Texts in capital and small letters

Names that may be spelled with any letters are compared and reported without regard to
case. A capital form may be spelled with several characters, and the small form of a sigma
depends on whether it ends a word.

## Main definitions

* `Text.toUpper`: a text in capital letters;
* `Text.toLower`: a text in small letters.
-/

namespace BoardSearch.Text

/-- What the run that holds a character maps it to, and else the character itself. -/
def mapped (runs : List Run) (c : Char) : Char :=
  match runs.find? (·.holds c.toNat) with
  | some run => Char.ofNat (run.apply c.toNat)
  | none => c

/-- The capital form of a character. -/
def capitalsOf (c : Char) : List Char :=
  if c.toNat < 128 then [c.toUpper]
  else
    match capitalSpellings.find? fun entry => entry.1 == c.toNat with
    | some (_, spelling) => spelling.map Char.ofNat
    | none => [mapped capitalRuns c]

/-- A text in capital letters. -/
def toUpper (text : String) : String := String.ofList (text.toList.flatMap capitalsOf)

/-- The small form of a character other than a sigma. That of a capital I with a dot keeps the
dot. -/
def smallsOf (c : Char) : List Char :=
  if c.toNat < 128 then [c.toLower]
  else if c = '\u0130' then ['i', '\u0307']
  else [mapped smallRuns c]

/-- A letter that comes in cases is the first one but for those that are passed over. -/
def beginsCased (chars : List Char) : Bool :=
  ((chars.find? fun c => !within passedRanges c).map (within casedRanges)).getD false

/-- The small forms of characters, behind the ones of which the nearest is given first. A sigma
with letters before it alone ends a word. -/
def smallsBehind (before : List Char) : List Char → List Char
  | [] => []
  | c :: rest =>
    (if c = '\u03a3' then
      [if beginsCased before && !beginsCased rest then '\u03c2' else '\u03c3']
    else smallsOf c) ++ smallsBehind (c :: before) rest

/-- A text in small letters. -/
def toLower (text : String) : String := String.ofList (smallsBehind [] text.toList)

end BoardSearch.Text
