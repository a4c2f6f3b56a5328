import BoardSearch.Json.Reader

/-!
# The grammar of JSON texts

What RFC 8259 lets a text spell: a document, or the items and the members that stand
between brackets and braces. Each rule says how a text begins, what the beginning spells,
and what follows it. Numbers that are not finite have no spelling.

## Main definitions

* `Json.Number`: a number as it is written;
* `Json.SpellsText`: the characters up to a closing quote;
* `Json.Spells`: the rules;
* `Json.IsText`: a text spells a document, with blanks around it;
* `Json.IsPairedText`: such a text in which no half of a pair of units is escaped by itself.

## Design notes

A text of two members of the same name is no fault of its grammar, so that a spelled object
may have a name twice. An escaped half of a pair of units is grammatical by itself; it
spells what the reader puts in its place.
-/

namespace BoardSearch.Json

/-- Blanks alone lie between the text and the rest of it. -/
def Skips (text rest : List Char) : Prop :=
  ∃ blanks : List Char, (∀ c ∈ blanks, isBlank c = true) ∧ text = blanks ++ rest

theorem Skips.refl (text : List Char) : Skips text text := ⟨[], by simp, rfl⟩

theorem Skips.dropWhile_eq {text rest : List Char} (h : Skips text rest) :
    text.dropWhile isBlank = rest.dropWhile isBlank := by
  obtain ⟨blanks, hblanks, rfl⟩ := h
  rw [List.dropWhile_append_of_pos hblanks]

theorem Skips.length_le {text rest : List Char} (h : Skips text rest) :
    rest.length ≤ text.length := by
  obtain ⟨blanks, -, rfl⟩ := h
  rw [List.length_append]
  omega

/-! ## Numbers -/

/-- One or more digits. -/
def AreDigits (digits : List Char) : Prop :=
  digits ≠ [] ∧ ∀ c ∈ digits, Text.isPlainDigit c = true

/-- An exponent as it is written. -/
structure Exponent where
  marker : Char
  sign : Option Text.Sign
  digits : List Char
  isMarker : marker = 'e' ∨ marker = 'E'
  areDigits : AreDigits digits

/-- The sign of an exponent, if one is written. -/
def signChars : Option Text.Sign → List Char
  | none => []
  | some .plus => ['+']
  | some .minus => ['-']

namespace Exponent

/-- The text of an exponent. -/
def chars (exponent : Exponent) : List Char :=
  exponent.marker :: (signChars exponent.sign ++ exponent.digits)

/-- The power of ten that an exponent stands for. -/
def value (exponent : Exponent) : Int :=
  (exponent.sign.getD .plus).apply (plainValue exponent.digits)

end Exponent

/-- A number as it is written: a zero stands by itself in front of the point. -/
structure Number where
  negative : Bool
  whole : List Char
  fraction : Option (List Char)
  exponent : Option Exponent
  wholeDigits : AreDigits whole
  noLeadingZero : whole.head? = some '0' → whole = ['0']
  fractionDigits : ∀ digits, fraction = some digits → AreDigits digits

namespace Number

/-- The text of a number. -/
def chars (number : Number) : List Char :=
  (if number.negative then ['-'] else []) ++ number.whole
    ++ number.fraction.elim [] ('.' :: ·) ++ number.exponent.elim [] Exponent.chars

/-- What a number stands for: an integer unless it has a fraction or an exponent. -/
def document (number : Number) : Json :=
  match number.fraction, number.exponent with
  | none, none => .int (Binary64.signed number.negative (plainValue number.whole))
  | fraction, exponent =>
    .float (.ofDecimal number.negative (plainValue (number.whole ++ fraction.getD []))
      (exponent.elim 0 Exponent.value - (fraction.getD []).length))

end Number

/-! ## Texts -/

/-- The text begins with spelled characters and a closing quote. What they spell is given
as code points, among which pairs of units still stand apart. -/
inductive SpellsUnits : List Char → List Nat → List Char → Prop where
  | closed (rest : List Char) : SpellsUnits ('"' :: rest) [] rest
  | plain {c : Char} {text rest : List Char} {units : List Nat} (hcontrol : 0x20 ≤ c.toNat)
      (hquote : c ≠ '"') (hescape : c ≠ '\\') (h : SpellsUnits text units rest) :
      SpellsUnits (c :: text) (c.toNat :: units) rest
  | escape {letter c : Char} {text rest : List Char} {units : List Nat}
      (hletter : plainEscape? letter = some c) (h : SpellsUnits text units rest) :
      SpellsUnits ('\\' :: letter :: text) (c.toNat :: units) rest
  | unit {a b c d : Char} {unit : Nat} {text rest : List Char} {units : List Nat}
      (hunit : unit? a b c d = some unit) (h : SpellsUnits text units rest) :
      SpellsUnits ('\\' :: 'u' :: a :: b :: c :: d :: text) (unit :: units) rest

/-- The text begins with the characters of a text and a closing quote. -/
def SpellsText (text : List Char) (value : String) (rest : List Char) : Prop :=
  ∃ units, SpellsUnits text units rest ∧ value = String.ofList (joinPairs units)

/-! ## Documents -/

/-- What a text can spell. -/
inductive Phrase where
  | document (document : Json)
  /-- A document with blanks around it. -/
  | element (document : Json)
  /-- The items of an array, up to the closing bracket. -/
  | items (items : List Json)
  /-- The members of an object, up to the closing brace. -/
  | members (members : List (String × Json))

/-- The text begins with a spelling of the phrase, and `rest` follows. -/
inductive Spells : List Char → Phrase → List Char → Prop where
  | null (rest : List Char) : Spells ('n' :: 'u' :: 'l' :: 'l' :: rest) (.document .null) rest
  | true (rest : List Char) :
      Spells ('t' :: 'r' :: 'u' :: 'e' :: rest) (.document (.bool true)) rest
  | false (rest : List Char) :
      Spells ('f' :: 'a' :: 'l' :: 's' :: 'e' :: rest) (.document (.bool false)) rest
  | number (number : Number) (rest : List Char) :
      Spells (number.chars ++ rest) (.document number.document) rest
  | text {text rest : List Char} {value : String} (h : SpellsText text value rest) :
      Spells ('"' :: text) (.document (.text value)) rest
  | emptyArray {text rest : List Char} (h : Skips text (']' :: rest)) :
      Spells ('[' :: text) (.document (.array [])) rest
  | array {text rest : List Char} {items : List Json} (h : Spells text (.items items) rest) :
      Spells ('[' :: text) (.document (.array items)) rest
  | emptyObject {text rest : List Char} (h : Skips text ('\x7d' :: rest)) :
      Spells ('\x7b' :: text) (.document (.object [])) rest
  | object {text rest : List Char} {members : List (String × Json)}
      (h : Spells text (.members members) rest) :
      Spells ('\x7b' :: text) (.document (.object members)) rest
  | element {text middle after rest : List Char} {document : Json} (hbefore : Skips text middle)
      (h : Spells middle (.document document) after) (hafter : Skips after rest) :
      Spells text (.element document) rest
  | lastItem {text rest : List Char} {item : Json}
      (h : Spells text (.element item) (']' :: rest)) : Spells text (.items [item]) rest
  | item {text more rest : List Char} {item : Json} {items : List Json}
      (h : Spells text (.element item) (',' :: more)) (hmore : Spells more (.items items) rest) :
      Spells text (.items (item :: items)) rest
  | lastMember {text spelled named value rest : List Char} {name : String} {document : Json}
      (hbefore : Skips text ('"' :: spelled)) (hname : SpellsText spelled name named)
      (hcolon : Skips named (':' :: value))
      (h : Spells value (.element document) ('\x7d' :: rest)) :
      Spells text (.members [(name, document)]) rest
  | member {text spelled named value more rest : List Char} {name : String} {document : Json}
      {members : List (String × Json)} (hbefore : Skips text ('"' :: spelled))
      (hname : SpellsText spelled name named) (hcolon : Skips named (':' :: value))
      (h : Spells value (.element document) (',' :: more))
      (hmore : Spells more (.members members) rest) :
      Spells text (.members ((name, document) :: members)) rest

/-- The text is a JSON text: a document with blanks around it. -/
def IsText (text : String) : Prop := ∃ document, Spells text.toList (.element document) []

/-- Half of a pair of units is escaped without the other half. `opened` says that the escape of
a first half comes right before. -/
def hasLoneHalf (opened : Bool) : List Char → Bool
  | '\\' :: 'u' :: a :: b :: c :: d :: rest =>
    let unit := (unit? a b c d).getD 0
    (opened != isLowHalf unit) || hasLoneHalf (isHighHalf unit) rest
  | '\\' :: _ :: rest => opened || hasLoneHalf false rest
  | _ :: rest => opened || hasLoneHalf false rest
  | [] => opened

/-- The text is a JSON text, and every escaped half of a pair of units in it stands with the
other half, so that what it spells are texts of characters. -/
structure IsPairedText (text : String) : Prop where
  isText : IsText text
  paired : hasLoneHalf false text.toList = false

end BoardSearch.Json
