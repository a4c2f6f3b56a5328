import BoardSearch.Number.Shortest

/-!
# Numbers with a set precision

The exact value of a number is rounded once, half to even, to a number of
places after the point or to a number of significant digits.

## Main definitions

* `Binary64.fixed`: so many places after the point;
* `Binary64.scientific`: one digit, so many places, and an exponent;
* `Binary64.general`: so many significant digits, in the shorter of the two forms.

## Design notes

`point` asks for a decimal point even where no digit follows it; in the general
form it also keeps the zeros at the end.
-/

namespace BoardSearch.Binary64

/-- The digits after a point; without any there is no point, unless it is asked for. -/
def fraction (point : Bool) (digits : List Char) : List Char :=
  if digits.isEmpty && !point then [] else '.' :: digits

/-- The magnitude `num / den` with so many places after the point. -/
def fixedDigits (point : Bool) (places num den : Nat) : List Char :=
  let digits := decimalDigits (roundQuotient (num * Nat.pow 10 places) den)
  let padded := List.replicate (places + 1 - digits.length) '0' ++ digits
  padded.take (padded.length - places) ++ fraction point (padded.drop (padded.length - places))

/-- The first `count` significant digits of `num / den`, rounded, with the
exponent of the leading one. -/
def significant (count num den : Nat) : List Char × Int :=
  if num = 0 then (List.replicate count '0', 0)
  else
    let top := scale num den
    let (p, q) := scaled 10 num den (top - count)
    let digits := decimalDigits (roundQuotient p q)
    if count < digits.length then (digits.take count, top) else (digits, top - 1)

/-- Significant digits with an exponent. -/
def scientificDigits (point : Bool) (digits : List Char) (exponent : Int) : List Char :=
  digits.take 1 ++ fraction point (digits.drop 1) ++ 'e' :: exponentText exponent

/-- The text of a number, given that of a magnitude. -/
def withMagnitude (magnitude : Nat → Nat → List Char) : Binary64 → List Char
  | .nan => ['n', 'a', 'n']
  | .infinite negative => signText negative ++ ['i', 'n', 'f']
  | .finite negative mantissa exponent =>
    let (p, q) := ratio mantissa exponent
    signText negative ++ magnitude p q

/-- A number with so many places after the point. -/
def fixed (point : Bool) (places : Nat) (x : Binary64) : List Char :=
  x.withMagnitude (fixedDigits point places)

/-- A number with one digit before the point, so many places and an exponent. -/
def scientific (point : Bool) (places : Nat) (x : Binary64) : List Char :=
  x.withMagnitude fun p q =>
    let (digits, exponent) := significant (places + 1) p q
    scientificDigits point digits exponent

/-- A number with so many significant digits: with an exponent where that is
below -4 or not below the number of digits, else positionally; zeros at the end
are left out. -/
def general (point : Bool) (precision : Nat) (x : Binary64) : List Char :=
  x.withMagnitude fun p q =>
    let count := max 1 precision
    let (digits, exponent) := significant count p q
    let kept := if point then digits
      else (digits.reverse.dropWhile (· == '0')).reverse
    let kept := if kept.isEmpty then digits.take 1 else kept
    if exponent < -4 || (count : Int) ≤ exponent then
      scientificDigits point kept exponent
    else if exponent < 0 then
      '0' :: fraction point (List.replicate (-exponent - 1).toNat '0' ++ kept)
    else
      let whole := (exponent + 1).toNat
      let padded := kept ++ List.replicate (whole - kept.length) '0'
      padded.take whole ++ fraction point (padded.drop whole)

end BoardSearch.Binary64
