import BoardSearch.Number.Binary64

/-!
# Shortest decimals

A number is shown with the fewest digits that read back to it. The search takes
the grids of decimals with one, two, … digits in turn and tests the two
neighbours of the number on each: the first grid with a hit wins, and of two
hits the nearer one, or the even one on a tie.

## Main definitions

* `Decimal`: digits and a power of ten;
* `Binary64.shortest`: the decimal with the fewest digits that reads back;
* `Binary64.text`: the number as it is shown, positionally from `0.0001` up to
  below `10 ^ 16` and with an exponent of two digits or more elsewhere.
-/

namespace BoardSearch

/-- The decimal `digits * 10 ^ exponent`. -/
structure Decimal where
  digits : Nat
  exponent : Int
deriving DecidableEq

namespace Binary64

/-- The least power of ten that exceeds `num / den`. The binary logarithms give
it up to a step or two, and exact comparisons decide. -/
def scale (num den : Nat) : Int :=
  let guess : Int := Int.fdiv (((num.log2 : Int) - den.log2) * 30103) 100000
  let exceeds := fun k : Int => let (p, q) := scaled 10 num den k; p < q
  (([guess - 1, guess, guess + 1, guess + 2].find? exceeds).getD (guess + 3))

/-- Of the two neighbours of `num / den` on the grid of multiples of
`10 ^ exponent`, the nearer one for which `accepts` holds. -/
def nearestOnGrid? (accepts : Decimal → Bool) (num den : Nat) (exponent : Int) :
    Option Decimal :=
  let (p, q) := scaled 10 num den exponent
  let below : Decimal := ⟨p / q, exponent⟩
  let above : Decimal := ⟨p / q + 1, exponent⟩
  match accepts below, accepts above with
  | true, true =>
    match compare (2 * p) ((2 * (p / q) + 1) * q) with
    | .lt => some below
    | .gt => some above
    | .eq => some (if below.digits % 2 = 0 then below else above)
  | true, false => some below
  | false, true => some above
  | false, false => none

/-- A decimal without the zeros at its end, of which there are at most `fuel`. -/
def stripZeros : Nat → Decimal → Decimal
  | 0, d => d
  | fuel + 1, d =>
    if d.digits % 10 = 0 then stripZeros fuel ⟨d.digits / 10, d.exponent + 1⟩ else d

/-- The decimal of fewest digits that reads back to `mantissa * 2 ^ exponent`,
for a mantissa other than zero. Should none of seventeen digits do, it is the
exact value. -/
def shortest (mantissa : Nat) (exponent : Int) : Decimal :=
  let (num, den) := ratio mantissa exponent
  let top := scale num den
  let readsBack := fun d : Decimal =>
    ofDecimal false d.digits d.exponent == .finite false mantissa exponent
  let found := (List.range 17).findSome? fun n : Nat =>
    nearestOnGrid? readsBack num den (top - (n + 1))
  stripZeros 20
    (found.getD ⟨num * Nat.pow 5 (-exponent).toNat, min exponent 0⟩)

/-- The digits of a natural number in base ten. -/
def decimalDigits (n : Nat) : List Char := Nat.toDigits 10 n

/-- An exponent with its sign and at least two digits. -/
def exponentText (exponent : Int) : List Char :=
  let digits := decimalDigits exponent.natAbs
  (if exponent < 0 then '-' else '+') :: List.replicate (2 - digits.length) '0' ++ digits

/-- A decimal as it is shown: positionally if its leading digit stands for
`0.0001` or more and for less than `10 ^ 16`. -/
def layout (d : Decimal) : List Char :=
  let digits := decimalDigits d.digits
  let leading : Int := d.exponent + digits.length - 1
  if leading < -4 || 16 ≤ leading then
    match digits with
    | [] => []
    | [c] => c :: 'e' :: exponentText leading
    | c :: rest => c :: '.' :: rest ++ 'e' :: exponentText leading
  else if 0 ≤ d.exponent then
    digits ++ List.replicate d.exponent.toNat '0' ++ ['.', '0']
  else if 0 ≤ leading then
    let whole := (leading + 1).toNat
    digits.take whole ++ '.' :: digits.drop whole
  else
    '0' :: '.' :: List.replicate (-leading - 1).toNat '0' ++ digits

/-- A minus sign for a negative number. -/
def signText (negative : Bool) : List Char := if negative then ['-'] else []

/-- A number as it is shown. -/
def text : Binary64 → String
  | .nan => "nan"
  | .infinite negative => String.ofList (signText negative ++ ['i', 'n', 'f'])
  | .finite negative mantissa exponent =>
    String.ofList (signText negative ++
      if mantissa = 0 then ['0', '.', '0'] else layout (shortest mantissa exponent))

end Binary64

end BoardSearch
