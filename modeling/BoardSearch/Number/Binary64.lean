/-!
# Binary64 numbers

A number of the binary64 format is kept as the dyadic rational it stands for,
so that reading, comparing and printing are exact integer arithmetic. Each
operation computes the exact result and rounds it once.

## Main definitions

* `Binary64`: a finite number, an infinity, or not a number;
* `Binary64.ofRatio`: the number nearest to a quotient, ties to an even mantissa;
* `Binary64.ofDecimal`: the number nearest to a decimal;
* `Binary64.trunc?`: the integer part, toward zero;
* `Binary64.compareInt?`: the exact comparison with an integer.

## Design notes

A finite number has a mantissa below `2 ^ 53` and an exponent of at least
`-1074`; the mantissa is at least `2 ^ 52` unless the exponent is `-1074`. So
equal numbers have equal forms, apart from the sign of zero.
-/

namespace BoardSearch

/-- A binary64 number. A finite one is `mantissa * 2 ^ exponent`, negated when
`negative` holds. -/
inductive Binary64 where
  | finite (negative : Bool) (mantissa : Nat) (exponent : Int)
  | infinite (negative : Bool)
  | nan
deriving DecidableEq

namespace Binary64

/-- The least exponent of the format. -/
def minExponent : Int := -1074

/-- The greatest exponent of the format. -/
def maxExponent : Int := 971

/-- Zero. -/
def zero : Binary64 := .finite false 0 minExponent

/-- The integer nearest to `num / den`, the even one on a tie. -/
def roundQuotient (num den : Nat) : Nat :=
  let quotient := num / den
  let twice := 2 * (num % den)
  if twice < den then quotient
  else if den < twice then quotient + 1
  else if quotient % 2 = 0 then quotient
  else quotient + 1

/-- The quotient of `num` by `den * base ^ scale`, as numerator and denominator. -/
def scaled (base num den : Nat) (scale : Int) : Nat × Nat :=
  (num * Nat.pow base (-scale).toNat, den * Nat.pow base scale.toNat)

/-- The number with a given exponent and a rounded mantissa, which may have
reached `2 ^ 53`. -/
def ofRounded (negative : Bool) (mantissa : Nat) (exponent : Int) : Binary64 :=
  let (mantissa, exponent) :=
    if mantissa = Nat.pow 2 53 then (Nat.pow 2 52, exponent + 1) else (mantissa, exponent)
  if maxExponent < exponent then .infinite negative else .finite negative mantissa exponent

/-- The number nearest to `num / den`, negated when `negative` holds. The first
guess of the exponent makes the mantissa at least `2 ^ 52` and less than
`2 ^ 54`. -/
def ofRatio (negative : Bool) (num den : Nat) : Binary64 :=
  if num = 0 then .finite negative 0 minExponent
  else
    let guess : Int := num.log2 - den.log2 - 53
    let (p, q) := scaled 2 num den guess
    let exponent := max minExponent (if p < Nat.pow 2 53 * q then guess else guess + 1)
    let (p, q) := scaled 2 num den exponent
    ofRounded negative (roundQuotient p q) exponent

/-- The number nearest to an integer. -/
def ofInt (n : Int) : Binary64 := ofRatio (n < 0) n.natAbs 1

/-- The number nearest to `digits * 10 ^ exponent`. Decimals beyond the range
of the format are told by their size, without computing the power. -/
def ofDecimal (negative : Bool) (digits : Nat) (exponent : Int) : Binary64 :=
  let size : Int := exponent + (Nat.toDigits 10 digits).length
  if digits = 0 || size < -330 then .finite negative 0 minExponent
  else if 330 < size then .infinite negative
  else
    let (p, q) := scaled 10 digits 1 (-exponent)
    ofRatio negative p q

/-- The magnitude of a finite number as a quotient of naturals. -/
def ratio (mantissa : Nat) (exponent : Int) : Nat × Nat :=
  scaled 2 mantissa 1 (-exponent)

/-- A natural number with its sign. -/
def signed (negative : Bool) (n : Nat) : Int := if negative then -(n : Int) else n

/-- The exact value of a finite number, as a quotient. -/
def value? : Binary64 → Option (Int × Nat)
  | .finite negative mantissa exponent =>
    let (p, q) := ratio mantissa exponent
    some (signed negative p, q)
  | _ => none

/-- The integer part of a finite number: its value, truncated toward zero. -/
def trunc? : Binary64 → Option Int
  | .finite negative mantissa exponent =>
    let (p, q) := ratio mantissa exponent
    some (signed negative (p / q))
  | _ => none

/-- How an integer compares with a number; nothing compares with `nan`. -/
def compareInt? (n : Int) : Binary64 → Option Ordering
  | .finite negative mantissa exponent =>
    let (p, q) := ratio mantissa exponent
    some (compare (n * q) (signed negative p))
  | .infinite negative => some (if negative then .gt else .lt)
  | .nan => none

/-- How two numbers compare by value; nothing compares with `nan`. -/
def compare? : Binary64 → Binary64 → Option Ordering
  | .nan, _ | _, .nan => none
  | .infinite s, .infinite t => some (compare t.toNat s.toNat)
  | .infinite s, _ => some (if s then .lt else .gt)
  | _, .infinite t => some (if t then .gt else .lt)
  | .finite s m e, .finite t n f =>
    let (p, q) := ratio m e
    let (p', q') := ratio n f
    some (compare (signed s p * q') (signed t p' * q))

/-- A number is zero, of either sign. -/
def isZero : Binary64 → Bool
  | .finite _ mantissa _ => mantissa == 0
  | _ => false

/-- The number with the opposite sign. -/
def neg : Binary64 → Binary64
  | .finite negative mantissa exponent => .finite (!negative) mantissa exponent
  | .infinite negative => .infinite (!negative)
  | .nan => .nan

/-- The rounded sum. A sum of zero is negative only for two negative zeros. -/
def add : Binary64 → Binary64 → Binary64
  | .nan, _ | _, .nan => .nan
  | .infinite s, .infinite t => if s = t then .infinite s else .nan
  | .infinite s, _ | _, .infinite s => .infinite s
  | .finite s m e, .finite t n f =>
    let (p, q) := ratio m e
    let (p', q') := ratio n f
    let sum := signed s p * q' + signed t p' * q
    if sum = 0 then .finite (s && t) 0 minExponent
    else ofRatio (sum < 0) sum.natAbs (q * q')

/-- The rounded difference. -/
def sub (x y : Binary64) : Binary64 := add x y.neg

/-- The rounded product. -/
def mul : Binary64 → Binary64 → Binary64
  | .nan, _ | _, .nan => .nan
  | .infinite s, .infinite t => .infinite (s != t)
  | .infinite s, .finite t n _ | .finite t n _, .infinite s =>
    if n = 0 then .nan else .infinite (s != t)
  | .finite s m e, .finite t n f =>
    let (p, q) := ratio m e
    let (p', q') := ratio n f
    ofRatio (s != t) (p * p') (q * q')

end Binary64

end BoardSearch
