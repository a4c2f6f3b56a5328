import BoardSearch.Proofs.Json.Digits
import Mathlib.Algebra.Order.Floor.Semifield

/-!
# The integer that a shown number begins with

A number is shown as a decimal. Where that is laid out with a point and without an exponent,
the text begins with the integer part of the decimal. With an exponent it begins with the first
digit alone, which is never the integer part: the number is then less than a ten-thousandth or
at least `10 ^ 16`.

## Main definitions

* `towardZero`: the integer part;
* `Json.Number.leading`: a written number, taken apart behind its integer part;
* `Binary64.shownValue?`: what the decimal that a number is shown with stands for;
* `Binary64.IsPlain`: what is shown without an exponent.

## Main statements

* `Json.Number.floor_value`: the integer part of a written number without an exponent;
* `Binary64.exists_written`: a shown number spells the decimal it is shown with;
* `Binary64.exists_leading`: what the text of a number begins with.
-/

namespace BoardSearch

/-- The integer part of a number, which has the sign of the number. -/
def towardZero (x : ℚ) : Int := if x < 0 then ⌈x⌉ else ⌊x⌋

theorem towardZero_of_nonneg {x : ℚ} (hx : 0 ≤ x) : towardZero x = ⌊x⌋ :=
  if_neg (not_lt.mpr hx)

theorem towardZero_neg (x : ℚ) : towardZero (-x) = -towardZero x := by
  unfold towardZero
  obtain hneg | rfl | hpos := lt_trichotomy x 0
  · rw [if_pos hneg, if_neg (neg_pos.mpr hneg).not_gt, Int.floor_neg]
  · simp
  · rw [if_pos (neg_lt_zero.mpr hpos), if_neg hpos.not_gt, Int.ceil_neg]

theorem towardZero_intCast (n : Int) : towardZero (n : ℚ) = n := by
  unfold towardZero
  split_ifs
  · exact Int.ceil_intCast n
  · exact Int.floor_intCast n

theorem abs_towardZero (x : ℚ) : |towardZero x| = ⌊|x|⌋ := by
  have hnonneg : ∀ {y : ℚ}, 0 ≤ y → |towardZero y| = ⌊|y|⌋ := by
    intro y hy
    rw [towardZero_of_nonneg hy, abs_of_nonneg hy, abs_of_nonneg (Int.floor_nonneg.mpr hy)]
  obtain hx | hx := le_total 0 x
  · exact hnonneg hx
  · rw [← abs_neg x, ← hnonneg (neg_nonneg.mpr hx), towardZero_neg, abs_neg]

/-! ## Written numbers -/

namespace Json.Number

variable (number : Number)

/-- A point or the marker of an exponent ends the digits of a written number. -/
theorem isDigit_head?_tail : ∀ c, number.tail.head? = some c → Text.isDigit c = false := by
  intro c hc
  unfold tail at hc
  cases hfraction : number.fraction with
  | some digits =>
    rw [hfraction] at hc
    obtain rfl : '.' = c := Option.some.inj hc
    decide +kernel
  | none =>
    cases hexponent : number.exponent with
    | none => simp [hfraction, hexponent] at hc
    | some exponent =>
      rw [hfraction, hexponent] at hc
      obtain rfl : exponent.marker = c := Option.some.inj hc
      obtain h | h := exponent.isMarker <;> rw [h] <;> decide +kernel

/-- The text of a number, taken apart behind its integer part. -/
def leading : Text.Leading :=
  .plain number.negative number.wholeDigits.2 number.wholeDigits.1 number.isDigit_head?_tail

theorem chars_leading : number.leading.chars = number.chars := by
  have hchars := number.chars_append []
  rw [List.append_nil, List.append_nil] at hchars
  rw [hchars]
  exact Text.Leading.chars_plain number.negative number.wholeDigits.2 number.wholeDigits.1
    number.isDigit_head?_tail

theorem value_leading :
    number.leading.value = Binary64.signed number.negative (plainValue number.whole) := by
  rw [plainValue_eq]
  exact Text.Leading.value_plain number.negative number.wholeDigits.2 number.wholeDigits.1
    number.isDigit_head?_tail

variable {number}

/-- Without an exponent the digits before the point are the integer part. -/
theorem floor_value (h : number.exponent = none) :
    ⌊number.decimal.value⌋₊ = plainValue number.whole := by
  have hlt : plainValue (number.fraction.getD []) < 10 ^ (number.fraction.getD []).length := by
    cases hfraction : number.fraction with
    | none => decide
    | some digits => exact plainValue_lt (number.fractionDigits digits hfraction).2
  have happend : plainValue (number.whole ++ number.fraction.getD []) =
      10 ^ (number.fraction.getD []).length * plainValue number.whole +
        plainValue (number.fraction.getD []) := by
    rw [plainValue_eq, Nat.ofDigitChars_append, Nat.ofDigitChars_eq_ofDigitChars_zero,
      ← plainValue_eq, ← plainValue_eq]
  have hvalue : number.decimal.value = (plainValue (number.whole ++ number.fraction.getD []) : ℚ) /
      (10 ^ (number.fraction.getD []).length : Nat) := by
    simp only [decimal, Decimal.value, h, Option.elim_none, zero_sub, zpow_neg, zpow_natCast,
      div_eq_mul_inv, Nat.cast_pow, Nat.cast_ofNat]
  -- the digits behind the point are less than a unit of those before it
  rw [hvalue, Nat.floor_div_eq_div, happend, Nat.mul_add_div (by positivity),
    Nat.div_eq_of_lt hlt, Nat.add_zero]

/-- How many digits can stand before the point of a number below a power of ten. -/
theorem length_whole_le (h : number.exponent = none) {k : Nat} (hk : 0 < k)
    (hlt : number.decimal.value < 10 ^ k) : number.whole.length ≤ k := by
  refine (plainValue_lt_pow_iff number.wholeDigits number.noLeadingZero hk).mp ?_
  rw [← floor_value h]
  refine (Nat.floor_lt number.decimal.value_nonneg).mpr ?_
  exact_mod_cast hlt

end Json.Number

namespace Binary64

/-! ## Texts of numbers -/

/-- What the decimal that a number is shown with stands for, apart from its sign. -/
def magnitude (mantissa : Nat) (exponent : Int) : ℚ :=
  if mantissa = 0 then 0 else (shortest mantissa exponent).value

/-- What the decimal that a finite number is shown with stands for. -/
def shownValue? : Binary64 → Option ℚ
  | .finite negative mantissa exponent =>
    some ((if negative then -1 else 1) * magnitude mantissa exponent)
  | _ => none

/-- The numbers that are shown without an exponent. -/
def IsPlain (x : ℚ) : Prop := x = 0 ∨ 10 ^ (-4 : Int) ≤ |x| ∧ |x| < 10 ^ (16 : Int)

theorem IsPlain.lt {x : ℚ} (h : IsPlain x) : x < 10 ^ 16 := by
  obtain rfl | ⟨-, hlt⟩ := h
  · norm_num
  · exact (le_abs_self x).trans_lt hlt

theorem magnitude_nonneg (mantissa : Nat) (exponent : Int) : 0 ≤ magnitude mantissa exponent := by
  unfold magnitude
  split_ifs
  · exact le_rfl
  · exact Decimal.value_nonneg _

theorem isPlain_value_iff {d : Decimal} (hd : d.digits ≠ 0) :
    IsPlain d.value ↔ -4 ≤ d.leading ∧ d.leading < 16 := by
  have hne : d.value ≠ 0 := mul_ne_zero (by exact_mod_cast hd) (by positivity)
  rw [IsPlain, or_iff_right hne, abs_of_nonneg d.value_nonneg, ← not_lt,
    Decimal.value_lt_iff hd, Decimal.value_lt_iff hd, not_lt]

theorem isPlain_signed_iff (negative : Bool) (x : ℚ) :
    IsPlain ((if negative then -1 else 1) * x) ↔ IsPlain x := by
  cases negative <;> simp [IsPlain]

theorem towardZero_signed (negative : Bool) {x : ℚ} (hx : 0 ≤ x) :
    towardZero ((if negative then -1 else 1) * x) = signed negative ⌊x⌋₊ := by
  have hfloor : towardZero x = ⌊x⌋₊ := by
    rw [towardZero_of_nonneg hx, Int.natCast_floor_eq_floor hx]
  cases negative with
  | false => simp [signed, hfloor]
  | true => simp [signed, towardZero_neg, hfloor]

theorem abs_signed (negative : Bool) (n : Nat) : |signed negative n| = n := by
  cases negative <;> simp [signed]

/-- A finite number is shown as a number that spells its decimal. That has no exponent, or it
has one and a digit other than zero before the point. -/
theorem exists_written (negative : Bool) (mantissa : Nat) (exponent : Int) :
    ∃ number : Json.Number,
      number.chars = (text (.finite negative mantissa exponent)).toList ∧
      number.negative = negative ∧ number.decimal.value = magnitude mantissa exponent ∧
      (number.exponent = none ∧ IsPlain (magnitude mantissa exponent) ∨
        (∃ c, number.whole = [c] ∧ c ≠ '0') ∧ ¬ IsPlain (magnitude mantissa exponent)) := by
  rw [toList_text]
  unfold magnitude
  by_cases hmantissa : mantissa = 0
  · obtain ⟨number, hnone, hwrites⟩ := Json.exists_zero negative
    rw [if_pos hmantissa, if_pos hmantissa]
    refine ⟨number, hwrites.chars, hwrites.negative_eq, ?_, .inl ⟨hnone, .inl rfl⟩⟩
    rw [hwrites.value_eq]
    simp [Decimal.value]
  · have hd : (shortest mantissa exponent).digits ≠ 0 := shortest_digits_ne_zero hmantissa
    obtain ⟨number, hwrites, hlayout⟩ := Json.exists_layout negative hd
    rw [if_neg hmantissa, if_neg hmantissa, isPlain_value_iff hd]
    refine ⟨number, hwrites.chars, hwrites.negative_eq, hwrites.value_eq, ?_⟩
    exact hlayout.imp_right (And.imp_right fun h => by omega)

/-- The text of a finite number begins with the integer part of what it stands for if it has
no exponent, and otherwise with a digit other than zero. -/
theorem exists_leading {x : Binary64} {q : ℚ} (hq : x.shownValue? = some q) :
    ∃ l : Text.Leading, l.chars = x.text.toList ∧ l.blanks = [] ∧ l.digits.length ≤ 16 ∧
      (IsPlain q → l.value = towardZero q) ∧
      (¬ IsPlain q → 1 ≤ |l.value| ∧ |l.value| ≤ 9) := by
  cases x with
  | nan | infinite => simp [shownValue?] at hq
  | finite negative mantissa exponent =>
    obtain rfl := Option.some.inj hq
    rw [isPlain_signed_iff, towardZero_signed negative (magnitude_nonneg mantissa exponent)]
    obtain ⟨number, hchars, hnegative, hvalue, ⟨hnone, hplain⟩ | ⟨⟨c, hwhole, hc⟩, hplain⟩⟩ :=
      exists_written negative mantissa exponent
    · -- what stands before the point is the integer part
      refine ⟨number.leading, number.chars_leading.trans hchars, rfl, ?_, fun _ => ?_,
        fun hnot => (hnot hplain).elim⟩
      · exact Json.Number.length_whole_le hnone (by decide) (hvalue ▸ hplain.lt)
      · rw [number.value_leading, hnegative, ← hvalue, Json.Number.floor_value hnone]
    · -- what stands before the point or the exponent is the first digit
      refine ⟨number.leading, number.chars_leading.trans hchars, rfl, ?_,
        fun h => (hplain h).elim, fun _ => ?_⟩
      · show number.whole.length ≤ 16
        simp [hwhole]
      · have hdigit : Text.isPlainDigit c = true :=
          number.wholeDigits.2 c (hwhole ▸ List.mem_singleton_self c)
        have hmost : Json.plainValue [c] < 10 := Json.plainValue_lt (hwhole ▸ number.wholeDigits.2)
        have hleast : 1 ≤ Json.plainValue [c] := by
          rw [Json.plainValue_cons]
          exact (Json.one_le_toNat_of_isPlainDigit hdigit hc).trans (by simp)
        rw [number.value_leading, abs_signed, hwhole]
        omega

/-- A digit other than zero is the integer part of no number that is shown with an exponent. -/
theorem ne_towardZero_of_not_isPlain {x : ℚ} (h : ¬ IsPlain x) {n : Int} (hleast : 1 ≤ |n|)
    (hmost : |n| ≤ 9) : n ≠ towardZero x := by
  rintro rfl
  rw [abs_towardZero] at hleast hmost
  refine h (.inr ⟨?_, ?_⟩)
  · have hone : (1 : ℚ) ≤ |x| := by exact_mod_cast Int.le_floor.mp hleast
    exact (zpow_le_one_of_nonpos₀ (by norm_num) (by decide)).trans hone
  · have hten : |x| < 10 := by
      have hlt := (Int.floor_lt (a := |x|) (z := 10)).mp (by omega)
      exact_mod_cast hlt
    exact hten.trans (by norm_num)

end Binary64

end BoardSearch
