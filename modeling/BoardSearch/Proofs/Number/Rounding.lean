import BoardSearch.Number.Binary64
import Mathlib.Algebra.Order.Field.Power
import Mathlib.Data.Int.Log
import Mathlib.Data.Rat.Floor
import Mathlib.Tactic.FieldSimp
import Mathlib.Tactic.Linarith
import Mathlib.Tactic.NormNum
import Mathlib.Tactic.Positivity

/-!
# Rounding to binary64 numbers

A quotient of naturals is rounded to a number that depends on its value alone, and not on
how the quotient is written. What comes of rounding has the form that the format has for
it, and a number of that form is what its own value is rounded to.

## Main definitions

* `Binary64.IsCanonical`: a finite number has the form that the format has for it.

## Main statements

* `Binary64.ofRatio_eq`: the exponent of a rounded quotient from bounds on its value;
* `Binary64.ofRatio_congr`: equal quotients are rounded to the same number;
* `Binary64.ofRatio_ratio`: the exact value of a number is rounded to that number;
* `Binary64.canonical_ofRatio`: what a quotient is rounded to is canonical.
-/

namespace BoardSearch.Binary64

/-- The mantissa of a finite number fills its bits, unless the exponent is the least. -/
def IsCanonical : Binary64 → Prop
  | .finite _ mantissa exponent => mantissa < 2 ^ 53 ∧ minExponent ≤ exponent ∧
      exponent ≤ maxExponent ∧ (2 ^ 52 ≤ mantissa ∨ exponent = minExponent)
  | .infinite _ | .nan => True

/-- The number is neither infinite nor the lack of one. -/
def isFinite : Binary64 → Bool
  | .finite _ _ _ => true
  | .infinite _ | .nan => false

/-! ## Quotients -/

theorem roundQuotient_mul {k : Nat} (hk : 0 < k) (num den : Nat) :
    roundQuotient (k * num) (k * den) = roundQuotient num den := by
  have hquotient : k * num / (k * den) = num / den := Nat.mul_div_mul_left num den hk
  have hrest : k * num % (k * den) = k * (num % den) := Nat.mul_mod_mul_left k num den
  have htwice : 2 * (k * (num % den)) = k * (2 * (num % den)) := Nat.mul_left_comm 2 k _
  unfold roundQuotient
  simp only [hquotient, hrest, htwice, Nat.mul_lt_mul_left hk]

theorem roundQuotient_congr {p q p' q' : Nat} (hq : 0 < q) (hq' : 0 < q')
    (h : p * q' = p' * q) : roundQuotient p q = roundQuotient p' q' := by
  rw [← roundQuotient_mul hq' p q, ← roundQuotient_mul hq p' q', Nat.mul_comm q' p, h,
    Nat.mul_comm p' q, Nat.mul_comm q' q]

theorem roundQuotient_exact {den : Nat} (hden : 0 < den) (n : Nat) :
    roundQuotient (n * den) den = n := by
  simp [roundQuotient, Nat.mul_div_cancel n hden, hden]

theorem le_roundQuotient (num den : Nat) : num / den ≤ roundQuotient num den := by
  unfold roundQuotient
  dsimp only
  split_ifs <;> omega

theorem roundQuotient_le (num den : Nat) : roundQuotient num den ≤ num / den + 1 := by
  unfold roundQuotient
  dsimp only
  split_ifs <;> omega

theorem mul_eq_mul_of_div_eq {p q p' q' : Nat} (hq : 0 < q) (hq' : 0 < q')
    (h : (p / q : ℚ) = p' / q') : p * q' = p' * q := by
  rw [div_eq_div_iff (by exact_mod_cast hq.ne') (by exact_mod_cast hq'.ne')] at h
  exact_mod_cast h

/-- A scaled quotient has the value of the quotient, divided by the power of the base. -/
theorem scaled_div {base : Nat} (hbase : 0 < base) (num den : Nat) (scale : Int) :
    ((scaled base num den scale).1 : ℚ) / (scaled base num den scale).2 =
      num / den * (base : ℚ) ^ (-scale) := by
  have hne : (base : ℚ) ≠ 0 := by exact_mod_cast hbase.ne'
  unfold scaled
  dsimp only
  push_cast [Nat.pow_eq]
  obtain hscale | hscale := le_total 0 scale
  · obtain ⟨n, rfl⟩ := Int.eq_ofNat_of_zero_le hscale
    simp only [Int.toNat_neg_natCast, Int.toNat_natCast, pow_zero, mul_one, zpow_neg,
      zpow_natCast]
    field_simp
  · obtain ⟨n, hn⟩ := Int.eq_ofNat_of_zero_le (Int.neg_nonneg.mpr hscale)
    obtain rfl : scale = -(n : Int) := by omega
    simp only [neg_neg, Int.toNat_neg_natCast, Int.toNat_natCast, pow_zero, mul_one,
      zpow_natCast]
    field_simp

theorem scaled_snd_pos {base den : Nat} (hbase : 0 < base) (hden : 0 < den) (num : Nat)
    (scale : Int) : 0 < (scaled base num den scale).2 :=
  Nat.mul_pos hden (Nat.pow_pos hbase)

/-! ## The exponent -/

variable {num den : Nat}

/-- A quotient lies between powers of two that its binary logarithms give. -/
theorem log2_bounds (hnum : num ≠ 0) (hden : den ≠ 0) :
    (2 : ℚ) ^ ((num.log2 : Int) - den.log2 - 1) < num / den ∧
      (num / den : ℚ) < 2 ^ ((num.log2 : Int) - den.log2 + 1) := by
  have hbelow : ∀ n : Nat, n ≠ 0 → (2 : ℚ) ^ (n.log2 : Int) ≤ n := by
    intro n hn
    rw [zpow_natCast]
    exact_mod_cast Nat.log2_self_le hn
  have habove : ∀ n : Nat, (n : ℚ) < 2 ^ ((n.log2 : Int) + 1) := by
    intro n
    have h : n < 2 ^ (n.log2 + 1) := Nat.lt_log2_self
    exact_mod_cast h
  have hpos : (0 : ℚ) < den := by exact_mod_cast Nat.pos_of_ne_zero hden
  constructor
  · rw [lt_div_iff₀ hpos]
    calc (2 : ℚ) ^ ((num.log2 : Int) - den.log2 - 1) * den
        < 2 ^ ((num.log2 : Int) - den.log2 - 1) * 2 ^ ((den.log2 : Int) + 1) :=
          mul_lt_mul_of_pos_left (habove den) (by positivity)
      _ = 2 ^ (num.log2 : Int) := by
          rw [← zpow_add₀ two_ne_zero]
          congr 1
          omega
      _ ≤ num := hbelow num hnum
  · rw [div_lt_iff₀ hpos]
    calc (num : ℚ) < 2 ^ ((num.log2 : Int) + 1) := habove num
      _ = 2 ^ ((num.log2 : Int) - den.log2 + 1) * 2 ^ (den.log2 : Int) := by
          rw [← zpow_add₀ two_ne_zero]
          congr 1
          omega
      _ ≤ 2 ^ ((num.log2 : Int) - den.log2 + 1) * den :=
          mul_le_mul_of_nonneg_left (hbelow den hden) (by positivity)

/-- There is one exponent with which a quotient fills the bits of a mantissa. -/
theorem exists_exponent (hnum : num ≠ 0) (hden : den ≠ 0) : ∃ e : Int,
    (2 : ℚ) ^ (e + 52) ≤ num / den ∧ (num / den : ℚ) < 2 ^ (e + 53) := by
  have hpos : (0 : ℚ) < num / den :=
    div_pos (by exact_mod_cast Nat.pos_of_ne_zero hnum) (by exact_mod_cast Nat.pos_of_ne_zero hden)
  refine ⟨Int.log 2 (num / den : ℚ) - 52, ?_, ?_⟩
  · rw [Int.sub_add_cancel]
    exact_mod_cast Int.zpow_log_le_self one_lt_two hpos
  · have hnext : Int.log 2 (num / den : ℚ) - 52 + 53 = Int.log 2 (num / den : ℚ) + 1 := by omega
    rw [hnext]
    exact_mod_cast Int.lt_zpow_succ_log_self one_lt_two (num / den : ℚ)

/-- A multiple of the denominator of a scaled quotient is compared with its numerator. -/
theorem mul_scaled_le_iff (hden : den ≠ 0) (k : Nat) (e : Int) :
    k * (scaled 2 num den e).2 ≤ (scaled 2 num den e).1 ↔ (k : ℚ) * 2 ^ e ≤ num / den := by
  have hpos := scaled_snd_pos two_pos (Nat.pos_of_ne_zero hden) num e
  have hq : (0 : ℚ) < (scaled 2 num den e).2 := by exact_mod_cast hpos
  rw [← Nat.cast_le (α := ℚ), Nat.cast_mul, ← le_div_iff₀ hq, scaled_div two_pos, zpow_neg,
    Nat.cast_ofNat, ← div_eq_mul_inv, le_div_iff₀ (by positivity)]

/-- A rounded quotient has the exponent with which it fills the bits of a mantissa, unless
that is below the least one. -/
theorem ofRatio_eq (negative : Bool) (hnum : num ≠ 0) (hden : den ≠ 0) {e : Int}
    (hlow : (2 : ℚ) ^ (e + 52) ≤ num / den) (hhigh : (num / den : ℚ) < 2 ^ (e + 53)) :
    ofRatio negative num den =
      ofRounded negative (roundQuotient (scaled 2 num den (max minExponent e)).1
        (scaled 2 num den (max minExponent e)).2) (max minExponent e) := by
  have hlt : ∀ {m n : Int}, (2 : ℚ) ^ m < 2 ^ n → m < n :=
    (zpow_lt_zpow_iff_right₀ one_lt_two).mp
  obtain ⟨hguessLow, hguessHigh⟩ := log2_bounds hnum hden
  have hguess : ∀ guess : Int, guess = (num.log2 : Int) - den.log2 - 53 →
      (if (scaled 2 num den guess).1 < Nat.pow 2 53 * (scaled 2 num den guess).2 then guess
        else guess + 1) = e := by
    intro guess heq
    -- the guess is the exponent or one less, and the comparison tells which
    have hle : guess ≤ e := by
      have := hlt (hguessLow.trans hhigh)
      omega
    have hge : e ≤ guess + 1 := by
      have := hlt (hlow.trans_lt hguessHigh)
      omega
    have hcompare : (scaled 2 num den guess).1 < Nat.pow 2 53 * (scaled 2 num den guess).2 ↔
        (num / den : ℚ) < 2 ^ (guess + 53) := by
      rw [← not_le, mul_scaled_le_iff hden, not_le, zpow_add₀ two_ne_zero, mul_comm]
      norm_num
    split_ifs with h
    · have := hlt (hlow.trans_lt (hcompare.mp h))
      omega
    · have := hlt ((not_lt.mp (mt hcompare.mpr h)).trans_lt hhigh)
      omega
  unfold ofRatio
  rw [if_neg hnum]
  dsimp only
  rw [hguess _ rfl]

theorem le_roundQuotient_scaled (hden : den ≠ 0) {e : Int}
    (hlow : (2 : ℚ) ^ (e + 52) ≤ num / den) :
    2 ^ 52 ≤ roundQuotient (scaled 2 num den e).1 (scaled 2 num den e).2 := by
  have hpos := scaled_snd_pos two_pos (Nat.pos_of_ne_zero hden) num e
  have hle := (mul_scaled_le_iff hden (2 ^ 52) e).mpr (by
    rw [zpow_add₀ two_ne_zero, mul_comm] at hlow
    exact_mod_cast hlow)
  exact ((Nat.le_div_iff_mul_le hpos).mpr hle).trans (le_roundQuotient _ _)

theorem roundQuotient_scaled_le (hden : den ≠ 0) {e : Int}
    (hhigh : (num / den : ℚ) < 2 ^ (e + 53)) :
    roundQuotient (scaled 2 num den e).1 (scaled 2 num den e).2 ≤ 2 ^ 53 := by
  have hpos := scaled_snd_pos two_pos (Nat.pos_of_ne_zero hden) num e
  have hlt : (scaled 2 num den e).1 < 2 ^ 53 * (scaled 2 num den e).2 := by
    refine not_le.mp (mt (mul_scaled_le_iff hden (2 ^ 53) e).mp (not_le.mpr ?_))
    rw [zpow_add₀ two_ne_zero, mul_comm] at hhigh
    exact_mod_cast hhigh
  exact (roundQuotient_le _ _).trans ((Nat.div_lt_iff_lt_mul hpos).mpr hlt)

/-! ## What is rounded to what -/

theorem ofRatio_congr (negative : Bool) {num' den' : Nat} (hden : den ≠ 0) (hden' : den' ≠ 0)
    (h : num * den' = num' * den) : ofRatio negative num den = ofRatio negative num' den' := by
  by_cases hnum : num = 0
  · have hnum' : num' = 0 := by
      rw [hnum, Nat.zero_mul] at h
      exact (Nat.mul_eq_zero.mp h.symm).resolve_right hden
    rw [hnum, hnum', ofRatio, ofRatio, if_pos rfl, if_pos rfl]
  · have hnum' : num' ≠ 0 := by
      rintro rfl
      rw [Nat.zero_mul] at h
      exact (Nat.mul_ne_zero hnum hden') h
    have hvalue : (num / den : ℚ) = num' / den' := by
      rw [div_eq_div_iff (by exact_mod_cast hden) (by exact_mod_cast hden')]
      exact_mod_cast h
    obtain ⟨e, hlow, hhigh⟩ := exists_exponent hnum hden
    rw [ofRatio_eq negative hnum hden hlow hhigh,
      ofRatio_eq negative hnum' hden' (hvalue ▸ hlow) (hvalue ▸ hhigh)]
    congr 1
    have hpos := scaled_snd_pos two_pos (Nat.pos_of_ne_zero hden) num (max minExponent e)
    have hpos' := scaled_snd_pos two_pos (Nat.pos_of_ne_zero hden') num' (max minExponent e)
    refine roundQuotient_congr hpos hpos' (mul_eq_mul_of_div_eq hpos hpos' ?_)
    rw [scaled_div two_pos, scaled_div two_pos, hvalue]

theorem canonical_ofRounded (negative : Bool) {mantissa : Nat} {exponent : Int}
    (hmantissa : mantissa ≤ 2 ^ 53) (hexponent : minExponent ≤ exponent)
    (hfills : 2 ^ 52 ≤ mantissa ∨ exponent = minExponent) :
    (ofRounded negative mantissa exponent).IsCanonical := by
  unfold ofRounded
  by_cases hfull : mantissa = Nat.pow 2 53
  · rw [if_pos hfull]
    dsimp only
    split_ifs with hlarge
    · trivial
    · exact ⟨by decide, by omega, by omega, .inl (by decide)⟩
  · rw [if_neg hfull]
    dsimp only
    split_ifs with hlarge
    · trivial
    · exact ⟨lt_of_le_of_ne hmantissa hfull, hexponent, by omega, hfills⟩

/-- What a quotient is rounded to has the form that the format has for it. -/
theorem canonical_ofRatio (negative : Bool) (hden : den ≠ 0) :
    (ofRatio negative num den).IsCanonical := by
  by_cases hnum : num = 0
  · rw [ofRatio, if_pos hnum]
    exact ⟨by decide, le_rfl, by decide, .inr rfl⟩
  · obtain ⟨e, hlow, hhigh⟩ := exists_exponent hnum hden
    rw [ofRatio_eq negative hnum hden hlow hhigh]
    have hbelow : (num / den : ℚ) < 2 ^ (max minExponent e + 53) :=
      hhigh.trans_le (zpow_le_zpow_right₀ one_le_two (by omega))
    refine canonical_ofRounded negative (roundQuotient_scaled_le hden hbelow) (le_max_left _ _) ?_
    obtain he | he := le_total minExponent e
    · rw [max_eq_right he]
      exact .inl (le_roundQuotient_scaled hden hlow)
    · exact .inr (max_eq_left he)

theorem ratio_div (mantissa : Nat) (exponent : Int) :
    ((ratio mantissa exponent).1 : ℚ) / (ratio mantissa exponent).2 = mantissa * 2 ^ exponent := by
  have h := scaled_div two_pos mantissa 1 (-exponent)
  rwa [neg_neg, Nat.cast_one, div_one] at h

/-- The exact value of a canonical number is rounded to that number. -/
theorem ofRatio_ratio (negative : Bool) {mantissa : Nat} {exponent : Int}
    (hcanonical : (finite negative mantissa exponent).IsCanonical) (hmantissa : mantissa ≠ 0) :
    ofRatio negative (ratio mantissa exponent).1 (ratio mantissa exponent).2 =
      .finite negative mantissa exponent := by
  obtain ⟨hbits, hmin, hmax, hfills⟩ := hcanonical
  have hvalue := ratio_div mantissa exponent
  have hden : (ratio mantissa exponent).2 ≠ 0 := (scaled_snd_pos two_pos one_pos mantissa _).ne'
  have hnum : (ratio mantissa exponent).1 ≠ 0 :=
    Nat.mul_ne_zero hmantissa (Nat.pow_pos two_pos).ne'
  generalize (ratio mantissa exponent).1 = num at hvalue hnum ⊢
  generalize (ratio mantissa exponent).2 = den at hvalue hden ⊢
  obtain ⟨e, hlow, hhigh⟩ := exists_exponent hnum hden
  have hlt : ∀ {m n : Int}, (2 : ℚ) ^ m < 2 ^ n → m < n :=
    (zpow_lt_zpow_iff_right₀ one_lt_two).mp
  -- the mantissa fills its bits with its own exponent, or the exponent is the least one
  have hexponent : max minExponent e = exponent := by
    have hle : e ≤ exponent := by
      have hbelow : (mantissa * 2 ^ exponent : ℚ) < 2 ^ (exponent + 53) := by
        rw [zpow_add₀ two_ne_zero, mul_comm]
        exact mul_lt_mul_of_pos_left (by exact_mod_cast hbits) (by positivity)
      have := hlt ((hlow.trans_eq hvalue).trans_lt hbelow)
      omega
    obtain hfull | hleast := hfills
    · have habove : (2 : ℚ) ^ (exponent + 52) ≤ mantissa * 2 ^ exponent := by
        rw [zpow_add₀ two_ne_zero, mul_comm (mantissa : ℚ)]
        exact mul_le_mul_of_nonneg_left (by exact_mod_cast hfull) (by positivity)
      have := hlt (habove.trans_lt (hvalue.symm.trans_lt hhigh))
      omega
    · omega
  have hpos := scaled_snd_pos two_pos (Nat.pos_of_ne_zero hden) num exponent
  have hexact : (scaled 2 num den exponent).1 = mantissa * (scaled 2 num den exponent).2 := by
    have hscaled := scaled_div two_pos num den exponent
    rw [hvalue, Nat.cast_ofNat, mul_assoc, ← zpow_add₀ two_ne_zero, Int.add_right_neg, zpow_zero,
      mul_one, div_eq_iff (by exact_mod_cast hpos.ne')] at hscaled
    exact_mod_cast hscaled
  rw [ofRatio_eq negative hnum hden hlow hhigh, hexponent, hexact, roundQuotient_exact hpos]
  unfold ofRounded
  rw [if_neg (by exact hbits.ne)]
  dsimp only
  rw [if_neg (by omega)]

end BoardSearch.Binary64
