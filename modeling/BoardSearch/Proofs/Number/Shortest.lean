import BoardSearch.Number.Shortest
import BoardSearch.Proofs.Number.Rounding

/-!
# Decimals that read back

A decimal is read as a number that depends on its value alone: zeros may be taken from its
end. The decimal that a number is shown with is read as that number, whether one of the
grids had a hit or the exact value had to do.

## Main definitions

* `Decimal.value`: what a decimal stands for;
* `Decimal.leading`: the power of ten that its first digit counts.

## Main statements

* `Decimal.value_lt_iff`: how large a decimal is, by its first digit;
* `Binary64.ofDecimal_mul_pow`: a decimal with more zeros is the same number;
* `Binary64.canonical_ofDecimal`: what a decimal is read as is canonical;
* `Binary64.shortest_digits_ne_zero`: the shortest decimal of a number is not zero;
* `Binary64.readsBack_shortest`: the shortest decimal of a number reads back.
-/

namespace BoardSearch

namespace Binary64

/-! ## The digits of naturals -/

theorem length_toDigits_mul_ten {n : Nat} (hn : n ≠ 0) :
    (Nat.toDigits 10 (n * 10)).length = (Nat.toDigits 10 n).length + 1 := by
  have happend := Nat.toDigits_append_toDigits (by decide : 1 < 10) (Nat.pos_of_ne_zero hn)
    (by decide : 0 < 10)
  rw [Nat.add_zero, Nat.mul_comm] at happend
  rw [← happend, List.length_append]
  rfl

/-- A natural number is below the power of ten that its digits count, and not below the one
before. -/
theorem toDigits_bounds {n : Nat} (hn : n ≠ 0) :
    (10 : ℚ) ^ (((Nat.toDigits 10 n).length : Int) - 1) ≤ n ∧
      (n : ℚ) < 10 ^ ((Nat.toDigits 10 n).length : Int) := by
  have hpos : 0 < (Nat.toDigits 10 n).length := Nat.length_toDigits_pos
  have hbelow : n < 10 ^ (Nat.toDigits 10 n).length :=
    (Nat.length_toDigits_le_iff (by decide) hpos).mp le_rfl
  have habove : 10 ^ ((Nat.toDigits 10 n).length - 1) ≤ n := by
    by_cases hone : (Nat.toDigits 10 n).length = 1
    · rw [hone]
      exact Nat.one_le_iff_ne_zero.mpr hn
    · refine not_lt.mp fun hlt => ?_
      have hle := (Nat.length_toDigits_le_iff (by decide) (by omega)).mpr hlt
      omega
  constructor
  · have hcast : ((Nat.toDigits 10 n).length : Int) - 1 =
        (((Nat.toDigits 10 n).length - 1 : Nat) : Int) := by omega
    rw [hcast, zpow_natCast]
    exact_mod_cast habove
  · rw [zpow_natCast]
    exact_mod_cast hbelow

end Binary64

/-! ## The value of a decimal -/

namespace Decimal

/-- What a decimal stands for. -/
def value (d : Decimal) : ℚ := d.digits * 10 ^ d.exponent

/-- The power of ten that the first digit of a decimal counts. -/
def leading (d : Decimal) : Int := d.exponent + (Nat.toDigits 10 d.digits).length - 1

variable {d : Decimal}

/-- The first digit of a decimal tells how large it is. -/
theorem value_lt_iff (hd : d.digits ≠ 0) {k : Int} : d.value < 10 ^ k ↔ d.leading < k := by
  obtain ⟨hlow, hhigh⟩ := Binary64.toDigits_bounds hd
  have hpos : (0 : ℚ) < 10 ^ d.exponent := by positivity
  constructor
  · intro hlt
    refine (zpow_lt_zpow_iff_right₀ (by norm_num : (1 : ℚ) < 10)).mp ?_
    calc (10 : ℚ) ^ d.leading
        = 10 ^ (((Nat.toDigits 10 d.digits).length : Int) - 1) * 10 ^ d.exponent := by
          rw [← zpow_add₀ (by norm_num), leading]
          congr 1
          omega
      _ ≤ d.value := mul_le_mul_of_nonneg_right hlow hpos.le
      _ < 10 ^ k := hlt
  · intro hlt
    calc d.value < 10 ^ ((Nat.toDigits 10 d.digits).length : Int) * 10 ^ d.exponent :=
          mul_lt_mul_of_pos_right hhigh hpos
      _ = 10 ^ (d.leading + 1) := by
          rw [← zpow_add₀ (by norm_num), leading]
          congr 1
          omega
      _ ≤ 10 ^ k := zpow_le_zpow_right₀ (by norm_num) hlt

theorem value_nonneg (d : Decimal) : 0 ≤ d.value := by
  unfold value
  positivity

/-- Zeros at the end of the digits count for the exponent. -/
theorem value_mul_pow (digits k : Nat) (exponent : Int) :
    (mk (digits * 10 ^ k) exponent).value = (mk digits (exponent + k)).value := by
  simp only [value]
  push_cast
  rw [zpow_add₀ (by norm_num), zpow_natCast]
  ring

end Decimal

namespace Binary64

/-! ## Reading decimals -/

/-- The value of a decimal as a scaled quotient. -/
theorem scaled_decimal_div (digits : Nat) (exponent : Int) :
    ((scaled 10 digits 1 (-exponent)).1 : ℚ) / (scaled 10 digits 1 (-exponent)).2 =
      digits * 10 ^ exponent := by
  have h := scaled_div (by decide : 0 < 10) digits 1 (-exponent)
  rwa [neg_neg, Nat.cast_one, div_one, Nat.cast_ofNat] at h

theorem scaled_decimal_pos (digits : Nat) (exponent : Int) :
    0 < (scaled 10 digits 1 (-exponent)).2 :=
  scaled_snd_pos (by decide) one_pos digits _

theorem ofDecimal_mul_ten (negative : Bool) (digits : Nat) (exponent : Int) :
    ofDecimal negative (digits * 10) exponent = ofDecimal negative digits (exponent + 1) := by
  by_cases hzero : digits = 0
  · simp [ofDecimal, hzero]
  · have hsize : exponent + ((Nat.toDigits 10 (digits * 10)).length : Int) =
        exponent + 1 + (Nat.toDigits 10 digits).length := by
      rw [length_toDigits_mul_ten hzero]
      omega
    have hratio : ofRatio negative (scaled 10 (digits * 10) 1 (-exponent)).1
          (scaled 10 (digits * 10) 1 (-exponent)).2 =
        ofRatio negative (scaled 10 digits 1 (-(exponent + 1))).1
          (scaled 10 digits 1 (-(exponent + 1))).2 := by
      refine ofRatio_congr negative (scaled_decimal_pos _ _).ne' (scaled_decimal_pos _ _).ne' ?_
      refine mul_eq_mul_of_div_eq (scaled_decimal_pos _ _) (scaled_decimal_pos _ _) ?_
      rw [scaled_decimal_div, scaled_decimal_div, zpow_add₀ (by norm_num)]
      push_cast
      ring
    have hne : digits * 10 ≠ 0 := by omega
    unfold ofDecimal
    simp only [hsize, hzero, hne, hratio, decide_false, Bool.false_or]

/-- Zeros at the end of a decimal are of no account. -/
theorem ofDecimal_zero (negative : Bool) (exponent : Int) :
    ofDecimal negative 0 exponent = .finite negative 0 minExponent := by
  simp [ofDecimal]

theorem ofDecimal_mul_pow (negative : Bool) (digits k : Nat) (exponent : Int) :
    ofDecimal negative (digits * 10 ^ k) exponent = ofDecimal negative digits (exponent + k) := by
  induction k generalizing exponent with
  | zero => simp
  | succ k ih =>
    rw [pow_succ, ← Nat.mul_assoc, ofDecimal_mul_ten, ih]
    congr 1
    omega

/-- What a decimal is read as has the form that the format has for it. -/
theorem canonical_ofDecimal (negative : Bool) (digits : Nat) (exponent : Int) :
    (ofDecimal negative digits exponent).IsCanonical := by
  unfold ofDecimal
  dsimp only
  split_ifs
  · exact ⟨by decide, le_rfl, by decide, .inr rfl⟩
  · trivial
  · exact canonical_ofRatio negative (scaled_decimal_pos digits exponent).ne'

theorem ofRounded_sign {m mantissa : Nat} {e exponent : Int} (negative : Bool)
    (h : ofRounded false m e = .finite false mantissa exponent) :
    ofRounded negative m e = .finite negative mantissa exponent := by
  unfold ofRounded at h ⊢
  dsimp only at h ⊢
  split_ifs at h ⊢ <;> simp_all

theorem ofRatio_sign {num den mantissa : Nat} {exponent : Int} (negative : Bool)
    (h : ofRatio false num den = .finite false mantissa exponent) :
    ofRatio negative num den = .finite negative mantissa exponent := by
  unfold ofRatio at h ⊢
  by_cases hnum : num = 0
  · rw [if_pos hnum] at h ⊢
    obtain ⟨-, rfl, rfl⟩ := Binary64.finite.inj h
    rfl
  · rw [if_neg hnum] at h ⊢
    exact ofRounded_sign negative h

theorem ofDecimal_sign {digits mantissa : Nat} {exponent power : Int} (negative : Bool)
    (h : ofDecimal false digits power = .finite false mantissa exponent) :
    ofDecimal negative digits power = .finite negative mantissa exponent := by
  unfold ofDecimal at h ⊢
  dsimp only at h ⊢
  split_ifs at h ⊢
  · obtain ⟨-, rfl, rfl⟩ := Binary64.finite.inj h
    rfl
  · exact ofRatio_sign negative h

/-- A decimal with the exact value of a canonical number is neither so small nor so large that
its size alone tells what it is read as. -/
theorem size_of_value {digits mantissa : Nat} {exponent power : Int}
    (hcanonical : (finite false mantissa exponent).IsCanonical) (hmantissa : mantissa ≠ 0)
    (hdigits : digits ≠ 0) (hvalue : (digits * 10 ^ power : ℚ) = mantissa * 2 ^ exponent) :
    -330 ≤ power + ((Nat.toDigits 10 digits).length : Int) ∧
      power + ((Nat.toDigits 10 digits).length : Int) ≤ 330 := by
  obtain ⟨hbits, hmin, hmax, -⟩ := hcanonical
  obtain ⟨hlow, hhigh⟩ := toDigits_bounds hdigits
  generalize ((Nat.toDigits 10 digits).length : Int) = length at hlow hhigh ⊢
  have hone : (1 : ℚ) ≤ mantissa := by exact_mod_cast Nat.one_le_iff_ne_zero.mpr hmantissa
  have hlt : ∀ {m n : Int}, (10 : ℚ) ^ m < 10 ^ n → m < n :=
    (zpow_lt_zpow_iff_right₀ (by norm_num)).mp
  have hleastPower : 2 ^ 1074 < 10 ^ 331 := by decide +kernel
  have hmostPower : 2 ^ 53 * 2 ^ 971 < 10 ^ 330 := by decide +kernel
  have hleast : (10 : ℚ) ^ (-331 : Int) < 10 ^ (power + length) :=
    calc (10 : ℚ) ^ (-331 : Int) < 2 ^ (-1074 : Int) := by
          rw [zpow_neg, zpow_neg]
          exact inv_strictAnti₀ (by positivity) (by exact_mod_cast hleastPower)
      _ ≤ 2 ^ exponent := zpow_le_zpow_right₀ one_le_two hmin
      _ ≤ mantissa * 2 ^ exponent := le_mul_of_one_le_left (by positivity) hone
      _ = digits * 10 ^ power := hvalue.symm
      _ < 10 ^ length * 10 ^ power := mul_lt_mul_of_pos_right hhigh (by positivity)
      _ = 10 ^ (power + length) := by rw [← zpow_add₀ (by norm_num), Int.add_comm]
  have hmost : (10 : ℚ) ^ (length - 1 + power) < 10 ^ (330 : Int) :=
    calc (10 : ℚ) ^ (length - 1 + power) = 10 ^ (length - 1) * 10 ^ power :=
          zpow_add₀ (by norm_num) _ _
      _ ≤ digits * 10 ^ power := mul_le_mul_of_nonneg_right hlow (by positivity)
      _ = mantissa * 2 ^ exponent := hvalue
      _ ≤ 2 ^ 53 * 2 ^ (971 : Int) :=
        mul_le_mul (by exact_mod_cast hbits.le) (zpow_le_zpow_right₀ one_le_two hmax)
          (by positivity) (by positivity)
      _ < 10 ^ (330 : Int) := by exact_mod_cast hmostPower
  have hleastSize := hlt hleast
  have hmostSize := hlt hmost
  omega

/-- The decimal with the exact value of a canonical number is read as that number. -/
theorem ofDecimal_of_value {digits mantissa : Nat} {exponent power : Int}
    (hcanonical : (finite false mantissa exponent).IsCanonical) (hmantissa : mantissa ≠ 0)
    (hvalue : (digits * 10 ^ power : ℚ) = mantissa * 2 ^ exponent) :
    ofDecimal false digits power = .finite false mantissa exponent := by
  have hdigits : digits ≠ 0 := by
    rintro rfl
    rw [Nat.cast_zero, zero_mul] at hvalue
    exact (mul_pos (by exact_mod_cast Nat.pos_of_ne_zero hmantissa)
      (by positivity : (0 : ℚ) < 2 ^ exponent)).ne hvalue
  obtain ⟨hleast, hmost⟩ := size_of_value hcanonical hmantissa hdigits hvalue
  have hratio : ofRatio false (scaled 10 digits 1 (-power)).1 (scaled 10 digits 1 (-power)).2 =
      .finite false mantissa exponent := by
    have hpos : 0 < (ratio mantissa exponent).2 := scaled_snd_pos two_pos one_pos mantissa _
    rw [← ofRatio_ratio false hcanonical hmantissa]
    refine ofRatio_congr false (scaled_decimal_pos _ _).ne' hpos.ne' ?_
    refine mul_eq_mul_of_div_eq (scaled_decimal_pos _ _) hpos ?_
    rw [scaled_decimal_div, hvalue, ratio_div]
  unfold ofDecimal
  simp only [hdigits, not_lt.mpr hleast, not_lt.mpr hmost, decide_false, Bool.or_self,
    Bool.false_eq_true, if_false]
  exact hratio

/-! ## The shortest decimal -/

/-- How a finite number is shown. -/
theorem toList_text (negative : Bool) (mantissa : Nat) (exponent : Int) :
    (text (.finite negative mantissa exponent)).toList = signText negative ++
      if mantissa = 0 then ['0', '.', '0'] else layout (shortest mantissa exponent) :=
  String.toList_ofList

section

variable {mantissa : Nat} {exponent : Int}

/-- The decimal is read as the positive number with this mantissa and this exponent. -/
def ReadsBack (mantissa : Nat) (exponent : Int) (d : Decimal) : Prop :=
  ofDecimal false d.digits d.exponent = .finite false mantissa exponent

theorem ReadsBack.digits_ne_zero {d : Decimal} (h : ReadsBack mantissa exponent d)
    (hmantissa : mantissa ≠ 0) : d.digits ≠ 0 := by
  intro hzero
  unfold ReadsBack at h
  rw [hzero] at h
  exact hmantissa (Binary64.finite.inj h).2.1.symm

/-- Without the zeros at its end a decimal reads back as before. -/
theorem ReadsBack.stripZeros (fuel : Nat) {d : Decimal} (h : ReadsBack mantissa exponent d) :
    ReadsBack mantissa exponent (stripZeros fuel d) := by
  induction fuel generalizing d with
  | zero => exact h
  | succ fuel ih =>
    unfold Binary64.stripZeros
    split_ifs with hzero
    · refine ih ?_
      show ofDecimal false (d.digits / 10) (d.exponent + 1) = _
      rw [← ofDecimal_mul_ten, Nat.div_mul_cancel (Nat.dvd_of_mod_eq_zero hzero)]
      exact h
    · exact h

theorem accepts_of_nearestOnGrid? {accepts : Decimal → Bool} {num den : Nat} {power : Int}
    {d : Decimal} (h : nearestOnGrid? accepts num den power = some d) : accepts d = true := by
  unfold nearestOnGrid? at h
  dsimp only at h
  split at h
  · rename_i hbelow habove
    have hchosen : ∀ {c : Prop} [Decidable c] {x y : Decimal}, accepts x = true →
        accepts y = true → accepts (if c then x else y) = true := by
      intro c _ x y hx hy
      split_ifs
      · exact hx
      · exact hy
    split at h <;> obtain rfl := Option.some.inj h
    · exact hbelow
    · exact habove
    · exact hchosen hbelow habove
  · rename_i hbelow _
    obtain rfl := Option.some.inj h
    exact hbelow
  · rename_i _ habove
    obtain rfl := Option.some.inj h
    exact habove
  · simp at h

theorem stripZeros_digits_ne_zero (fuel : Nat) {d : Decimal} (hd : d.digits ≠ 0) :
    (Binary64.stripZeros fuel d).digits ≠ 0 := by
  induction fuel generalizing d with
  | zero => exact hd
  | succ fuel ih =>
    unfold Binary64.stripZeros
    split_ifs with hzero
    · have hdiv : d.digits / 10 ≠ 0 := by omega
      exact ih hdiv
    · exact hd

/-- The decimal that a number other than zero is shown with is not zero. -/
theorem shortest_digits_ne_zero (hmantissa : mantissa ≠ 0) :
    (shortest mantissa exponent).digits ≠ 0 := by
  unfold shortest
  refine stripZeros_digits_ne_zero 20 ?_
  generalize hfound : (List.range 17).findSome? _ = found
  cases found with
  | some d =>
    obtain ⟨n, -, hn⟩ := List.exists_of_findSome?_eq_some hfound
    have hback : ReadsBack mantissa exponent d :=
      beq_iff_eq.mp (accepts_of_nearestOnGrid? hn)
    exact hback.digits_ne_zero hmantissa
  | none =>
    have hpow : ∀ b k : Nat, 0 < b → b.pow k ≠ 0 := fun b k hb => (Nat.pow_pos hb).ne'
    exact Nat.mul_ne_zero (Nat.mul_ne_zero hmantissa (hpow 2 _ two_pos)) (hpow 5 _ (by decide))

/-- The decimal that a canonical number is shown with is read as that number. -/
theorem readsBack_shortest (hcanonical : (finite false mantissa exponent).IsCanonical)
    (hmantissa : mantissa ≠ 0) : ReadsBack mantissa exponent (shortest mantissa exponent) := by
  unfold shortest
  refine ReadsBack.stripZeros 20 ?_
  generalize hfound : (List.range 17).findSome? _ = found
  cases found with
  | some d =>
    obtain ⟨n, -, hn⟩ := List.exists_of_findSome?_eq_some hfound
    exact beq_iff_eq.mp (accepts_of_nearestOnGrid? hn)
  | none =>
    -- no grid had a hit, so the decimal has the exact value
    refine ofDecimal_of_value hcanonical hmantissa ?_
    dsimp only [Option.getD_none, ratio, scaled]
    obtain hpositive | hnegative := le_total 0 exponent
    · obtain ⟨n, rfl⟩ := Int.eq_ofNat_of_zero_le hpositive
      simp
    · obtain ⟨n, hn⟩ := Int.eq_ofNat_of_zero_le (Int.neg_nonneg.mpr hnegative)
      obtain rfl : exponent = -(n : Int) := by omega
      have hmin : min (-(n : Int)) 0 = -n := by omega
      rw [hmin]
      simp only [neg_neg, Int.toNat_neg_natCast, Int.toNat_natCast, Nat.pow_eq, pow_zero, mul_one,
        zpow_neg, zpow_natCast, Nat.cast_mul, Nat.cast_pow, Nat.cast_ofNat]
      have hten : (10 : ℚ) ^ n = 5 ^ n * 2 ^ n := by
        rw [← mul_pow]
        norm_num
      rw [hten]
      field_simp

end

end Binary64

end BoardSearch
