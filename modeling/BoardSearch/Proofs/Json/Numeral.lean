import BoardSearch.Proofs.Json.Grammar
import BoardSearch.Proofs.Text.Numeral
import Mathlib.Algebra.Group.Nat.Defs
import Mathlib.Data.List.TakeDrop

/-!
# Reading numbers

The reader takes a number to its end, and its three parts are what the grammar says.

## Main definitions

* `Json.EndsNumber`: what follows does not go on with a number.

## Main statements

* `Json.plainValue_lt_pow_iff`: how long a row of digits is, by its value;
* `Json.Number.readNumber_chars`: what reading a number comes to.
-/

namespace BoardSearch.Json

/-- Neither a digit nor anything else that goes on with a number follows. -/
def EndsNumber (rest : List Char) : Prop :=
  ∀ c, rest.head? = some c → Text.isPlainDigit c = false ∧ c ≠ '.' ∧ c ≠ 'e' ∧ c ≠ 'E'

theorem spanPlainDigits_append {digits rest : List Char}
    (hdigits : ∀ c ∈ digits, Text.isPlainDigit c = true)
    (hrest : ∀ c, rest.head? = some c → Text.isPlainDigit c = false) :
    spanPlainDigits (digits ++ rest) = (digits, rest) := by
  unfold spanPlainDigits
  rw [List.span_eq_takeWhile_dropWhile, List.takeWhile_append_of_pos hdigits,
    List.dropWhile_append_of_pos hdigits]
  cases rest with
  | nil => simp
  | cons c rest => simp [hrest c rfl]

theorem exists_cons_of_areDigits {digits : List Char} (h : AreDigits digits) :
    ∃ c rest, digits = c :: rest ∧ Text.isPlainDigit c = true := by
  obtain ⟨hne, hdigits⟩ := h
  cases digits with
  | nil => exact absurd rfl hne
  | cons c rest => exact ⟨c, rest, rfl, hdigits c List.mem_cons_self⟩

theorem one_le_toNat_of_isPlainDigit {c : Char} (h : Text.isPlainDigit c = true)
    (hzero : c ≠ '0') : 1 ≤ c.toNat - '0'.toNat := by
  have hle : '0' ≤ c := by
    unfold Text.isPlainDigit at h
    simp only [Bool.and_eq_true, decide_eq_true_eq] at h
    exact h.1
  have hnat : '0'.toNat ≤ c.toNat := hle
  have hne : c.toNat ≠ '0'.toNat := fun heq => hzero (Char.toNat_inj.mp heq)
  omega

/-- A number is made of digits, signs, a point and the marker of an exponent. -/
theorem Number.isPlainDigit_or_mem {number : Number} {c : Char} (h : c ∈ number.chars) :
    Text.isPlainDigit c = true ∨ c ∈ ['-', '+', '.', 'e', 'E'] := by
  simp only [chars, List.mem_append] at h
  obtain ((h | h) | h) | h := h
  · right
    cases hnegative : number.negative <;> simp_all
  · exact .inl (number.wholeDigits.2 c h)
  · cases hfraction : number.fraction with
    | none => simp [hfraction] at h
    | some digits =>
      rw [hfraction] at h
      obtain rfl | h := List.mem_cons.mp h
      · exact .inr (by decide)
      · exact .inl ((number.fractionDigits digits hfraction).2 c h)
  · cases hexponent : number.exponent with
    | none => simp [hexponent] at h
    | some exponent =>
      rw [hexponent] at h
      obtain rfl | h := List.mem_cons.mp h
      · right
        obtain hmarker | hmarker := exponent.isMarker <;> simp [hmarker]
      · obtain h | h := List.mem_append.mp h
        · right
          revert h
          cases exponent.sign with
          | none => simp [signChars]
          | some sign => cases sign <;> simp +contextual [signChars]
        · exact .inl (exponent.areDigits.2 c h)

/-- The value of digits is that of a natural number written with them. -/
theorem plainValue_eq (digits : List Char) : plainValue digits = Nat.ofDigitChars 10 digits 0 := by
  rw [Nat.ofDigitChars_eq_foldl, plainValue, Text.positional, List.foldl_map]

theorem plainValue_cons (c : Char) (rest : List Char) :
    plainValue (c :: rest) = 10 ^ rest.length * (c.toNat - '0'.toNat) + plainValue rest := by
  rw [plainValue_eq, plainValue_eq, Nat.ofDigitChars_cons, Nat.ofDigitChars_eq_ofDigitChars_zero,
    Nat.mul_zero, Nat.zero_add]

theorem plainValue_lt {digits : List Char} (h : ∀ c ∈ digits, Text.isPlainDigit c = true) :
    plainValue digits < 10 ^ digits.length := by
  rw [plainValue_eq]
  exact Text.ofDigitChars_lt h

/-- A row of digits without a leading zero is as long as its value says. -/
theorem plainValue_lt_pow_iff {digits : List Char} (h : AreDigits digits)
    (hzero : digits.head? = some '0' → digits = ['0']) {k : Nat} (hk : 0 < k) :
    plainValue digits < 10 ^ k ↔ digits.length ≤ k := by
  constructor
  · intro hlt
    obtain ⟨c, rest, rfl, hc⟩ := exists_cons_of_areDigits h
    by_cases hleading : c = '0'
    · rw [hzero (by rw [hleading]; rfl)]
      exact hk
    · have hpos : 1 ≤ c.toNat - '0'.toNat := one_le_toNat_of_isPlainDigit hc hleading
      have hle := Nat.mul_le_mul_left (10 ^ rest.length) hpos
      rw [plainValue_cons] at hlt
      have hpow : 10 ^ rest.length < 10 ^ k := by omega
      exact (Nat.pow_lt_pow_iff_right (by decide)).mp hpow
  · intro hle
    exact Nat.lt_of_lt_of_le (plainValue_lt h.2) (Nat.pow_le_pow_right (by decide) hle)

theorem readExponent_chars (exponent : Exponent) {rest : List Char} (hrest : EndsNumber rest) :
    readExponent (exponent.chars ++ rest) = (some exponent.value, rest) := by
  have hmarker : (exponent.marker = 'e' || exponent.marker = 'E') = true := by
    obtain h | h := exponent.isMarker <;> simp [h]
  have hsign : Text.spanSign (signChars exponent.sign ++ (exponent.digits ++ rest)) =
      (exponent.sign, exponent.digits ++ rest) := by
    obtain ⟨c, more, hdigits, hc⟩ := exists_cons_of_areDigits exponent.areDigits
    cases exponent.sign with
    | none =>
      have hplus : c ≠ '+' := by
        rintro rfl
        exact absurd hc (by decide)
      have hminus : c ≠ '-' := by
        rintro rfl
        exact absurd hc (by decide)
      rw [hdigits]
      unfold Text.spanSign
      split
      · rename_i heq
        exact absurd (List.cons.inj heq).1 hplus
      · rename_i heq
        exact absurd (List.cons.inj heq).1 hminus
      · rfl
    | some sign => cases sign <;> rfl
  have hspan := spanPlainDigits_append exponent.areDigits.2 fun c hc => (hrest c hc).1
  have hnonempty : exponent.digits.isEmpty = false := by
    simpa using exponent.areDigits.1
  simp only [Exponent.chars, List.cons_append, List.append_assoc, readExponent, hmarker, hsign,
    hspan, hnonempty, if_true, Bool.false_eq_true, if_false, Exponent.value]

theorem readExponent_none {rest : List Char} (hrest : EndsNumber rest) :
    readExponent rest = (none, rest) := by
  cases rest with
  | nil => rfl
  | cons c rest =>
    obtain ⟨-, -, he, hE⟩ := hrest c rfl
    simp [readExponent, he, hE]

theorem readFraction_point {digits rest : List Char} (hdigits : AreDigits digits)
    (hrest : ∀ c, rest.head? = some c → Text.isPlainDigit c = false) :
    readFraction ('.' :: (digits ++ rest)) = (some digits, rest) := by
  have hspan := spanPlainDigits_append hdigits.2 hrest
  obtain ⟨c, more, rfl, hc⟩ := exists_cons_of_areDigits hdigits
  rw [List.cons_append] at hspan
  simp [readFraction, hc, hspan]

theorem readFraction_none {rest : List Char} (hrest : ∀ c, rest.head? = some c → c ≠ '.') :
    readFraction rest = (none, rest) := by
  unfold readFraction
  split
  · exact absurd rfl (hrest '.' rfl)
  · rfl

theorem readWhole_append {digits rest : List Char} (hdigits : AreDigits digits)
    (hzero : digits.head? = some '0' → digits = ['0'])
    (hrest : ∀ c, rest.head? = some c → Text.isPlainDigit c = false) :
    readWhole (digits ++ rest) = some (digits, rest) := by
  have hspan := spanPlainDigits_append hdigits.2 hrest
  obtain ⟨c, more, rfl, hc⟩ := exists_cons_of_areDigits hdigits
  by_cases hleading : c = '0'
  · obtain ⟨-, rfl⟩ := List.cons.inj (hzero (by rw [hleading]; rfl))
    rw [hleading]
    rfl
  · unfold readWhole
    split
    · rename_i heq
      exact absurd (List.cons.inj heq).1 hleading
    · simp only [hspan]
      rfl

namespace Number

variable (number : Number)

/-- What stands behind the digits in front of the point. -/
def tail : List Char :=
  number.fraction.elim [] ('.' :: ·) ++ number.exponent.elim [] Exponent.chars

theorem endsDigits_exponent {rest : List Char} (hrest : EndsNumber rest) :
    ∀ c, (number.exponent.elim [] Exponent.chars ++ rest).head? = some c →
      Text.isPlainDigit c = false ∧ c ≠ '.' := by
  intro c hc
  cases hexponent : number.exponent with
  | none =>
    rw [hexponent] at hc
    exact ⟨(hrest c hc).1, (hrest c hc).2.1⟩
  | some exponent =>
    rw [hexponent] at hc
    obtain rfl : exponent.marker = c := Option.some.inj hc
    obtain h | h := exponent.isMarker <;> rw [h] <;> decide

theorem endsDigits_tail {rest : List Char} (hrest : EndsNumber rest) :
    ∀ c, (number.tail ++ rest).head? = some c → Text.isPlainDigit c = false := by
  intro c hc
  unfold tail at hc
  cases hfraction : number.fraction with
  | none =>
    rw [hfraction] at hc
    exact (number.endsDigits_exponent hrest c hc).1
  | some digits =>
    rw [hfraction] at hc
    obtain rfl : '.' = c := Option.some.inj hc
    decide

theorem chars_append (rest : List Char) : number.chars ++ rest =
    (if number.negative then ['-'] else []) ++ (number.whole ++ (number.tail ++ rest)) := by
  simp only [chars, tail, List.append_assoc]

theorem readWhole_whole {rest : List Char} (hrest : EndsNumber rest) :
    readWhole (number.whole ++ (number.tail ++ rest)) =
      some (number.whole, number.tail ++ rest) :=
  readWhole_append number.wholeDigits number.noLeadingZero (number.endsDigits_tail hrest)

theorem readFraction_tail {rest : List Char} (hrest : EndsNumber rest) :
    readFraction (number.tail ++ rest) =
      (number.fraction, number.exponent.elim [] Exponent.chars ++ rest) := by
  have hends := number.endsDigits_exponent hrest
  unfold tail
  cases hfraction : number.fraction with
  | none => exact readFraction_none fun c hc => (hends c hc).2
  | some digits =>
    have hpoint := readFraction_point (number.fractionDigits digits hfraction)
      fun c hc => (hends c hc).1
    rw [← hpoint]
    simp

theorem readExponent_exponent {rest : List Char} (hrest : EndsNumber rest) :
    readExponent (number.exponent.elim [] Exponent.chars ++ rest) =
      (number.exponent.map Exponent.value, rest) := by
  cases number.exponent with
  | none => exact readExponent_none hrest
  | some exponent => exact readExponent_chars exponent hrest

theorem readNumber_chars {rest : List Char} (hrest : EndsNumber rest) :
    readNumber (number.chars ++ rest) =
      if number.fraction = none ∧ number.exponent = none ∧
          Text.maxDigits < number.whole.length then
        .error (.numeral (.tooLong number.whole.length))
      else .ok (number.document, rest) := by
  have hwhole := number.readWhole_whole hrest
  have hfraction := number.readFraction_tail hrest
  have hexponent := number.readExponent_exponent hrest
  rw [number.chars_append]
  have hdocument : ∀ negative, number.negative = negative →
      number.document = if number.fraction = none ∧ number.exponent = none then
        .int (Binary64.signed negative (plainValue number.whole))
      else .float (.ofDecimal negative (plainValue (number.whole ++ number.fraction.getD []))
        ((number.exponent.map Exponent.value).getD 0 - (number.fraction.getD []).length)) := by
    rintro negative rfl
    unfold document
    cases number.fraction <;> cases number.exponent <;> rfl
  cases hnegative : number.negative with
  | true =>
    rw [hdocument true hnegative]
    unfold readNumber
    simp only [if_true, List.cons_append, List.nil_append, hwhole, hfraction, hexponent]
    cases number.fraction <;> cases number.exponent <;> simp
  | false =>
    rw [hdocument false hnegative]
    simp only [Bool.false_eq_true, if_false, List.nil_append]
    unfold readNumber
    split
    rename_i hsign
    split at hsign
    · -- a digit is no minus sign
      rename_i hminus
      obtain ⟨c, more, heq, hc⟩ := exists_cons_of_areDigits number.wholeDigits
      rw [heq] at hminus
      obtain ⟨rfl, -⟩ := List.cons.inj hminus
      exact absurd hc (by decide)
    · obtain ⟨rfl, rfl⟩ := Prod.mk.inj hsign
      simp only [hwhole, hfraction, hexponent]
      cases number.fraction <;> cases number.exponent <;> simp

end Number

end BoardSearch.Json
