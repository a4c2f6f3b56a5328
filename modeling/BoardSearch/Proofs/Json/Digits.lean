import BoardSearch.Json.Writer
import BoardSearch.Proofs.Json.Numeral
import BoardSearch.Proofs.Number.Shortest

/-!
# Numbers as they are written

An integer is written with its digits, and a finite number of the binary64 format with those
of its shortest decimal, laid out in one of four ways. What is written is a number of the
grammar, and it stands for the number that was written.

## Main definitions

* `Json.Number.decimal`: the decimal that a number spells;
* `Json.Number.Writes`: a number has the text of a decimal, and stands for it.

## Main statements

* `Json.exists_integer`: what is written for an integer;
* `Json.exists_layout`: what is written for a decimal, with or without an exponent;
* `Json.exists_float`: what is written for a canonical number.
-/

namespace BoardSearch.Json

/-! ## Digits -/

theorem areDigits_toDigits (n : Nat) : AreDigits (Nat.toDigits 10 n) :=
  ⟨Nat.toDigits_ne_nil, Text.isDigit_of_mem_toDigits⟩

theorem plainValue_toDigits (n : Nat) : plainValue (Nat.toDigits 10 n) = n := by
  rw [plainValue_eq, Nat.ofDigitChars_ten_toDigits]

theorem noLeadingZero_toDigits (n : Nat) :
    (Nat.toDigits 10 n).head? = some '0' → Nat.toDigits 10 n = ['0'] := by
  intro hhead
  by_cases hn : n = 0
  · rw [hn]
    rfl
  · exact absurd hhead (Text.head_toDigits hn)

theorem AreDigits.append {digits digits' : List Char} (h : AreDigits digits)
    (h' : ∀ c ∈ digits', Text.isPlainDigit c = true) : AreDigits (digits ++ digits') := by
  refine ⟨List.append_ne_nil_of_left_ne_nil h.1 _, fun c hc => ?_⟩
  exact (List.mem_append.mp hc).elim (h.2 c) (h' c)

theorem isPlainDigit_replicate (k : Nat) :
    ∀ c ∈ List.replicate k '0', Text.isPlainDigit c = true := by
  intro c hc
  rw [List.eq_of_mem_replicate hc]
  decide

theorem plainValue_zeros (k : Nat) (digits : List Char) :
    plainValue (List.replicate k '0' ++ digits) = plainValue digits := by
  rw [plainValue_eq, plainValue_eq, Nat.ofDigitChars_append, Nat.ofDigitChars_replicate_zero,
    Nat.mul_zero]

theorem plainValue_append_zeros (digits : List Char) (k : Nat) :
    plainValue (digits ++ List.replicate k '0') = plainValue digits * 10 ^ k := by
  rw [plainValue_eq, plainValue_eq, Nat.ofDigitChars_append, Nat.ofDigitChars_replicate_zero,
    Nat.mul_comm]

/-! ## Integers -/

/-- What is written for an integer is a number that stands for it. -/
theorem exists_integer (n : Int) :
    ∃ number : Number, number.chars = (toString n).toList ∧ number.document = .int n := by
  have hvalue : Binary64.signed (decide (n < 0)) n.natAbs = n := by
    unfold Binary64.signed
    split_ifs with hnegative
    · have hlt := of_decide_eq_true hnegative
      omega
    · have hge := of_decide_eq_false (Bool.eq_false_iff.mpr hnegative)
      omega
  refine ⟨⟨decide (n < 0), Nat.toDigits 10 n.natAbs, none, none, areDigits_toDigits _,
    noLeadingZero_toDigits _, by simp⟩, ?_, ?_⟩
  · rw [Text.toList_toString]
    simp [Number.chars]
  · simp only [Number.document, plainValue_toDigits, hvalue]

/-! ## Decimals -/

theorem exists_exponent (power : Int) :
    ∃ exponent : Exponent, exponent.chars = 'e' :: Binary64.exponentText power ∧
      exponent.value = power := by
  have hdigits : AreDigits (List.replicate (2 - (Nat.toDigits 10 power.natAbs).length) '0'
      ++ Nat.toDigits 10 power.natAbs) := by
    refine ⟨List.append_ne_nil_of_right_ne_nil _ Nat.toDigits_ne_nil, fun c hc => ?_⟩
    exact (List.mem_append.mp hc).elim (isPlainDigit_replicate _ c)
      ((areDigits_toDigits _).2 c)
  by_cases hnegative : power < 0
  · refine ⟨⟨'e', some .minus, _, .inl rfl, hdigits⟩, ?_, ?_⟩
    · simp [Exponent.chars, signChars, Binary64.exponentText, Binary64.decimalDigits, hnegative]
    · simp only [Exponent.value, Option.getD_some, Text.Sign.apply, plainValue_zeros,
        plainValue_toDigits]
      omega
  · refine ⟨⟨'e', some .plus, _, .inl rfl, hdigits⟩, ?_, ?_⟩
    · simp [Exponent.chars, signChars, Binary64.exponentText, Binary64.decimalDigits, hnegative]
    · simp only [Exponent.value, Option.getD_some, Text.Sign.apply, plainValue_zeros,
        plainValue_toDigits]
      omega

/-- The decimal that the digits and the exponent of a number spell. -/
def Number.decimal (number : Number) : Decimal :=
  ⟨plainValue (number.whole ++ number.fraction.getD []),
    number.exponent.elim 0 Exponent.value - (number.fraction.getD []).length⟩

/-- The number has the text of a decimal with a sign, and stands for what that is read as. -/
structure Number.Writes (number : Number) (negative : Bool) (d : Decimal) (text : List Char) :
    Prop where
  chars : number.chars = Binary64.signText negative ++ text
  negative_eq : number.negative = negative
  value_eq : number.decimal.value = d.value
  document : number.document = .float (.ofDecimal negative d.digits d.exponent)

/-- A number that is no integer stands for what its decimal is read as. -/
theorem Number.document_of_fraction {number : Number} {digits : List Char}
    (h : number.fraction = some digits) : number.document =
      .float (.ofDecimal number.negative number.decimal.digits number.decimal.exponent) := by
  simp [document, decimal, h]

theorem Number.document_of_exponent {number : Number} {exponent : Exponent}
    (h : number.exponent = some exponent) : number.document =
      .float (.ofDecimal number.negative number.decimal.digits number.decimal.exponent) := by
  unfold document
  rw [h]
  cases hfraction : number.fraction <;> simp [decimal, h, hfraction]

section

variable (negative : Bool) {d : Decimal}

/-- A decimal with its first digit in front of the point and an exponent. -/
theorem exists_scientific {c : Char} {rest : List Char}
    (hdigits : Nat.toDigits 10 d.digits = c :: rest) {power : Int}
    (hpower : power = d.exponent + rest.length) :
    ∃ number : Number, number.whole = [c] ∧ number.Writes negative d
      (c :: ((if rest = [] then [] else '.' :: rest)
        ++ 'e' :: Binary64.exponentText power)) := by
  obtain ⟨exponent, hchars, hvalue⟩ := exists_exponent power
  have hall := areDigits_toDigits d.digits
  rw [hdigits] at hall
  have hwhole : AreDigits [c] :=
    ⟨by simp, fun c' hc' => hall.2 c' (List.mem_cons.mpr (.inl (List.mem_singleton.mp hc')))⟩
  have hzero : [c].head? = some '0' → [c] = ['0'] := by
    intro h
    rw [Option.some.inj h]
  have hplain : plainValue (c :: rest) = d.digits := by
    rw [← hdigits, plainValue_toDigits]
  -- with a point and without one the number spells the same decimal
  have hwrites : ∀ number : Number, number.negative = negative → number.whole = [c] →
      number.fraction.getD [] = rest → number.exponent = some exponent →
      number.chars = Binary64.signText negative ++ (c :: ((if rest = [] then [] else '.' :: rest)
        ++ 'e' :: Binary64.exponentText power)) →
      number.Writes negative d (c :: ((if rest = [] then [] else '.' :: rest)
        ++ 'e' :: Binary64.exponentText power)) := by
    rintro number rfl hc hrest hexponent htext
    have hdecimal : number.decimal = d := by
      simp [Number.decimal, hc, hrest, hexponent, hvalue, hplain, hpower]
    exact ⟨htext, rfl, by rw [hdecimal], hdecimal ▸ Number.document_of_exponent hexponent⟩
  by_cases hrest : rest = []
  · refine ⟨⟨negative, [c], none, some exponent, hwhole, hzero, by simp⟩, rfl,
      hwrites _ rfl rfl hrest.symm rfl ?_⟩
    simp [Number.chars, hchars, hrest, Binary64.signText]
  · have hfraction : AreDigits rest := ⟨hrest, fun c' hc' => hall.2 c' (List.mem_cons_of_mem c hc')⟩
    refine ⟨⟨negative, [c], some rest, some exponent, hwhole, hzero, ?_⟩, rfl,
      hwrites _ rfl rfl rfl rfl ?_⟩
    · intro digits heq
      rwa [← Option.some.inj heq]
    · simp [Number.chars, hchars, hrest, Binary64.signText]

/-- A decimal with all its digits and zeros in front of the point. -/
theorem exists_integral (hd : d.digits ≠ 0) (hexponent : 0 ≤ d.exponent) :
    ∃ number : Number, number.exponent = none ∧ number.Writes negative d
      (Nat.toDigits 10 d.digits ++ List.replicate d.exponent.toNat '0' ++ ['.', '0']) := by
  have hzero : (Nat.toDigits 10 d.digits ++ List.replicate d.exponent.toNat '0').head? =
      some '0' → Nat.toDigits 10 d.digits ++ List.replicate d.exponent.toNat '0' = ['0'] := by
    intro h
    rw [List.head?_append_of_ne_nil _ Nat.toDigits_ne_nil] at h
    exact absurd h (Text.head_toDigits hd)
  -- the zero behind the point is one more zero of the digits
  have hplain : plainValue (Nat.toDigits 10 d.digits ++ List.replicate d.exponent.toNat '0'
      ++ ['0']) = d.digits * 10 ^ (d.exponent.toNat + 1) := by
    have hvalue := plainValue_append_zeros (Nat.toDigits 10 d.digits) (d.exponent.toNat + 1)
    rwa [List.replicate_succ', ← List.append_assoc, plainValue_toDigits] at hvalue
  have hshift : (-1 : Int) + ((d.exponent.toNat + 1 : Nat) : Int) = d.exponent := by omega
  refine ⟨⟨negative, Nat.toDigits 10 d.digits ++ List.replicate d.exponent.toNat '0', some ['0'],
    none, (areDigits_toDigits d.digits).append (isPlainDigit_replicate d.exponent.toNat), hzero,
    ?_⟩, rfl, ?_, rfl, ?_, ?_⟩
  · intro digits heq
    rw [← Option.some.inj heq]
    exact ⟨by simp, isPlainDigit_replicate 1⟩
  · simp [Number.chars, Binary64.signText]
  · show (Decimal.mk (plainValue (Nat.toDigits 10 d.digits
      ++ List.replicate d.exponent.toNat '0' ++ ['0'])) (-1)).value = _
    rw [hplain, Decimal.value_mul_pow, hshift]
  · show Json.float (.ofDecimal negative (plainValue (Nat.toDigits 10 d.digits
      ++ List.replicate d.exponent.toNat '0' ++ ['0'])) (-1)) = _
    rw [hplain, Binary64.ofDecimal_mul_pow, hshift]

/-- A number with a fraction that has the digits of a decimal. -/
theorem Number.writes_of_fraction {number : Number} {digits text : List Char}
    (hnegative : number.negative = negative) (hfraction : number.fraction = some digits)
    (hdecimal : number.decimal = d)
    (htext : number.chars = Binary64.signText negative ++ text) :
    number.Writes negative d text :=
  ⟨htext, hnegative, by rw [hdecimal],
    hdecimal ▸ hnegative ▸ Number.document_of_fraction hfraction⟩

/-- A decimal with some of its digits in front of the point. -/
theorem exists_split (hd : d.digits ≠ 0) {whole : Nat} (hpositive : 0 < whole)
    (hwhole : (whole : Int) = d.exponent + (Nat.toDigits 10 d.digits).length)
    (hexponent : d.exponent < 0) :
    ∃ number : Number, number.exponent = none ∧ number.Writes negative d
      ((Nat.toDigits 10 d.digits).take whole
        ++ '.' :: (Nat.toDigits 10 d.digits).drop whole) := by
  have hall := areDigits_toDigits d.digits
  have hplain := plainValue_toDigits d.digits
  have hhead := Text.head_toDigits hd
  generalize Nat.toDigits 10 d.digits = digits at hall hplain hhead hwhole ⊢
  have hlength : (digits.drop whole).length = digits.length - whole := List.length_drop
  have htake : digits.take whole ≠ [] := by
    intro h
    have hzero := List.take_eq_nil_iff.mp h
    exact hzero.elim (fun h => by omega) fun h => hall.1 h
  have hdrop : digits.drop whole ≠ [] := by
    intro h
    rw [h, List.length_nil] at hlength
    omega
  have hzero : (digits.take whole).head? = some '0' → digits.take whole = ['0'] := by
    intro h
    rw [List.head?_take, if_neg (by omega)] at h
    exact absurd h hhead
  have hpower : (0 : Int) - (digits.drop whole).length = d.exponent := by omega
  refine ⟨⟨negative, digits.take whole, some (digits.drop whole), none,
    ⟨htake, fun c hc => hall.2 c (List.mem_of_mem_take hc)⟩, hzero, ?_⟩, rfl,
    Number.writes_of_fraction negative rfl rfl ?_ ?_⟩
  · intro fraction heq
    rw [← Option.some.inj heq]
    exact ⟨hdrop, fun c hc => hall.2 c (List.mem_of_mem_drop hc)⟩
  · show Decimal.mk (plainValue (digits.take whole ++ digits.drop whole)) _ = d
    rw [List.take_append_drop, hplain]
    exact congrArg (Decimal.mk d.digits) hpower
  · simp [Number.chars, Binary64.signText]

/-- A decimal with none of its digits in front of the point. -/
theorem exists_fractional {zeros : Nat}
    (hzeros : -(zeros : Int) = d.exponent + (Nat.toDigits 10 d.digits).length) :
    ∃ number : Number, number.exponent = none ∧ number.Writes negative d
      ('0' :: '.' :: (List.replicate zeros '0' ++ Nat.toDigits 10 d.digits)) := by
  have hfraction : AreDigits (List.replicate zeros '0' ++ Nat.toDigits 10 d.digits) := by
    refine ⟨List.append_ne_nil_of_right_ne_nil _ Nat.toDigits_ne_nil, fun c hc => ?_⟩
    exact (List.mem_append.mp hc).elim (isPlainDigit_replicate _ c) ((areDigits_toDigits _).2 c)
  have hpower : (0 : Int) - (List.replicate zeros '0' ++ Nat.toDigits 10 d.digits).length =
      d.exponent := by
    rw [List.length_append, List.length_replicate]
    omega
  refine ⟨⟨negative, ['0'], some (List.replicate zeros '0' ++ Nat.toDigits 10 d.digits), none,
    ⟨by simp, isPlainDigit_replicate 1⟩, fun _ => rfl, ?_⟩, rfl,
    Number.writes_of_fraction negative rfl rfl ?_ ?_⟩
  · intro digits heq
    rwa [← Option.some.inj heq]
  · have hvalue := plainValue_zeros (zeros + 1) (Nat.toDigits 10 d.digits)
    rw [plainValue_toDigits] at hvalue
    show Decimal.mk (plainValue (List.replicate (zeros + 1) '0' ++ Nat.toDigits 10 d.digits)) _ = d
    rw [hvalue]
    exact congrArg (Decimal.mk d.digits) hpower
  · simp [Number.chars, Binary64.signText]

/-- What is written for zero. -/
theorem exists_zero :
    ∃ number : Number, number.exponent = none ∧ number.Writes negative ⟨0, 0⟩ ['0', '.', '0'] := by
  have hplain : plainValue (['0'] ++ ['0']) = 0 := rfl
  refine ⟨⟨negative, ['0'], some ['0'], none, ⟨by simp, isPlainDigit_replicate 1⟩, fun _ => rfl,
    ?_⟩, rfl, ?_, rfl, ?_, ?_⟩
  · intro digits heq
    rw [← Option.some.inj heq]
    exact ⟨by simp, isPlainDigit_replicate 1⟩
  · simp [Number.chars, Binary64.signText]
  · simp only [Number.decimal, Decimal.value, Option.getD_some, hplain]
    norm_num
  · rw [Number.document_of_fraction rfl]
    simp only [Number.decimal, Option.getD_some, hplain, Binary64.ofDecimal_zero]

/-- What is written for a decimal other than zero is a number that stands for what the decimal
is read as. It has no exponent, or it has one and its first digit alone before the point. -/
theorem exists_layout (hd : d.digits ≠ 0) :
    ∃ number : Number, number.Writes negative d (Binary64.layout d) ∧
      (number.exponent = none ∧ -4 ≤ d.leading ∧ d.leading < 16 ∨
        (∃ c, number.whole = [c] ∧ c ≠ '0') ∧ (d.leading < -4 ∨ 16 ≤ d.leading)) := by
  have hlength : 0 < (Nat.toDigits 10 d.digits).length := Nat.length_toDigits_pos
  have hleading : d.leading = d.exponent + (Nat.toDigits 10 d.digits).length - 1 := rfl
  unfold Binary64.layout Binary64.decimalDigits
  dsimp only
  rw [← hleading]
  split_ifs with hscientific hintegral hsplit
  · have hextreme : d.leading < -4 ∨ 16 ≤ d.leading := by simpa using hscientific
    have hhead : ∀ c rest, Nat.toDigits 10 d.digits = c :: rest → c ≠ '0' := by
      rintro c rest hdigits rfl
      exact Text.head_toDigits hd (by rw [hdigits]; rfl)
    split
    · rename_i hnil
      exact absurd hnil Nat.toDigits_ne_nil
    · rename_i c hdigits
      have hpower : d.leading = d.exponent + (([] : List Char).length : Int) := by
        rw [hleading, hdigits]
        simp
      obtain ⟨number, hwhole, hwrites⟩ := exists_scientific negative hdigits hpower
      exact ⟨number, hwrites, .inr ⟨⟨c, hwhole, hhead c _ hdigits⟩, hextreme⟩⟩
    · rename_i c rest hrest hdigits
      have hpower : d.leading = d.exponent + (rest.length : Int) := by
        rw [hleading, hdigits, List.length_cons]
        omega
      have hne : rest ≠ [] := hrest
      obtain ⟨number, hwhole, hwrites⟩ := exists_scientific negative hdigits hpower
      rw [if_neg hne] at hwrites
      exact ⟨number, hwrites, .inr ⟨⟨c, hwhole, hhead c _ hdigits⟩, hextreme⟩⟩
  all_goals
    have hplain : -4 ≤ d.leading ∧ d.leading < 16 := by simpa using hscientific
  · obtain ⟨number, hnone, hwrites⟩ := exists_integral negative hd hintegral
    exact ⟨number, hwrites, .inl ⟨hnone, hplain⟩⟩
  · obtain ⟨number, hnone, hwrites⟩ :=
      @exists_split negative d hd (d.leading + 1).toNat (by omega) (by omega) (by omega)
    exact ⟨number, hwrites, .inl ⟨hnone, hplain⟩⟩
  · obtain ⟨number, hnone, hwrites⟩ :=
      @exists_fractional negative d (-d.leading - 1).toNat (by omega)
    exact ⟨number, hwrites, .inl ⟨hnone, hplain⟩⟩

end

/-! ## Numbers of the binary64 format -/

/-- What is written for a canonical number that is finite is a number that stands for it. -/
theorem exists_float {x : Binary64} (hcanonical : x.IsCanonical) (hfinite : x.isFinite = true) :
    ∃ number : Number, number.chars = (floatText x).toList ∧ number.document = .float x := by
  cases x with
  | nan | infinite => simp [Binary64.isFinite] at hfinite
  | finite negative mantissa exponent =>
    have htext : (floatText (.finite negative mantissa exponent)).toList =
        Binary64.signText negative ++ if mantissa = 0 then ['0', '.', '0']
          else Binary64.layout (Binary64.shortest mantissa exponent) :=
      Binary64.toList_text negative mantissa exponent
    rw [htext]
    by_cases hzero : mantissa = 0
    · have hleast : exponent = Binary64.minExponent := by
        obtain ⟨-, -, -, hfilled | hleast⟩ := hcanonical
        · rw [hzero] at hfilled
          simp at hfilled
        · exact hleast
      obtain ⟨number, -, hwrites⟩ := exists_zero negative
      refine ⟨number, ?_, ?_⟩
      · rw [hwrites.chars, if_pos hzero]
      · rw [hwrites.document, Binary64.ofDecimal_zero, hzero, hleast]
    · have hback : Binary64.ReadsBack mantissa exponent _ :=
        Binary64.readsBack_shortest hcanonical hzero
      obtain ⟨number, hwrites, -⟩ :=
        exists_layout negative (Binary64.shortest_digits_ne_zero hzero)
      refine ⟨number, ?_, ?_⟩
      · rw [hwrites.chars, if_neg hzero]
      · rw [hwrites.document, Binary64.ofDecimal_sign negative hback]

end BoardSearch.Json
