import BoardSearch.Text.Numeral
import Mathlib.Data.List.Basic
import Mathlib.Data.List.TakeWhile
import Mathlib.Data.Nat.Digits.Defs
import Mathlib.Tactic.IntervalCases

/-!
# Texts that begin with a numeral

A text begins with a numeral where blanks, at most one sign and a digit come first. The numeral
takes all the digits there are, of whatever script, and nothing of what follows them.

## Main definitions

* `Text.Sign.char`: a sign as it is written;
* `Text.BeginsNumeral`: a text has a digit behind blanks and at most one sign;
* `Text.Leading`: such a text, taken apart behind its numeral.

## Main statements

* `Text.positional_eq_ofDigits`: the value of a row of digits;
* `Text.Numeral.ofPrefix?_chars`: the numeral of a text that begins with one;
* `Text.Numeral.ofPrefix?_eq_none_iff`: the texts that begin with none.
-/

namespace BoardSearch.Text

/-! ## Digits -/

theorem mem_digits_of_isDigit {c : Char} (h : c.isDigit = true) : c ∈ "0123456789".toList := by
  obtain ⟨hle, hge⟩ := Char.isDigit_iff_toNat.mp h
  have hfirst : 48 ≤ c.toNat := hle
  have hlast : c.toNat ≤ 57 := hge
  rw [← Char.ofNat_toNat c]
  interval_cases c.toNat <;> decide

/-- What can be checked of each of the ten digits holds of every digit. -/
theorem holds_of_isDigit {p : Char → Bool} (hall : "0123456789".toList.all p = true) {c : Char}
    (h : c.isDigit = true) : p c = true :=
  List.all_eq_true.mp hall c (mem_digits_of_isDigit h)

theorem digitValue?_of_isDigit {c : Char} (h : c.isDigit = true) :
    digitValue? c = some (c.toNat - '0'.toNat) := by
  have hall : "0123456789".toList.all fun c => digitValue? c == some (c.toNat - '0'.toNat) := by
    decide +kernel
  exact beq_iff_eq.mp (holds_of_isDigit hall h)

theorem positional_digits {digits : List Char} (h : ∀ c ∈ digits, c.isDigit = true) :
    positional (digits.filterMap digitValue?) = Nat.ofDigitChars 10 digits 0 := by
  have hvalues : digits.filterMap digitValue? = digits.map fun c => c.toNat - '0'.toNat :=
    List.filterMap_eq_map_iff_forall_eq_some.mpr fun c hc => digitValue?_of_isDigit (h c hc)
  rw [hvalues, Nat.ofDigitChars_eq_foldl, positional, List.foldl_map]

/-- The value of digits, of which the last one counts for ones. -/
theorem positional_eq_ofDigits (digits : List Nat) :
    positional digits = Nat.ofDigits 10 digits.reverse := by
  rw [Nat.ofDigits_eq_foldr, List.foldr_reverse, positional]
  congr 1
  funext n d
  rw [Nat.cast_id, Nat.add_comm]

theorem le_nine_of_digitValue? {c : Char} {d : Nat} (h : digitValue? c = some d) : d ≤ 9 := by
  obtain ⟨first, -, hdigit⟩ := List.exists_of_findSome?_eq_some h
  split at hdigit
  · rename_i hrange
    simp only [Bool.and_eq_true, decide_eq_true_eq] at hrange
    have hd := Option.some.inj hdigit
    omega
  · simp at hdigit

theorem le_nine_of_mem_filterMap {digits : List Char} :
    ∀ d ∈ digits.filterMap digitValue?, d ≤ 9 := by
  intro d hd
  obtain ⟨c, -, hc⟩ := List.mem_filterMap.mp hd
  exact le_nine_of_digitValue? hc

theorem positional_lt {digits : List Nat} (h : ∀ d ∈ digits, d ≤ 9) {k : Nat}
    (hlength : digits.length ≤ k) : positional digits < Nat.pow 10 k := by
  have hlt : Nat.ofDigits 10 digits.reverse < 10 ^ digits.reverse.length :=
    Nat.ofDigits_lt_base_pow_length (by decide) fun d hd =>
      Nat.lt_succ_of_le (h d (List.mem_reverse.mp hd))
  rw [← positional_eq_ofDigits, List.length_reverse] at hlt
  exact hlt.trans_le (Nat.pow_le_pow_right (by decide) hlength)

theorem ofDigitChars_lt {digits : List Char} (h : ∀ c ∈ digits, c.isDigit = true) :
    Nat.ofDigitChars 10 digits 0 < 10 ^ digits.length := by
  rw [← positional_digits h]
  exact positional_lt le_nine_of_mem_filterMap (List.length_filterMap_le _ _)

theorem isDigit_of_mem_toDigits {n : Nat} : ∀ c ∈ Nat.toDigits 10 n, c.isDigit = true :=
  fun _ hc => Nat.isDigit_of_mem_toDigits (by decide) le_rfl hc

/-- The first digit of a positive number is no zero. -/
theorem head_toDigits {n : Nat} (hn : n ≠ 0) : (Nat.toDigits 10 n).head? ≠ some '0' := by
  -- the first digit stays when the last one is taken away
  induction n using Nat.strongRecOn with
  | ind n ih =>
    by_cases hsmall : n < 10
    · have hall : ∀ n < 10, n ≠ 0 → (Nat.toDigits 10 n).head? ≠ some '0' := by decide
      exact hall n hsmall hn
    · rw [Nat.toDigits_of_base_le (by decide) (by omega), List.head?_append_of_ne_nil _
        Nat.toDigits_ne_nil]
      exact ih (n / 10) (by omega) (by omega)

/-- An integer is written with the digits of its magnitude, after a minus sign if it is
negative. -/
theorem toList_toString (n : Int) :
    (toString n).toList = (if decide (n < 0) then ['-'] else []) ++ Nat.toDigits 10 n.natAbs := by
  rw [Int.toString_eq_repr]
  cases n with
  | ofNat m =>
    show m.repr.toList = _
    rw [Nat.repr_eq_ofList_toDigits, String.toList_ofList]
    rfl
  | negSucc m =>
    show ("-" ++ m.succ.repr).toList = _
    rw [Nat.repr_eq_ofList_toDigits, String.toList_append, String.toList_ofList,
      String.toList_ofList, decide_eq_true (Int.negSucc_lt_zero m)]
    rfl

/-- A digit is one of the ten that follow a zero. -/
theorem exists_zero_of_isDigit {c : Char} (h : isDigit c = true) :
    ∃ first ∈ zeros, ∃ d < 10, c.toNat = first + d := by
  obtain ⟨first, hfirst, hdigit⟩ := List.findSome?_isSome_iff.mp h
  split at hdigit
  · rename_i hrange
    obtain ⟨hle, hlt⟩ := Bool.and_eq_true_iff.mp hrange
    have hle := of_decide_eq_true hle
    have hlt := of_decide_eq_true hlt
    exact ⟨first, hfirst, c.toNat - first, by omega, by omega⟩
  · simp at hdigit

theorem isBlank_of_isDigit {c : Char} (h : isDigit c = true) : isBlank c = false := by
  have hnone : ∀ first ∈ zeros, ∀ d < 10,
      blankRanges.any (fun range => range.1 ≤ first + d && first + d ≤ range.2) = false := by
    decide +kernel
  obtain ⟨first, hfirst, d, hd, hcode⟩ := exists_zero_of_isDigit h
  rw [isBlank, within, hcode]
  exact hnone first hfirst d hd

theorem isBlank_of_isSeparator {c : Char} (h : isSeparator c = true) : isBlank c = true := by
  obtain ⟨hle, hge⟩ := Bool.and_eq_true_iff.mp h
  have hle := of_decide_eq_true hle
  have hge := of_decide_eq_true hge
  refine List.any_eq_true.mpr ⟨(0x1C, 0x20), by decide, ?_⟩
  simp only [Bool.and_eq_true, decide_eq_true_eq]
  omega

theorem isSeparator_of_isDigit {c : Char} (h : isDigit c = true) : isSeparator c = false := by
  refine Bool.eq_false_iff.mpr fun hseparator => ?_
  have hblank := isBlank_of_isSeparator hseparator
  rw [isBlank_of_isDigit h] at hblank
  exact Bool.false_ne_true hblank

theorem filterMap_digitValue?_ne_nil {digits : List Char} (hne : digits ≠ [])
    (h : ∀ c ∈ digits, isDigit c = true) : digits.filterMap digitValue? ≠ [] := by
  obtain ⟨c, hc⟩ := List.exists_mem_of_ne_nil digits hne
  obtain ⟨d, hd⟩ := Option.isSome_iff_exists.mp (h c hc)
  exact List.ne_nil_of_mem (List.mem_filterMap.mpr ⟨c, hc, hd⟩)

/-- Digits are read up to their end. -/
theorem spanDigits_append {digits rest : List Char} (hdigits : ∀ c ∈ digits, isDigit c = true)
    (hrest : ∀ c, rest.head? = some c → isDigit c = false) :
    spanDigits (digits ++ rest) = (digits.filterMap digitValue?, rest) := by
  induction digits with
  | nil =>
    cases rest with
    | nil => rfl
    | cons c rest =>
      have hnone : digitValue? c = none := by simpa [isDigit] using hrest c rfl
      simp [spanDigits, hnone]
  | cons c digits ih =>
    obtain ⟨hc, hdigits⟩ := List.forall_mem_cons.mp hdigits
    obtain ⟨d, hd⟩ := Option.isSome_iff_exists.mp hc
    rw [List.cons_append, spanDigits, hd, ih hdigits, List.filterMap_cons, hd]

theorem isDigit_of_head?_dropWhile {text : List Char} {c : Char}
    (h : (text.dropWhile isDigit).head? = some c) : isDigit c = false := by
  have hhead := List.head?_dropWhile_not isDigit text
  rw [h] at hhead
  simpa using hhead

/-! ## Signs -/

/-- A sign as it is written. -/
def Sign.char : Sign → Char
  | .plus => '+'
  | .minus => '-'

theorem spanSign_text (text : List Char) :
    ((spanSign text).1.map Sign.char).toList ++ (spanSign text).2 = text := by
  unfold spanSign
  split <;> rfl

/-- A sign is read where it is written, if what follows it does not begin with one. -/
theorem spanSign_append (sign : Option Sign) {rest : List Char}
    (hplus : rest.head? ≠ some '+') (hminus : rest.head? ≠ some '-') :
    spanSign ((sign.map Sign.char).toList ++ rest) = (sign, rest) := by
  cases sign with
  | none =>
    unfold spanSign
    split <;> simp_all
  | some sign => cases sign <;> rfl

/-! ## Numerals -/

/-- Blanks and at most one sign come first in the text, and then a digit. -/
def BeginsNumeral (text : List Char) : Prop :=
  ∃ (blanks : List Char) (sign : Option Sign) (c : Char) (rest : List Char),
    (∀ b ∈ blanks, isBlank b = true) ∧ isDigit c = true ∧
      text = blanks ++ ((sign.map Sign.char).toList ++ c :: rest)

/-- A text that begins with a numeral, taken apart: blanks, a sign if there is one, all the
digits that follow, and the rest. -/
structure Leading where
  blanks : List Char
  sign : Option Sign
  digits : List Char
  rest : List Char
  areBlanks : ∀ c ∈ blanks, isBlank c = true
  areDigits : ∀ c ∈ digits, isDigit c = true
  digits_ne_nil : digits ≠ []
  endsDigits : ∀ c, rest.head? = some c → isDigit c = false

namespace Leading

/-- The text. -/
def chars (l : Leading) : List Char :=
  l.blanks ++ ((l.sign.map Sign.char).toList ++ (l.digits ++ l.rest))

/-- The integer that the sign and the digits stand for in base ten. -/
def value (l : Leading) : Int :=
  (l.sign.getD .plus).apply (Nat.ofDigits 10 (l.digits.filterMap digitValue?).reverse)

/-- The numeral without what follows it. -/
def numeral (l : Leading) : Numeral :=
  ⟨l.blanks ++ ((l.sign.map Sign.char).toList ++ l.digits), l.sign,
    l.digits.filterMap digitValue?⟩

variable (l : Leading)

theorem exists_digit : ∃ c more, l.digits = c :: more ∧ isDigit c = true := by
  obtain ⟨c, more, hdigits⟩ := List.exists_cons_of_ne_nil l.digits_ne_nil
  exact ⟨c, more, hdigits, l.areDigits c (hdigits ▸ List.mem_cons_self)⟩

/-- The blanks end where the sign or the digits begin. -/
theorem dropWhile_chars :
    l.chars.dropWhile isBlank = (l.sign.map Sign.char).toList ++ (l.digits ++ l.rest) := by
  obtain ⟨c, more, hdigits, hc⟩ := l.exists_digit
  rw [chars, List.dropWhile_append_of_pos l.areBlanks, hdigits]
  cases l.sign with
  | none => exact List.dropWhile_cons_of_neg (by simp [isBlank_of_isDigit hc])
  | some sign => cases sign <;> rfl

theorem spanSign_chars :
    spanSign (l.chars.dropWhile isBlank) = (l.sign, l.digits ++ l.rest) := by
  obtain ⟨c, more, hdigits, hc⟩ := l.exists_digit
  rw [dropWhile_chars]
  refine spanSign_append l.sign ?_ ?_ <;>
  · rw [hdigits]
    rintro heq
    obtain rfl := Option.some.inj heq
    exact absurd hc (by decide +kernel)

/-! ### Written numbers -/

section

variable (negative : Bool) {digits rest : List Char}
  (hdigits : ∀ c ∈ digits, c.isDigit = true) (hne : digits ≠ [])
  (hends : ∀ c, rest.head? = some c → isDigit c = false)

/-- A text with no blanks and no plus sign, and with digits of the first script. -/
def plain : Leading where
  blanks := []
  sign := if negative then some .minus else none
  digits := digits
  rest := rest
  areBlanks := by simp
  areDigits := by
    intro c hc
    rw [isDigit, digitValue?_of_isDigit (hdigits c hc), Option.isSome_some]
  digits_ne_nil := hne
  endsDigits := hends

theorem chars_plain : (plain negative hdigits hne hends).chars =
    (if negative then ['-'] else []) ++ (digits ++ rest) := by
  cases negative <;> rfl

theorem value_plain : (plain negative hdigits hne hends).value =
    if negative then -(Nat.ofDigitChars 10 digits 0 : Int) else Nat.ofDigitChars 10 digits 0 := by
  rw [value, ← positional_eq_ofDigits]
  show Sign.apply _ (positional (digits.filterMap digitValue?) : Nat) = _
  rw [positional_digits hdigits]
  cases negative <;> rfl

end

/-- An integer as it is written, which is a numeral and nothing else. -/
def ofInt (n : Int) : Leading :=
  @plain (decide (n < 0)) (Nat.toDigits 10 n.natAbs) [] isDigit_of_mem_toDigits
    Nat.toDigits_ne_nil nofun

theorem chars_ofInt (n : Int) : (ofInt n).chars = (toString n).toList := by
  rw [ofInt, chars_plain, List.append_nil, toList_toString]

theorem value_ofInt (n : Int) : (ofInt n).value = n := by
  rw [ofInt, value_plain, Nat.ofDigitChars_ten_toDigits]
  by_cases hn : n < 0
  · rw [decide_eq_true hn, if_pos rfl]
    omega
  · rw [decide_eq_false hn, if_neg Bool.false_ne_true]
    omega

end Leading

namespace Numeral

/-- A text that begins with a numeral is read as that numeral, whatever follows. -/
theorem ofPrefix?_chars (l : Leading) : ofPrefix? l.chars = some l.numeral := by
  have hvalues := filterMap_digitValue?_ne_nil l.digits_ne_nil l.areDigits
  have htake : l.chars.take (l.chars.length - l.rest.length) = l.numeral.written := by
    have happend : l.chars = l.numeral.written ++ l.rest := by
      simp [Leading.chars, Leading.numeral]
    rw [happend, List.length_append, Nat.add_sub_cancel, List.take_left]
  unfold ofPrefix?
  simp only [l.spanSign_chars, spanDigits_append l.areDigits l.endsDigits, htake]
  rw [if_neg (by simpa using hvalues)]
  rfl

/-- The integer of a numeral: unless there are too many digits, or separators for blanks, it is
the value of sign and digits. -/
theorem toInt_numeral {l : Leading} (hblanks : ∀ b ∈ l.blanks, isSeparator b = false)
    (hlength : l.digits.length ≤ maxDigits) : l.numeral.toInt = .ok l.value := by
  have hsign : ∀ sign : Option Sign, ∀ c ∈ (sign.map Sign.char).toList,
      isSeparator c = false := by
    intro sign
    cases sign with
    | none => exact List.forall_mem_nil _
    | some sign => exact List.forall_mem_singleton.mpr (by cases sign <;> decide)
  have hnone : l.numeral.written.any isSeparator = false := by
    simp only [Leading.numeral, List.any_eq_false, List.mem_append, Bool.not_eq_true]
    rintro c (hc | hc | hc)
    · exact hblanks c hc
    · exact hsign l.sign c hc
    · exact isSeparator_of_isDigit (l.areDigits c hc)
  have hdigits : ¬ maxDigits < l.numeral.digits.length :=
    Nat.not_lt.mpr ((List.length_filterMap_le _ _).trans hlength)
  unfold toInt
  rw [hnone, if_neg Bool.false_ne_true, if_neg hdigits]
  rw [Leading.value, ← positional_eq_ofDigits]
  rfl

/-- A text with a digit behind blanks and at most one sign can be taken apart. -/
theorem exists_leading {text : List Char} (h : BeginsNumeral text) :
    ∃ l : Leading, l.chars = text := by
  obtain ⟨blanks, sign, c, rest, hblanks, hc, rfl⟩ := h
  refine ⟨⟨blanks, sign, (c :: rest).takeWhile isDigit, (c :: rest).dropWhile isDigit, hblanks,
    fun _ => List.mem_takeWhile_imp, ?_, fun _ => isDigit_of_head?_dropWhile⟩, ?_⟩
  · simp [hc]
  · rw [Leading.chars, List.takeWhile_append_dropWhile]

theorem beginsNumeral_of_ofPrefix? {text : List Char} {numeral : Numeral}
    (h : ofPrefix? text = some numeral) : BeginsNumeral text := by
  unfold ofPrefix? at h
  dsimp only at h
  split at h
  · simp at h
  · rename_i hdigits
    have hsigned := spanSign_text (text.dropWhile isBlank)
    cases hunsigned : (spanSign (text.dropWhile isBlank)).2 with
    | nil => simp [hunsigned, spanDigits] at hdigits
    | cons c rest =>
      refine ⟨text.takeWhile isBlank, (spanSign (text.dropWhile isBlank)).1, c, rest,
        fun _ => List.mem_takeWhile_imp, ?_, ?_⟩
      · -- without a digit nothing would be read
        cases hvalue : digitValue? c with
        | none => simp [hunsigned, spanDigits, hvalue] at hdigits
        | some d => rw [isDigit, hvalue, Option.isSome_some]
      · rw [← hunsigned, hsigned, List.takeWhile_append_dropWhile]

/-- A numeral that is read is that of a text which begins with it. -/
theorem exists_leading_of_ofPrefix? {text : List Char} {numeral : Numeral}
    (h : ofPrefix? text = some numeral) : ∃ l : Leading, l.numeral = numeral := by
  obtain ⟨l, rfl⟩ := exists_leading (beginsNumeral_of_ofPrefix? h)
  exact ⟨l, Option.some.inj ((ofPrefix?_chars l).symm.trans h)⟩

/-- No numeral is read where no digit follows blanks and at most one sign. -/
theorem ofPrefix?_eq_none_iff {text : List Char} :
    ofPrefix? text = none ↔ ¬ BeginsNumeral text := by
  constructor
  · intro hnone hbegins
    obtain ⟨l, rfl⟩ := exists_leading hbegins
    rw [ofPrefix?_chars] at hnone
    simp at hnone
  · intro hnot
    cases hread : ofPrefix? text with
    | none => rfl
    | some numeral => exact absurd (beginsNumeral_of_ofPrefix? hread) hnot

end Numeral

end BoardSearch.Text
