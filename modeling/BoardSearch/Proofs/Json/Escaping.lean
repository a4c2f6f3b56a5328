import BoardSearch.Json.Writer
import BoardSearch.Proofs.Json.Grammar
import Mathlib.Tactic.SplitIfs

/-!
# Texts as they are written

A text is written between quotes, character by character: as itself, as an escape with a
letter, or as one or two escaped units. Either way its spelling is that of the text.

## Main statements

* `Json.unit?_hex`: four digits in base sixteen stand for the unit they were made of;
* `Json.spellsUnits_escapedChar`: what is written for a character spells it;
* `Json.spellsText_escaped`: what is written for a text spells it.
-/

namespace BoardSearch.Json

/-! ## Units -/

theorem hexValue?_digitChar {n : Nat} (h : n < 16) : hexValue? (Nat.digitChar n) = some n := by
  have hall : ∀ n < 16, hexValue? (Nat.digitChar n) = some n := by decide
  exact hall n h

theorem toDigits_sixteen {n : Nat} (h : 16 ≤ n) :
    Nat.toDigits 16 n = Nat.toDigits 16 (n / 16) ++ [Nat.digitChar (n % 16)] :=
  Nat.toDigits_of_base_le (by decide) h

/-- The four digits of a unit, the zeros in front of it among them. -/
theorem hex_four {unit : Nat} (h : unit < 0x10000) :
    Text.hex 4 unit = [Nat.digitChar (unit / 16 / 16 / 16), Nat.digitChar (unit / 16 / 16 % 16),
      Nat.digitChar (unit / 16 % 16), Nat.digitChar (unit % 16)] := by
  unfold Text.hex
  -- a case for each number of digits, since the zeros in front are put there one by one
  by_cases h1 : unit < 16
  · have hq : unit / 16 = 0 := by omega
    rw [Nat.toDigits_of_lt_base h1, Nat.mod_eq_of_lt h1, hq]
    rfl
  rw [toDigits_sixteen (by omega)]
  by_cases h2 : unit / 16 < 16
  · have hq : unit / 16 / 16 = 0 := by omega
    rw [Nat.toDigits_of_lt_base h2, Nat.mod_eq_of_lt h2, hq]
    rfl
  rw [toDigits_sixteen (by omega)]
  by_cases h3 : unit / 16 / 16 < 16
  · have hq : unit / 16 / 16 / 16 = 0 := by omega
    rw [Nat.toDigits_of_lt_base h3, Nat.mod_eq_of_lt h3, hq]
    rfl
  rw [toDigits_sixteen (by omega), Nat.toDigits_of_lt_base (by omega)]
  rfl

theorem unit?_hex {unit : Nat} (h : unit < 0x10000) :
    ∃ a b c d, Text.hex 4 unit = [a, b, c, d] ∧ unit? a b c d = some unit := by
  refine ⟨_, _, _, _, hex_four h, ?_⟩
  have ha := hexValue?_digitChar (n := unit / 16 / 16 / 16) (by omega)
  have hb := hexValue?_digitChar (n := unit / 16 / 16 % 16) (by omega)
  have hc := hexValue?_digitChar (n := unit / 16 % 16) (by omega)
  have hd := hexValue?_digitChar (n := unit % 16) (by omega)
  simp only [unit?, ha, hb, hc, hd, Option.bind_eq_bind, Option.bind_some]
  show some _ = some unit
  congr 1
  omega

theorem spellsUnits_unitEscape {unit : Nat} (h : unit < 0x10000) {text rest : List Char}
    {units : List Nat} (htext : SpellsUnits text units rest) :
    SpellsUnits (unitEscape unit ++ text) (unit :: units) rest := by
  obtain ⟨a, b, c, d, hdigits, hunit⟩ := unit?_hex h
  unfold unitEscape
  rw [hdigits]
  exact .unit hunit htext

/-! ## Characters -/

theorem not_isHighHalf_toNat (c : Char) : isHighHalf c.toNat = false := by
  have hvalid : c.toNat < 0xD800 ∨ 0xDFFF < c.toNat ∧ c.toNat < 0x110000 := c.valid
  simp only [isHighHalf, Bool.and_eq_false_iff, decide_eq_false_iff_not]
  omega

theorem not_isLowHalf_toNat (c : Char) : isLowHalf c.toNat = false := by
  have hvalid : c.toNat < 0xD800 ∨ 0xDFFF < c.toNat ∧ c.toNat < 0x110000 := c.valid
  simp only [isLowHalf, Bool.and_eq_false_iff, decide_eq_false_iff_not]
  omega

/-- A character by itself is no half of a pair. -/
theorem joinPairs_toNat (c : Char) (units : List Nat) :
    joinPairs (c.toNat :: units) = c :: joinPairs units := by
  have hchar : charOfUnit c.toNat = c := by
    simp [charOfUnit, not_isHighHalf_toNat, not_isLowHalf_toNat]
  cases units with
  | nil => simp [joinPairs, hchar]
  | cons unit units => simp [joinPairs, not_isHighHalf_toNat, hchar]

/-- The two units of a character beyond the first plane are joined to that character. -/
theorem joinPairs_pair {c : Char} (h : 0x10000 ≤ c.toNat) (units : List Nat) :
    joinPairs ((0xD800 + (c.toNat - 0x10000) / 0x400)
      :: (0xDC00 + (c.toNat - 0x10000) % 0x400) :: units) = c :: joinPairs units := by
  have hvalid : c.toNat < 0xD800 ∨ 0xDFFF < c.toNat ∧ c.toNat < 0x110000 := c.valid
  have hhigh : isHighHalf (0xD800 + (c.toNat - 0x10000) / 0x400) = true := by
    simp only [isHighHalf, Bool.and_eq_true, decide_eq_true_eq]
    omega
  have hlow : isLowHalf (0xDC00 + (c.toNat - 0x10000) % 0x400) = true := by
    simp only [isLowHalf, Bool.and_eq_true, decide_eq_true_eq]
    omega
  have hchar : charOfPair (0xD800 + (c.toNat - 0x10000) / 0x400)
      (0xDC00 + (c.toNat - 0x10000) % 0x400) = c := by
    have hvalue : 0x10000 + (0xD800 + (c.toNat - 0x10000) / 0x400 - 0xD800) * 0x400
        + (0xDC00 + (c.toNat - 0x10000) % 0x400 - 0xDC00) = c.toNat := by omega
    rw [charOfPair, hvalue, Char.ofNat_toNat]
  simp [joinPairs, hhigh, hlow, hchar]

/-- What is written for a character spells that character. -/
theorem spellsUnits_escapedChar (ascii : Bool) (c : Char) {text rest : List Char}
    {units : List Nat} (h : SpellsUnits text units rest) :
    ∃ own, SpellsUnits (escapedChar ascii c ++ text) (own ++ units) rest ∧
      joinPairs (own ++ units) = c :: joinPairs units := by
  have hletter : ∀ letter, plainEscape? letter = some c →
      ∃ own, SpellsUnits (['\\', letter] ++ text) (own ++ units) rest ∧
        joinPairs (own ++ units) = c :: joinPairs units :=
    fun letter hletter => ⟨[c.toNat], .escape hletter h, joinPairs_toNat c units⟩
  unfold escapedChar
  split_ifs with hquote hescape hfeed hreturn htab hform hback hunits
  · exact hletter '"' (by rw [hquote]; rfl)
  · exact hletter '\\' (by rw [hescape]; rfl)
  · exact hletter 'n' (by rw [hfeed]; rfl)
  · exact hletter 'r' (by rw [hreturn]; rfl)
  · exact hletter 't' (by rw [htab]; rfl)
  · exact hletter 'f' (by rw [hform]; rfl)
  · exact hletter 'b' (by rw [hback]; rfl)
  · unfold unitEscapes
    split_ifs with hplane
    · exact ⟨[c.toNat], spellsUnits_unitEscape hplane h, joinPairs_toNat c units⟩
    · have hvalid : c.toNat < 0xD800 ∨ 0xDFFF < c.toNat ∧ c.toNat < 0x110000 := c.valid
      dsimp only
      rw [List.append_assoc]
      exact ⟨[_, _], spellsUnits_unitEscape (by omega) (spellsUnits_unitEscape (by omega) h),
        joinPairs_pair (by omega) units⟩
  · have hvisible : 0x20 ≤ c.toNat := by
      simp only [Bool.or_eq_true, decide_eq_true_eq, not_or] at hunits
      omega
    exact ⟨[c.toNat], .plain hvisible hquote hescape h, joinPairs_toNat c units⟩

/-! ## Texts -/

theorem spellsText_escaped (ascii : Bool) (s : String) (rest : List Char) :
    SpellsText (s.toList.flatMap (escapedChar ascii) ++ '"' :: rest) s rest := by
  have hchars : ∀ chars : List Char,
      ∃ units, SpellsUnits (chars.flatMap (escapedChar ascii) ++ '"' :: rest) units rest ∧
        joinPairs units = chars := by
    intro chars
    induction chars with
    | nil => exact ⟨[], .closed rest, rfl⟩
    | cons c chars ih =>
      obtain ⟨units, hunits, hjoined⟩ := ih
      obtain ⟨own, hown, hchar⟩ := spellsUnits_escapedChar ascii c hunits
      rw [List.flatMap_cons, List.append_assoc]
      exact ⟨own ++ units, hown, by rw [hchar, hjoined]⟩
  obtain ⟨units, hunits, hjoined⟩ := hchars s.toList
  exact ⟨units, hunits, by rw [hjoined, String.ofList_toList]⟩

end BoardSearch.Json
