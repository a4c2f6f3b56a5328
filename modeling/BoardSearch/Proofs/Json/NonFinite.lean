import BoardSearch.Proofs.Json.Writing

/-!
# Numbers that are not finite

The three words that are written for numbers that are not finite have a capital letter that
no JSON text has outside of its texts. So what is written for a document with such a number
is no JSON text.

## Main definitions

* `Json.hasWord`: a text has one of the words outside of its texts.

## Main statements

* `Json.hasWord_of_spells`: what the grammar spells has none of the words;
* `Json.hasWord_chars`: what is written has one just where a number is not finite;
* `Json.isText_write_iff`: when what is written is a JSON text.
-/

namespace BoardSearch.Json

/-- A capital letter of the words `NaN` and `Infinity` is outside of the texts between
quotes. The first argument tells whether the characters begin inside of one. -/
def hasWord : Bool → List Char → Bool
  | _, [] => false
  | true, '\\' :: _ :: rest => hasWord true rest
  | true, c :: rest => if c = '"' then hasWord false rest else hasWord true rest
  | false, c :: rest =>
    if c = '"' then hasWord true rest else c = 'N' || c = 'I' || hasWord false rest

/-! ## Characters -/

/-- Characters that neither begin a word nor a text. -/
def AreNeutral (chars : List Char) : Prop := ∀ c ∈ chars, c ≠ 'N' ∧ c ≠ 'I' ∧ c ≠ '"'

instance (chars : List Char) : Decidable (AreNeutral chars) :=
  List.decidableBAll (fun c => c ≠ 'N' ∧ c ≠ 'I' ∧ c ≠ '"') chars

theorem hasWord_append_of_areNeutral {chars : List Char} (h : AreNeutral chars)
    (rest : List Char) : hasWord false (chars ++ rest) = hasWord false rest := by
  induction chars with
  | nil => rfl
  | cons c chars ih =>
    obtain ⟨⟨hn, hi, hquote⟩, hchars⟩ := List.forall_mem_cons.mp h
    simp [hasWord, hn, hi, hquote, ih hchars]

theorem hasWord_cons {c : Char} (h : AreNeutral [c]) (rest : List Char) :
    hasWord false (c :: rest) = hasWord false rest :=
  hasWord_append_of_areNeutral h rest

theorem areNeutral_of_blank {chars : List Char} (h : ∀ c ∈ chars, isBlank c = true) :
    AreNeutral chars := by
  intro c hc
  have hblank := h c hc
  refine ⟨?_, ?_, ?_⟩ <;>
  · rintro rfl
    exact absurd hblank (by decide)

theorem Skips.hasWord_eq {text rest : List Char} (h : Skips text rest) :
    hasWord false text = hasWord false rest := by
  obtain ⟨blanks, hblanks, rfl⟩ := h
  exact hasWord_append_of_areNeutral (areNeutral_of_blank hblanks) rest

theorem Number.areNeutral (number : Number) : AreNeutral number.chars := by
  intro c hc
  have hother : AreNeutral ['-', '+', '.', 'e', 'E'] := by decide
  obtain hdigit | hmem := number.isPlainDigit_or_mem hc
  · refine ⟨?_, ?_, ?_⟩ <;>
    · rintro rfl
      exact absurd hdigit (by decide)
  · exact hother c hmem

/-! ## What the grammar spells -/

theorem ne_of_hexValue? {c : Char} {value : Nat} (h : hexValue? c = some value) :
    c ≠ '"' ∧ c ≠ '\\' := by
  have hquote : hexValue? '"' = none := by decide
  have hescape : hexValue? '\\' = none := by decide
  constructor
  · rintro rfl
    simp [hquote] at h
  · rintro rfl
    simp [hescape] at h

/-- The four digits of an escaped unit do not end a text. -/
theorem ne_of_unit? {a b c d : Char} {unit : Nat} (h : unit? a b c d = some unit) :
    (a ≠ '"' ∧ a ≠ '\\') ∧ (b ≠ '"' ∧ b ≠ '\\') ∧ (c ≠ '"' ∧ c ≠ '\\') ∧
      d ≠ '"' ∧ d ≠ '\\' := by
  unfold unit? at h
  obtain ⟨_, ha, h⟩ := Option.bind_eq_some_iff.mp h
  obtain ⟨_, hb, h⟩ := Option.bind_eq_some_iff.mp h
  obtain ⟨_, hc, h⟩ := Option.bind_eq_some_iff.mp h
  obtain ⟨_, hd, -⟩ := Option.bind_eq_some_iff.mp h
  exact ⟨ne_of_hexValue? ha, ne_of_hexValue? hb, ne_of_hexValue? hc, ne_of_hexValue? hd⟩

theorem hasWord_of_spellsUnits {text rest : List Char} {units : List Nat}
    (h : SpellsUnits text units rest) : hasWord true text = hasWord false rest := by
  induction h with
  | closed rest => simp [hasWord]
  | plain _ hquote hescape _ ih => simp [hasWord, hquote, hescape, ih]
  | escape _ _ ih => rw [hasWord, ih]
  | unit hunit _ ih =>
    obtain ⟨ha, hb, hc, hd⟩ := ne_of_unit? hunit
    simp [hasWord, ha, hb, hc, hd, ih]

theorem hasWord_of_spells {text rest : List Char} {phrase : Phrase} (h : Spells text phrase rest) :
    hasWord false text = hasWord false rest := by
  induction h with
  | null rest | true rest | false rest => simp [hasWord]
  | number number rest => exact hasWord_append_of_areNeutral number.areNeutral rest
  | text htext =>
    obtain ⟨units, hunits, -⟩ := htext
    exact hasWord_of_spellsUnits hunits
  | emptyArray h | emptyObject h => simpa [hasWord] using h.hasWord_eq
  | array _ ih | object _ ih => simpa [hasWord] using ih
  | element hbefore _ hafter ih => rw [hbefore.hasWord_eq, ih, hafter.hasWord_eq]
  | lastItem _ ih => simpa [hasWord] using ih
  | item _ _ ih ihmore => simpa [hasWord, ihmore] using ih
  | lastMember hbefore hname hcolon _ ih =>
    obtain ⟨units, hunits, -⟩ := hname
    rw [hbefore.hasWord_eq]
    refine (hasWord_of_spellsUnits hunits).trans ?_
    rw [hcolon.hasWord_eq]
    simpa [hasWord] using ih
  | member hbefore hname hcolon _ _ ih ihmore =>
    obtain ⟨units, hunits, -⟩ := hname
    rw [hbefore.hasWord_eq]
    refine (hasWord_of_spellsUnits hunits).trans ?_
    rw [hcolon.hasWord_eq]
    simpa [hasWord, ihmore] using ih

/-! ## What is written -/

theorem hasWord_escaped (ascii : Bool) (s : String) (rest : List Char) :
    hasWord false (escaped ascii s ++ rest) = hasWord false rest := by
  obtain ⟨units, hunits, -⟩ := spellsText_escaped ascii s rest
  have hwritten : escaped ascii s ++ rest =
      '"' :: (s.toList.flatMap (escapedChar ascii) ++ '"' :: rest) := by
    simp [escaped]
  rw [hwritten]
  exact hasWord_of_spellsUnits hunits

variable {style : Style} (hstyle : style.Separates)

include hstyle

/-- Written parts with separators between them have a word if one of the parts has. -/
theorem hasWord_row {α : Type} {part : α → List Char} {named : α → Bool} {as : List α}
    (level : Nat) (hpart : ∀ a ∈ as, ∀ rest,
      hasWord false (part a ++ rest) = (named a || hasWord false rest)) (rest : List Char) :
    hasWord false (List.intercalate (style.itemSeparator.toList ++ style.newline level)
      (as.map part) ++ rest) = (as.any named || hasWord false rest) := by
  induction as with
  | nil => rfl
  | cons a as ih =>
    obtain ⟨ha, has⟩ := List.forall_mem_cons.mp hpart
    cases as with
    | nil => simpa using ha rest
    | cons a' as =>
      have hseparator : ∀ rest, hasWord false
          (style.itemSeparator.toList ++ (style.newline level ++ rest)) = hasWord false rest := by
        intro rest
        obtain ⟨more, hmore, hskips⟩ := hstyle.items (style.newline level ++ rest)
        rw [hmore, hasWord_cons (by decide), hskips.hasWord_eq,
          (skips_newline hstyle level rest).hasWord_eq]
      rw [List.map_cons, List.map_cons, List.intercalate_cons_cons, ← List.map_cons,
        List.append_assoc, List.append_assoc, List.append_assoc, ha, hseparator, ih has]
      exact (Bool.or_assoc ..).symm

theorem hasWord_enclosed {α : Type} {part : α → List Char} {named : α → Bool} {as : List α}
    (level : Nat) {opening closing : Char} (hopening : AreNeutral [opening])
    (hclosing : AreNeutral [closing]) (hpart : ∀ a ∈ as, ∀ rest,
      hasWord false (part a ++ rest) = (named a || hasWord false rest)) (rest : List Char) :
    hasWord false (style.enclosed level opening closing (as.map part) ++ rest) =
      (as.any named || hasWord false rest) := by
  by_cases hne : as = []
  · rw [hne]
    exact (hasWord_cons hopening _).trans (hasWord_cons hclosing rest)
  · rw [enclosed_append _ _ _ _ (by simpa using hne), hasWord_cons hopening,
      (skips_newline hstyle (level + 1) _).hasWord_eq, hasWord_row hstyle (level + 1) hpart,
      (skips_newline hstyle level _).hasWord_eq, hasWord_cons hclosing]

/-- What is written for a sound document has one of the words just where a number in it is not
finite. -/
theorem hasWord_chars {document : Json} (h : document.Sound) (level : Nat) (rest : List Char) :
    hasWord false (chars style level document ++ rest) =
      (!document.isFinite || hasWord false rest) := by
  induction h generalizing level rest with
  | null => simp [chars, isFinite, hasWord]
  | bool b => cases b <;> simp [chars, isFinite, hasWord]
  | @int n =>
    obtain ⟨number, hchars, -⟩ := exists_integer n
    rw [chars, ← hchars, hasWord_append_of_areNeutral number.areNeutral]
    rfl
  | @float x hcanonical =>
    rw [isFinite]
    cases hfinite : x.isFinite with
    | true =>
      obtain ⟨number, hchars, -⟩ := exists_float hcanonical hfinite
      rw [chars, ← hchars, hasWord_append_of_areNeutral number.areNeutral]
      rfl
    | false =>
      -- here a word is written, and it is the only case in which one is
      cases x with
      | nan => simp [chars, floatText, hasWord]
      | infinite negative => cases negative <;> simp [chars, floatText, hasWord]
      | finite => simp [Binary64.isFinite] at hfinite
  | text s =>
    rw [chars, hasWord_escaped]
    rfl
  | @array items _ ih =>
    have hany : (!isFinite (.array items)) = items.any fun item => !item.isFinite := by
      rw [isFinite, itemsAreFinite_eq, List.not_all_eq_any_not]
    rw [chars, itemChars_eq, hany]
    exact hasWord_enclosed hstyle level (by decide)
      (by decide) (fun item hitem => ih item hitem (level + 1)) rest
  | @object members _ _ ih =>
    have hany : (!isFinite (.object members)) = members.any fun member => !member.2.isFinite := by
      rw [isFinite, membersAreFinite_eq, List.not_all_eq_any_not]
    rw [chars, memberChars_eq, hany]
    refine hasWord_enclosed hstyle level (by decide)
      (by decide) (fun member hmember rest => ?_) rest
    obtain ⟨value, hvalue, hskips⟩ :=
      hstyle.names (chars style (level + 1) member.2 ++ rest)
    rw [pairChars, List.append_assoc, List.append_assoc, hasWord_escaped, hvalue,
      hasWord_cons (by decide), hskips.hasWord_eq, ih member hmember]

/-- What is written for a sound document, with blanks after it, is a JSON text just where all
its numbers are finite. -/
theorem isText_write_iff {document : Json} (h : document.Sound) {blanks : String}
    (hblanks : ∀ c ∈ blanks.toList, isBlank c = true) :
    IsText (write style document ++ blanks) ↔ document.isFinite = true := by
  refine ⟨fun htext => ?_, fun hfinite => isText_write hstyle h hfinite hblanks⟩
  obtain ⟨spelled, hspells⟩ := htext
  have hnone := hasWord_of_spells hspells
  rw [String.toList_append, write, String.toList_ofList, hasWord_chars hstyle h] at hnone
  cases hfinite : document.isFinite with
  | true => rfl
  | false => simp [hfinite, hasWord] at hnone

end BoardSearch.Json
