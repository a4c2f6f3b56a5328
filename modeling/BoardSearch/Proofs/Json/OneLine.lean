import BoardSearch.Proofs.Json.Writing

/-!
# Characters of documents

A style that keeps to ASCII writes a sound document with blanks and printable characters of ASCII,
and with what it puts itself between the parts of the document. A style that breaks no lines adds
no other characters. So what it writes is one line, whatever the texts in the document are.

## Main definitions

* `Text.isGraphic`: a blank or a printable character of ASCII;
* `Json.Style.KeepsTo`: a style of ASCII that adds characters of a class only;
* `Json.Style.KeepsLine`: a style of one line of ASCII.

## Main statements

* `Json.forall_mem_chars`: what is written in a style that keeps to a class is of that class;
* `Json.areGraphic_chars`: what is written in a style of one line is one line.
-/

namespace BoardSearch

/-- A blank or a printable character of ASCII. -/
def Text.isGraphic (c : Char) : Bool := 0x20 ≤ c.toNat && c.toNat < 0x7F

namespace Json

/-- All characters are blanks or printable characters of ASCII. -/
def AreGraphic (chars : List Char) : Prop := ∀ c ∈ chars, Text.isGraphic c = true

instance (chars : List Char) : Decidable (AreGraphic chars) :=
  List.decidableBAll (fun c => Text.isGraphic c = true) chars

theorem AreGraphic.append {chars chars' : List Char} (h : AreGraphic chars)
    (h' : AreGraphic chars') : AreGraphic (chars ++ chars') :=
  fun c hc => (List.mem_append.mp hc).elim (h c) (h' c)

/-- The style writes texts in ASCII, and what it adds to a document is of a class that has the
blanks and the printable characters of ASCII in it. -/
structure Style.KeepsTo (style : Style) (P : Char → Prop) : Prop where
  graphic : ∀ c, Text.isGraphic c = true → P c
  ascii : style.ascii = true
  newline : ∀ level, ∀ c ∈ style.newline level, P c
  items : ∀ c ∈ style.itemSeparator.toList, P c
  names : ∀ c ∈ style.nameSeparator.toList, P c

theorem Style.KeepsTo.mono {style : Style} {P Q : Char → Prop} (h : style.KeepsTo P)
    (hclass : ∀ c, P c → Q c) : style.KeepsTo Q where
  graphic c hc := hclass c (h.graphic c hc)
  ascii := h.ascii
  newline level c hc := hclass c (h.newline level c hc)
  items c hc := hclass c (h.items c hc)
  names c hc := hclass c (h.names c hc)

/-- The style breaks no lines, and writes texts in ASCII. -/
structure Style.KeepsLine (style : Style) : Prop where
  indent : style.indent = none
  ascii : style.ascii = true
  items : AreGraphic style.itemSeparator.toList
  names : AreGraphic style.nameSeparator.toList

theorem Style.KeepsLine.keepsTo {style : Style} (h : style.KeepsLine) :
    style.KeepsTo (Text.isGraphic · = true) where
  graphic _ := id
  ascii := h.ascii
  newline level := by
    rw [Style.newline, h.indent]
    exact List.forall_mem_nil _
  items := h.items
  names := h.names

theorem Style.keepsLine_line : line.KeepsLine where
  indent := rfl
  ascii := rfl
  items := by decide
  names := by decide

/-! ## Numbers and texts -/

theorem Number.areGraphic (number : Number) : AreGraphic number.chars := by
  intro c hc
  have hother : AreGraphic ['-', '+', '.', 'e', 'E'] := by decide
  obtain hdigit | hmem := number.isPlainDigit_or_mem hc
  · simp only [Text.isPlainDigit, Bool.and_eq_true, decide_eq_true_eq] at hdigit
    have hleast : '0'.toNat ≤ c.toNat := hdigit.1
    have hgreatest : c.toNat ≤ '9'.toNat := hdigit.2
    simp only [Text.isGraphic, Bool.and_eq_true, decide_eq_true_eq]
    exact ⟨Nat.le_trans (by decide) hleast, Nat.lt_of_le_of_lt hgreatest (by decide)⟩
  · exact hother c hmem

/-- The words for numbers that are not finite are on the line as well. -/
theorem areGraphic_floatText {x : Binary64} (h : x.IsCanonical) :
    AreGraphic (floatText x).toList := by
  cases hfinite : x.isFinite with
  | true =>
    obtain ⟨number, hchars, -⟩ := exists_float h hfinite
    rw [← hchars]
    exact number.areGraphic
  | false =>
    cases x with
    | nan => decide
    | infinite negative => cases negative <;> decide
    | finite => simp [Binary64.isFinite] at hfinite

theorem areGraphic_unitEscape {unit : Nat} (h : unit < 0x10000) : AreGraphic (unitEscape unit) := by
  have hdigit : ∀ n < 16, Text.isGraphic (Nat.digitChar n) = true := by decide
  rw [unitEscape, hex_four h]
  simp only [AreGraphic, List.forall_mem_cons]
  refine ⟨by decide, by decide, hdigit _ ?_, hdigit _ ?_, hdigit _ ?_, hdigit _ ?_,
    List.forall_mem_nil _⟩ <;> omega

theorem areGraphic_escapedChar (c : Char) : AreGraphic (escapedChar true c) := by
  unfold escapedChar
  split_ifs with _ _ _ _ _ _ _ hunits
  -- the escapes with a letter
  iterate 7 decide
  · have hvalid : c.toNat < 0xD800 ∨ 0xDFFF < c.toNat ∧ c.toNat < 0x110000 := c.valid
    unfold unitEscapes
    split_ifs with hplane
    · exact areGraphic_unitEscape hplane
    · exact (areGraphic_unitEscape (by omega)).append (areGraphic_unitEscape (by omega))
  · refine List.forall_mem_singleton.mpr ?_
    simp only [Bool.true_and, Bool.or_eq_true, decide_eq_true_eq, not_or] at hunits
    simp only [Text.isGraphic, Bool.and_eq_true, decide_eq_true_eq]
    omega

theorem areGraphic_escaped (s : String) : AreGraphic (escaped true s) := by
  have hquote : AreGraphic ['"'] := by decide
  have hchars : AreGraphic (s.toList.flatMap (escapedChar true)) := by
    intro c hc
    obtain ⟨char, _, hc⟩ := List.mem_flatMap.mp hc
    exact areGraphic_escapedChar char c hc
  exact (hquote.append hchars).append hquote

/-! ## Documents -/

section KeepsTo

variable {style : Style} {P : Char → Prop} (hstyle : style.KeepsTo P)

include hstyle

theorem forall_mem_of_areGraphic {chars : List Char} (h : AreGraphic chars) : ∀ c ∈ chars, P c :=
  fun c hc => hstyle.graphic c (h c hc)

theorem forall_mem_row (level : Nat) {parts : List (List Char)}
    (hparts : ∀ part ∈ parts, ∀ c ∈ part, P c) :
    ∀ c ∈ List.intercalate (style.itemSeparator.toList ++ style.newline level) parts, P c := by
  induction parts with
  | nil => exact List.forall_mem_nil _
  | cons part rest ih =>
    obtain ⟨hpart, hrest⟩ := List.forall_mem_cons.mp hparts
    cases rest with
    | nil =>
      rw [List.intercalate_singleton]
      exact hpart
    | cons next rest =>
      rw [List.intercalate_cons_cons]
      simp only [List.forall_mem_append]
      exact ⟨⟨hpart, hstyle.items, hstyle.newline level⟩, ih hrest⟩

theorem forall_mem_enclosed (level : Nat) {opening closing : Char} {parts : List (List Char)}
    (hbrackets : AreGraphic [opening, closing]) (hparts : ∀ part ∈ parts, ∀ c ∈ part, P c) :
    ∀ c ∈ style.enclosed level opening closing parts, P c := by
  have hpair : ∀ c ∈ [opening, closing], P c := forall_mem_of_areGraphic hstyle hbrackets
  by_cases hne : parts = []
  · rw [hne]
    exact hpair
  · obtain ⟨hopening, hclosing⟩ := List.forall_mem_cons.mp hpair
    rw [← List.append_nil (style.enclosed level opening closing parts), enclosed_append _ _ _ _ hne]
    simp only [List.forall_mem_cons, List.forall_mem_append]
    exact ⟨hopening, hstyle.newline _, forall_mem_row hstyle _ hparts, hstyle.newline _,
      hclosing closing List.mem_cons_self, List.forall_mem_nil _⟩

/-- What is written for a sound document is of the class that the style keeps to. -/
theorem forall_mem_chars {document : Json} (h : document.Sound) (level : Nat) :
    ∀ c ∈ chars style level document, P c := by
  induction h generalizing level with
  | null => exact forall_mem_of_areGraphic hstyle (by rw [chars]; decide)
  | bool b => exact forall_mem_of_areGraphic hstyle (by cases b <;> rw [chars] <;> decide)
  | @int n =>
    obtain ⟨number, hchars, -⟩ := exists_integer n
    rw [chars, ← hchars]
    exact forall_mem_of_areGraphic hstyle number.areGraphic
  | float hcanonical => exact forall_mem_of_areGraphic hstyle (areGraphic_floatText hcanonical)
  | text s =>
    rw [chars, hstyle.ascii]
    exact forall_mem_of_areGraphic hstyle (areGraphic_escaped s)
  | array _ ih =>
    rw [chars, itemChars_eq]
    refine forall_mem_enclosed hstyle level (by decide) (List.forall_mem_map.mpr ?_)
    exact fun item hitem => ih item hitem (level + 1)
  | object _ _ ih =>
    rw [chars, memberChars_eq]
    refine forall_mem_enclosed hstyle level (by decide) (List.forall_mem_map.mpr ?_)
    intro member hmember
    rw [pairChars, hstyle.ascii]
    simp only [List.forall_mem_append]
    exact ⟨⟨forall_mem_of_areGraphic hstyle (areGraphic_escaped member.1), hstyle.names⟩,
      ih member hmember (level + 1)⟩

end KeepsTo

/-- What is written for a sound document is one line of ASCII. -/
theorem areGraphic_chars {style : Style} (hstyle : style.KeepsLine) {document : Json}
    (h : document.Sound) (level : Nat) : AreGraphic (chars style level document) :=
  forall_mem_chars hstyle.keepsTo h level

end Json

end BoardSearch
