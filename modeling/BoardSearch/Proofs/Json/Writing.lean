import BoardSearch.Proofs.Json.Digits
import BoardSearch.Proofs.Json.Escaping
import BoardSearch.Proofs.Json.Soundness

/-!
# Reading back what was written

A sound document with finite numbers alone is written as a JSON text, in every style whose
separators are a comma and a colon with blanks around them. The text is read as the document
that was written.

## Main definitions

* `Json.Style.Separates`: the separators of a style are a comma and a colon, but for blanks.

## Main statements

* `Json.spells_chars`: what is written spells what was written;
* `Json.isText_write`: what is written is a JSON text;
* `Json.read_write`: it is read as what was written.
-/

namespace BoardSearch.Json

theorem Skips.trans {text middle rest : List Char} (h : Skips text middle)
    (h' : Skips middle rest) : Skips text rest := by
  obtain ⟨blanks, hblanks, rfl⟩ := h
  obtain ⟨blanks', hblanks', rfl⟩ := h'
  refine ⟨blanks ++ blanks', fun c hc => ?_, (List.append_assoc ..).symm⟩
  exact (List.mem_append.mp hc).elim (hblanks c) (hblanks' c)

/-! ## Styles -/

/-- The separators of the style are a comma and a colon, and what else it adds is blank. -/
structure Style.Separates (style : Style) : Prop where
  indent : ∀ indent, style.indent = some indent → ∀ c ∈ indent.toList, isBlank c = true
  items : ∀ rest, ∃ more, style.itemSeparator.toList ++ rest = ',' :: more ∧ Skips more rest
  names : ∀ rest, ∃ more, style.nameSeparator.toList ++ rest = ':' :: more ∧ Skips more rest

theorem Style.separates_line : line.Separates where
  indent _ h := by simp [line] at h
  items rest := ⟨' ' :: rest, rfl, [' '], List.forall_mem_singleton.mpr rfl, rfl⟩
  names rest := ⟨' ' :: rest, rfl, [' '], List.forall_mem_singleton.mpr rfl, rfl⟩

theorem Style.separates_compact : compact.Separates where
  indent _ h := by simp [compact] at h
  items rest := ⟨rest, rfl, .refl rest⟩
  names rest := ⟨rest, rfl, .refl rest⟩

theorem Style.separates_indented {indent : String}
    (h : ∀ c ∈ indent.toList, isBlank c = true) : (indented indent).Separates where
  indent _ heq := Option.some.inj heq ▸ h
  items := separates_compact.items
  names := separates_line.names

theorem isBlank_indentation (width : Nat) :
    ∀ c ∈ (String.ofList (List.replicate width ' ')).toList, isBlank c = true := by
  rw [String.toList_ofList]
  intro c hc
  rw [List.eq_of_mem_replicate hc]
  decide

/-- Written parts between brackets, if there are any. -/
theorem enclosed_append (style : Style) (level : Nat) (opening closing : Char)
    {parts : List (List Char)} (hne : parts ≠ []) (rest : List Char) :
    style.enclosed level opening closing parts ++ rest =
      opening :: (style.newline (level + 1) ++
        (List.intercalate (style.itemSeparator.toList ++ style.newline (level + 1)) parts
          ++ (style.newline level ++ closing :: rest))) := by
  unfold Style.enclosed
  rw [if_neg (by simpa using hne)]
  simp

theorem itemChars_eq (style : Style) (level : Nat) (items : List Json) :
    itemChars style level items = items.map (chars style level) := by
  induction items with
  | nil => rfl
  | cons item items ih => rw [itemChars, ih, List.map_cons]

/-- A member as it is written. -/
def pairChars (style : Style) (level : Nat) (member : String × Json) : List Char :=
  escaped style.ascii member.1 ++ style.nameSeparator.toList ++ chars style level member.2

theorem memberChars_eq (style : Style) (level : Nat) (members : List (String × Json)) :
    memberChars style level members = members.map (pairChars style level) := by
  induction members with
  | nil => rfl
  | cons member members ih =>
    rw [memberChars, ih, List.map_cons]
    rfl

variable {style : Style} (hstyle : style.Separates)

include hstyle

theorem isBlank_newline (level : Nat) : ∀ c ∈ style.newline level, isBlank c = true := by
  intro c hc
  unfold Style.newline at hc
  split at hc
  · simp at hc
  · rename_i indent hindent
    obtain rfl | hc := List.mem_cons.mp hc
    · decide
    · obtain ⟨chars, hchars, hc⟩ := List.mem_flatten.mp hc
      rw [List.eq_of_mem_replicate hchars] at hc
      exact hstyle.indent indent hindent c hc

theorem skips_newline (level : Nat) (rest : List Char) :
    Skips (style.newline level ++ rest) rest :=
  ⟨style.newline level, isBlank_newline hstyle level, rfl⟩

/-! ## Rows -/

/-- Written parts with separators between them spell a row, where one part spells a row of
one and a part in front of a row spells a longer one. -/
theorem spells_row {α : Type} {part : α → List Char} {phrase : List α → Phrase}
    {closing : Char} {as : List α} {text after rest : List Char} (level : Nat)
    (hlast : ∀ a ∈ as, ∀ text after rest, Skips text (part a ++ after) →
      Skips after (closing :: rest) → Spells text (phrase [a]) rest)
    (hcons : ∀ a ∈ as, ∀ as text more rest, Skips text (part a ++ ',' :: more) →
      Spells more (phrase as) rest → Spells text (phrase (a :: as)) rest)
    (hne : as ≠ [])
    (htext : Skips text (List.intercalate (style.itemSeparator.toList ++ style.newline level)
      (as.map part) ++ after)) (hafter : Skips after (closing :: rest)) :
    Spells text (phrase as) rest := by
  induction as generalizing text with
  | nil => exact absurd rfl hne
  | cons a as ih =>
    cases as with
    | nil =>
      rw [List.map_singleton, List.intercalate_singleton] at htext
      exact hlast a List.mem_cons_self text after rest htext hafter
    | cons a' as =>
      rw [List.map_cons, List.map_cons, List.intercalate_cons_cons, ← List.map_cons,
        List.append_assoc, List.append_assoc, List.append_assoc] at htext
      obtain ⟨more, hmore, hskips⟩ := hstyle.items (style.newline level ++
        (List.intercalate (style.itemSeparator.toList ++ style.newline level)
          ((a' :: as).map part) ++ after))
      rw [hmore] at htext
      refine hcons a List.mem_cons_self (a' :: as) text more rest htext ?_
      exact ih (fun b hb => hlast b (List.mem_cons_of_mem a hb))
        (fun b hb => hcons b (List.mem_cons_of_mem a hb)) (List.cons_ne_nil a' as)
        (hskips.trans (skips_newline hstyle level _))

/-- The name and the value of a member as it is written. -/
theorem exists_opening (level : Nat) (member : String × Json) {text after : List Char}
    (htext : Skips text (pairChars style level member ++ after)) : ∃ spelled named value,
      Skips text ('"' :: spelled) ∧ SpellsText spelled member.1 named ∧
        Skips named (':' :: value) ∧ Skips value (chars style level member.2 ++ after) := by
  obtain ⟨value, hvalue, hskips⟩ := hstyle.names (chars style level member.2 ++ after)
  refine ⟨_, _, value, ?_, spellsText_escaped style.ascii member.1 (':' :: value), .refl _,
    hskips⟩
  rw [← hvalue]
  simpa [pairChars, escaped] using htext

/-! ## Documents -/

/-- A sound document with finite numbers alone is spelled by what is written for it. -/
theorem spells_chars {document : Json} (h : document.Sound) (hfinite : document.isFinite = true)
    (level : Nat) (rest : List Char) :
    Spells (chars style level document ++ rest) (.document document) rest := by
  -- a nested document is written one level deeper, and anything may follow it
  induction h generalizing level rest with
  | null => exact .null rest
  | bool b => cases b with
    | true => exact .true rest
    | false => exact .false rest
  | @int n =>
    obtain ⟨number, hchars, hdocument⟩ := exists_integer n
    rw [chars, ← hchars, ← hdocument]
    exact .number number rest
  | float hcanonical =>
    obtain ⟨number, hchars, hdocument⟩ := exists_float hcanonical hfinite
    rw [chars, ← hchars, ← hdocument]
    exact .number number rest
  | text s =>
    have htext := spellsText_escaped style.ascii s rest
    rw [chars, escaped, List.cons_append, List.cons_append, List.append_assoc,
      List.singleton_append]
    exact .text htext
  | @array items _ ih =>
    rw [isFinite, itemsAreFinite_eq, List.all_eq_true] at hfinite
    rw [chars, itemChars_eq]
    by_cases hne : items = []
    · rw [hne]
      exact .emptyArray (.refl _)
    · rw [enclosed_append _ _ _ _ (by simpa using hne)]
      refine .array (spells_row hstyle (level + 1) ?_ ?_ hne
        (skips_newline hstyle (level + 1) _) (skips_newline hstyle level _))
      · intro item hitem text after rest htext hafter
        exact .lastItem (.element htext (ih item hitem (hfinite item hitem) (level + 1) after)
          hafter)
      · intro item hitem items text more rest htext hmore
        exact .item (.element htext (ih item hitem (hfinite item hitem) (level + 1) _)
          (.refl _)) hmore
  | @object members _ _ ih =>
    rw [isFinite, membersAreFinite_eq, List.all_eq_true] at hfinite
    rw [chars, memberChars_eq]
    by_cases hne : members = []
    · rw [hne]
      exact .emptyObject (.refl _)
    · rw [enclosed_append _ _ _ _ (by simpa using hne)]
      refine .object (spells_row hstyle (level + 1) ?_ ?_ hne
        (skips_newline hstyle (level + 1) _) (skips_newline hstyle level _))
      · intro member hmember text after rest htext hafter
        obtain ⟨spelled, named, value, hbefore, hname, hcolon, hvalue⟩ :=
          exists_opening hstyle (level + 1) member htext
        exact .lastMember hbefore hname hcolon (.element hvalue
          (ih member hmember (hfinite member hmember) (level + 1) after) hafter)
      · intro member hmember members text more rest htext hmore
        obtain ⟨spelled, named, value, hbefore, hname, hcolon, hvalue⟩ :=
          exists_opening hstyle (level + 1) member htext
        exact .member hbefore hname hcolon (.element hvalue
          (ih member hmember (hfinite member hmember) (level + 1) _) (.refl _)) hmore

theorem spells_write {document : Json} (h : document.Sound) (hfinite : document.isFinite = true)
    {blanks : String} (hblanks : ∀ c ∈ blanks.toList, isBlank c = true) :
    Spells (write style document ++ blanks).toList (.element document) [] := by
  rw [String.toList_append, write, String.toList_ofList]
  exact .element (.refl _) (spells_chars hstyle h hfinite 0 blanks.toList)
    ⟨blanks.toList, hblanks, (List.append_nil _).symm⟩

theorem isText_write {document : Json} (h : document.Sound) (hfinite : document.isFinite = true)
    {blanks : String} (hblanks : ∀ c ∈ blanks.toList, isBlank c = true) :
    IsText (write style document ++ blanks) :=
  ⟨document, spells_write hstyle h hfinite hblanks⟩

theorem read_write {document : Json} (h : document.Sound) (hfinite : document.isFinite = true)
    {blanks : String} (hblanks : ∀ c ∈ blanks.toList, isBlank c = true) :
    read (write style document ++ blanks) = .ok document := by
  have hread := read_of_spells (spells_write hstyle h hfinite hblanks)
  rwa [h.isShort, if_pos rfl, h.merged] at hread

theorem read_write_alone {document : Json} (h : document.Sound)
    (hfinite : document.isFinite = true) : read (write style document) = .ok document := by
  have hblanks : ∀ c ∈ "".toList, isBlank c = true := List.forall_mem_nil _
  have hread := read_write hstyle h hfinite hblanks
  rwa [String.append_empty] at hread

end BoardSearch.Json
