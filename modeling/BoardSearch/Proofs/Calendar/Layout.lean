import BoardSearch.Calendar.Layout.Search
import BoardSearch.Proofs.Text.Numeral

/-!
# Reading what is written under a layout

A number that is padded with zeros is read back from a field before any shorter reading of the
field is tried, and whatever follows it. So a text that is written piece by piece is read piece
by piece.

## Main definitions

* `Layout.Field.allows`: the numbers that are written in a field;
* `Layout.Piece.chars`: what a piece is written as;
* `Layout.separated`: it is clear where every row of blanks ends;
* `Layout.Piece.takes`: a piece other than a field stands for a character;
* `Layout.Piece.covers`: a character can be part of what a piece is read from.

## Main statements

* `Layout.head?_readings_padded`: a padded number is the first reading of its field;
* `Layout.read?_chars`: pieces are read back from what they are written as;
* `Layout.exists_takes_of_read?`: no text is read without what stands between its fields;
* `Layout.covered_of_read?`: a text that is read has no characters but those of the pieces.
-/

namespace BoardSearch

/-! ## Padded numbers -/

namespace Date

variable {width n : Nat}

theorem length_padded (hn : n < 10 ^ width) (hwidth : 0 < width) :
    (padded width n).length = width := by
  have hle : (Nat.toDigits 10 n).length ≤ width :=
    (Nat.length_toDigits_le_iff (by decide) hwidth).mpr hn
  simp only [padded, List.length_append, List.length_replicate]
  omega

theorem isDigit_of_mem_padded {c : Char} (h : c ∈ padded width n) : c.isDigit = true := by
  obtain hzero | hdigit := List.mem_append.mp h
  · rw [List.eq_of_mem_replicate hzero]
    rfl
  · exact Nat.isDigit_of_mem_toDigits (by decide) le_rfl hdigit

theorem padded_ne_nil : padded width n ≠ [] :=
  List.append_ne_nil_of_right_ne_nil _ Nat.toDigits_ne_nil

theorem ofDigitChars_padded : Nat.ofDigitChars 10 (padded width n) 0 = n := by
  simp only [padded, Nat.ofDigitChars_append, Nat.ofDigitChars_replicate_zero, Nat.mul_zero,
    Nat.ofDigitChars_ten_toDigits]

end Date

namespace Layout

/-! ## Fields -/

/-- The fields of a date and of a time in whole seconds. -/
def writtenFields : List Field := [.year, .month, .day, .hour, .minute, .second]

/-- How many digits a field is written with. -/
def Field.width : Field → Nat
  | .year => 4
  | _ => 2

/-- The numbers that are written in these fields. -/
def Field.allows : Field → Nat → Bool
  | .year, n => n ≤ lastYear
  | .month, n => 1 ≤ n && n ≤ 12
  | .day, n => 1 ≤ n && n ≤ 31
  | .hour, n => n < 24
  | .minute, n | .second, n => n < 60
  | _, _ => false

theorem readCells_append {cells : List Cell} {chars : List Char}
    (h : cells.length ≤ chars.length) (rest : List Char) :
    readCells cells (chars ++ rest) =
      (readCells cells chars).map fun (read, left) => (read, left ++ rest) := by
  induction cells generalizing chars with
  | nil => rfl
  | cons cell cells ih =>
    cases chars with
    | nil => simp at h
    | cons c chars =>
      rw [List.cons_append, readCells, readCells, ih (by simpa using h)]
      split
      · cases readCells cells chars <;> rfl
      · rfl

theorem readCells_digits {chars : List Char} (h : ∀ c ∈ chars, c.isDigit = true) :
    readCells (List.replicate chars.length .digit) chars = some (chars, []) := by
  induction chars with
  | nil => rfl
  | cons c chars ih =>
    obtain ⟨hc, hchars⟩ := List.forall_mem_cons.mp h
    have hholds : Cell.holds c .digit = true := by
      rw [Cell.holds, Text.isDigit, Text.digitValue?_of_isDigit hc]
      rfl
    rw [List.length_cons, List.replicate_succ, readCells, if_pos hholds, ih hchars]
    rfl

namespace Field

variable {field : Field} {n : Nat}

theorem readings_eq (hnames : field.names = []) (text : List Char) :
    field.readings text = field.alternatives.filterMap fun cells =>
      (readCells cells text).map fun (read, rest) =>
        (⟨field, read, valueOf field read⟩, rest) := by
  rw [readings, hnames]
  simp

/-- A text as long as the longest way to read a field is read alike before any other text. -/
theorem readings_append (hnames : field.names = []) {chars : List Char}
    (hlengths : ∀ cells ∈ field.alternatives, cells.length ≤ chars.length) (rest : List Char) :
    field.readings (chars ++ rest) =
      (field.readings chars).map fun (reading, left) => (reading, left ++ rest) := by
  rw [readings_eq hnames, readings_eq hnames, List.map_filterMap]
  apply List.filterMap_congr
  intro cells hcells
  rw [readCells_append (hlengths cells hcells)]
  cases readCells cells chars <;> rfl

theorem mem_writtenFields_of_allows (h : field.allows n = true) : field ∈ writtenFields := by
  cases field <;> simp_all [allows, writtenFields]

theorem names_of_mem_writtenFields : ∀ field ∈ writtenFields, field.names = [] := by
  decide

theorem length_of_mem_alternatives : ∀ field ∈ writtenFields,
    ∀ cells ∈ field.alternatives, cells.length ≤ field.width := by
  decide

theorem lt_of_allows (h : field.allows n = true) : n < 10 ^ field.width := by
  cases field with
  | year =>
    have hlast : n ≤ 9999 := of_decide_eq_true h
    exact Nat.lt_succ_of_le hlast
  | _ => simp_all [allows, width] <;> omega

theorem readings_year (hn : n < 10 ^ 4) :
    Field.year.readings (Date.padded 4 n) = [(⟨.year, Date.padded 4 n, n⟩, [])] := by
  have hlength : (Date.padded 4 n).length = 4 := Date.length_padded hn (by decide)
  have hdigits : ∀ c ∈ Date.padded 4 n, c.isDigit = true := fun c => Date.isDigit_of_mem_padded
  have hread : readCells [.digit, .digit, .digit, .digit] (Date.padded 4 n) =
      some (Date.padded 4 n, []) := by
    have hread := readCells_digits hdigits
    rwa [hlength] at hread
  have hvalue : valueOf .year (Date.padded 4 n) = n := by
    show Text.positional ((Date.padded 4 n).filterMap Text.digitValue?) = n
    rw [Text.positional_digits hdigits, Date.ofDigitChars_padded]
  rw [readings_eq rfl, alternatives, List.filterMap_cons, hread]
  simp [hvalue]

/-- The alternatives of a field of two digits are tried one after another, so that a day or a
month of one digit is read with its zero. -/
theorem head?_readings_two : ∀ field ∈ [Field.month, .day, .hour, .minute, .second],
    ∀ n < 60, field.allows n = true →
      (field.readings (Date.padded field.width n)).head? =
        some (⟨field, Date.padded field.width n, n⟩, []) := by
  decide +kernel

/-- A padded number is the first that its field is read as, whatever follows. -/
theorem head?_readings_padded (h : field.allows n = true) (rest : List Char) :
    (field.readings (Date.padded field.width n ++ rest)).head? =
      some (⟨field, Date.padded field.width n, n⟩, rest) := by
  have hlength : (Date.padded field.width n).length = field.width := by
    apply Date.length_padded (lt_of_allows h)
    cases field <;> decide
  have hwritten := mem_writtenFields_of_allows h
  have hlengths : ∀ cells ∈ field.alternatives,
      cells.length ≤ (Date.padded field.width n).length := by
    rw [hlength]
    exact length_of_mem_alternatives field hwritten
  have hfirst : (field.readings (Date.padded field.width n)).head? =
      some (⟨field, Date.padded field.width n, n⟩, []) := by
    -- a year has too many values to be checked one by one
    obtain rfl | htwo := List.mem_cons.mp hwritten
    · rw [width, readings_year (lt_of_allows h)]
      rfl
    · refine head?_readings_two field htwo n ?_ h
      cases field <;> simp_all [allows] <;> omega
  rw [readings_append (names_of_mem_writtenFields field hwritten) hlengths, List.head?_map, hfirst]
  rfl

end Field

/-! ## Pieces -/

section

variable {shown : Field → Nat} {pieces : List Piece}

/-- What a piece is written as, where every field shows a number. -/
def Piece.chars (shown : Field → Nat) : Piece → List Char
  | .letter c => [c]
  | .blanks => [' ']
  | .field f => Date.padded f.width (shown f)

/-- What a piece is read as from that. -/
def Piece.reading? (shown : Field → Nat) : Piece → Option Reading
  | .field f => some ⟨f, Date.padded f.width (shown f), shown f⟩
  | _ => none

/-- Every row of blanks stands before a field, so that it ends where the field begins. -/
def separated : List Piece → Bool
  | [] => true
  | .blanks :: .field f :: pieces => separated (.field f :: pieces)
  | .blanks :: _ => false
  | _ :: pieces => separated pieces

theorem read?_cons {piece : Piece} {text rest after : List Char} {read later : List Reading}
    (hfirst : (piece.readings text).head? = some (read, rest))
    (hlater : read? pieces rest = some (later, after)) :
    read? (piece :: pieces) text = some (read ++ later, after) := by
  obtain ⟨others, hothers⟩ := List.head?_eq_some_iff.mp hfirst
  simp only [read?, hothers, List.findSome?_cons, hlater, Option.map_some]

theorem separated_of_cons {piece : Piece} (h : separated (piece :: pieces) = true) :
    separated pieces = true := by
  cases piece with
  | blanks =>
    cases pieces with
    | nil => rfl
    | cons next pieces => cases next <;> simp_all [separated]
  | _ => exact h

theorem isBlank_of_separated (h : separated (.blanks :: pieces) = true) (rest : List Char) :
    ∃ c text, pieces.flatMap (Piece.chars shown) ++ rest = c :: text ∧
      Text.isBlank c = false := by
  cases pieces with
  | nil => simp [separated] at h
  | cons next pieces =>
    cases next with
    | field field =>
      -- the first character of a field is a digit
      obtain ⟨c, digits, hpadded⟩ := List.exists_cons_of_ne_nil
        (Date.padded_ne_nil : Date.padded field.width (shown field) ≠ [])
      have hdigit : c.isDigit = true := Date.isDigit_of_mem_padded (hpadded ▸ List.mem_cons_self)
      have hall : "0123456789".toList.all fun c => Text.isBlank c == false := by decide +kernel
      refine ⟨c, digits ++ (pieces.flatMap (Piece.chars shown) ++ rest), ?_,
        beq_iff_eq.mp (Text.holds_of_isDigit hall hdigit)⟩
      rw [List.flatMap_cons, Piece.chars, hpadded, List.append_assoc]
      rfl
    | _ => simp [separated] at h

theorem head?_readings_chars {piece : Piece}
    (hallows : ∀ field, piece = .field field → field.allows (shown field) = true)
    {rest : List Char} (hrest : piece = .blanks → ∃ c text, rest = c :: text ∧
      Text.isBlank c = false) :
    (piece.readings (piece.chars shown ++ rest)).head? =
      some ((piece.reading? shown).toList, rest) := by
  cases piece with
  | letter l =>
    have hself : Text.sameLetter l l = true := beq_self_eq_true _
    simp [Piece.readings, Piece.chars, Piece.reading?, hself]
  | blanks =>
    obtain ⟨c, text, rfl, hc⟩ := hrest rfl
    have hblank : Text.isBlank ' ' = true := by decide
    simp [Piece.readings, Piece.chars, Piece.reading?, skipBlanks, hblank, hc]
  | field field =>
    rw [Piece.readings, Piece.chars, List.head?_map,
      Field.head?_readings_padded (hallows field rfl) rest]
    rfl

/-- Pieces are read back from what they are written as, whatever follows. -/
theorem read?_chars (hseparated : separated pieces = true)
    (hallows : ∀ field, .field field ∈ pieces → field.allows (shown field) = true)
    (rest : List Char) :
    read? pieces (pieces.flatMap (Piece.chars shown) ++ rest) =
      some (pieces.filterMap (Piece.reading? shown), rest) := by
  induction pieces with
  | nil => rfl
  | cons piece pieces ih =>
    -- the first reading of the piece is kept, as the rest can be read after it
    have hfirst : (piece.readings (piece.chars shown ++
        (pieces.flatMap (Piece.chars shown) ++ rest))).head? = _ :=
      head?_readings_chars (fun field hfield => hallows field (hfield ▸ List.mem_cons_self))
        fun hblanks => isBlank_of_separated (hblanks ▸ hseparated) rest
    have hlater := ih (separated_of_cons hseparated)
      fun field hfield => hallows field (List.mem_cons_of_mem _ hfield)
    rw [List.flatMap_cons, List.append_assoc, read?_cons hfirst hlater]
    cases piece <;> rfl

/-! ## Between the fields -/

/-- A piece other than a field stands for the character. -/
def Piece.takes (c : Char) : Piece → Bool
  | .letter l => Text.sameLetter l c
  | .blanks => Text.isBlank c
  | .field _ => false

/-- The character can be part of what a piece is read from. -/
def Piece.covers (c : Char) : Piece → Bool
  | .field f => (f.names.any fun name => name.toList.any fun n => Text.sameLetter n c) ||
      f.alternatives.any fun cells => cells.any (Cell.holds c)
  | piece => piece.takes c

theorem taken_of_readCells {cells : List Cell} {text read rest : List Char}
    (h : readCells cells text = some (read, rest)) :
    text = read ++ rest ∧ ∀ c ∈ read, ∃ cell ∈ cells, cell.holds c = true := by
  induction cells generalizing text read with
  | nil =>
    obtain ⟨rfl, rfl⟩ := Prod.mk.inj (Option.some.inj h)
    simp
  | cons cell cells ih =>
    cases text with
    | nil => simp [readCells] at h
    | cons c text =>
      rw [readCells] at h
      split at h
      · rename_i hholds
        obtain ⟨⟨read', rest'⟩, hread, heq⟩ := Option.map_eq_some_iff.mp h
        obtain ⟨rfl, rfl⟩ := Prod.mk.inj heq
        obtain ⟨rfl, hcells⟩ := ih hread
        refine ⟨rfl, List.forall_mem_cons.mpr ⟨⟨cell, List.mem_cons_self, hholds⟩, ?_⟩⟩
        intro c' hc'
        obtain ⟨cell', hcell', hholds'⟩ := hcells c' hc'
        exact ⟨cell', List.mem_cons_of_mem _ hcell', hholds'⟩
      · simp at h

theorem taken_of_readName {name text rest : List Char} (h : readName name text = some rest) :
    ∃ taken, text = taken ++ rest ∧ ∀ c ∈ taken, ∃ n ∈ name, Text.sameLetter n c = true := by
  induction name generalizing text with
  | nil =>
    obtain rfl := Option.some.inj h
    exact ⟨[], rfl, by simp⟩
  | cons n name ih =>
    cases text with
    | nil => simp [readName] at h
    | cons c text =>
      rw [readName] at h
      split at h
      · rename_i hsame
        obtain ⟨taken, rfl, htaken⟩ := ih h
        refine ⟨c :: taken, rfl, List.forall_mem_cons.mpr ⟨⟨n, List.mem_cons_self, hsame⟩, ?_⟩⟩
        intro c' hc'
        obtain ⟨n', hn', hsame'⟩ := htaken c' hc'
        exact ⟨n', List.mem_cons_of_mem _ hn', hsame'⟩
      · simp at h

theorem taken_of_mem_skipBlanks {text rest : List Char} (h : rest ∈ skipBlanks text) :
    ∃ taken, text = taken ++ rest ∧ ∀ c ∈ taken, Text.isBlank c = true := by
  induction text with
  | nil => simp [skipBlanks] at h
  | cons c text ih =>
    rw [skipBlanks] at h
    split at h
    · rename_i hblank
      obtain hlater | hlast := List.mem_append.mp h
      · obtain ⟨taken, rfl, htaken⟩ := ih hlater
        exact ⟨c :: taken, rfl, List.forall_mem_cons.mpr ⟨hblank, htaken⟩⟩
      · rw [List.mem_singleton.mp hlast]
        exact ⟨[c], rfl, by simpa using hblank⟩
    · simp at h

/-- A reading of a piece takes characters that the piece covers from the front of the text. -/
theorem taken_of_mem_readings {piece : Piece} {text rest : List Char} {read : List Reading}
    (h : (read, rest) ∈ piece.readings text) :
    ∃ taken, text = taken ++ rest ∧ ∀ c ∈ taken, piece.covers c = true := by
  cases piece with
  | letter l =>
    cases text with
    | nil => simp [Piece.readings] at h
    | cons c text =>
      simp only [Piece.readings] at h
      split at h
      · rename_i hsame
        obtain ⟨-, rfl⟩ := Prod.mk.inj (List.mem_singleton.mp h)
        exact ⟨[c], rfl, by simpa [Piece.covers, Piece.takes] using hsame⟩
      · simp at h
  | blanks =>
    obtain ⟨rest', hrest, heq⟩ := List.mem_map.mp h
    obtain ⟨-, rfl⟩ := Prod.mk.inj heq
    exact taken_of_mem_skipBlanks hrest
  | field field =>
    obtain ⟨⟨reading, rest'⟩, hreading, heq⟩ := List.mem_map.mp h
    obtain ⟨-, rfl⟩ := Prod.mk.inj heq
    obtain hnamed | hnumbered := List.mem_append.mp hreading
    · obtain ⟨⟨name, number⟩, hname, hread⟩ := List.mem_filterMap.mp hnamed
      have hmem : name ∈ field.names :=
        List.fst_mem_of_mem_zipIdx (List.mem_mergeSort.mp hname)
      obtain ⟨rest'', hrest, heq⟩ := Option.map_eq_some_iff.mp hread
      obtain ⟨-, rfl⟩ := Prod.mk.inj heq
      obtain ⟨taken, rfl, htaken⟩ := taken_of_readName hrest
      refine ⟨taken, rfl, fun c hc => Bool.or_eq_true_iff.mpr (.inl ?_)⟩
      exact List.any_eq_true.mpr ⟨name, hmem, List.any_eq_true.mpr (htaken c hc)⟩
    · obtain ⟨cells, hmem, hcells⟩ := List.mem_filterMap.mp hnumbered
      obtain ⟨⟨read', rest''⟩, hrest, heq⟩ := Option.map_eq_some_iff.mp hcells
      obtain ⟨-, rfl⟩ := Prod.mk.inj heq
      obtain ⟨rfl, hread⟩ := taken_of_readCells hrest
      refine ⟨read', rfl, fun c hc => Bool.or_eq_true_iff.mpr (.inr ?_)⟩
      exact List.any_eq_true.mpr ⟨cells, hmem, List.any_eq_true.mpr (hread c hc)⟩

theorem exists_takes_of_mem_readings {piece : Piece} (hpiece : ∀ field, piece ≠ .field field)
    {text : List Char} {result : List Reading × List Char} (h : result ∈ piece.readings text) :
    ∃ c ∈ text, piece.takes c = true := by
  cases text with
  | nil => cases piece <;> simp_all [Piece.readings, skipBlanks]
  | cons c text =>
    refine ⟨c, List.mem_cons_self, ?_⟩
    cases piece with
    | letter l =>
      simp only [Piece.readings] at h
      split at h
      · assumption
      · simp at h
    | blanks =>
      simp only [Piece.readings, skipBlanks] at h
      split at h
      · assumption
      · simp at h
    | field field => exact absurd rfl (hpiece field)

/-- Where a text can be read, every piece other than a field stands for some character of it. -/
theorem exists_takes_of_read? {text : List Char} {result : List Reading × List Char}
    (h : read? pieces text = some result) {piece : Piece} (hmem : piece ∈ pieces)
    (hpiece : ∀ field, piece ≠ .field field) : ∃ c ∈ text, piece.takes c = true := by
  induction pieces generalizing text result with
  | nil => simp at hmem
  | cons first pieces ih =>
    obtain ⟨⟨read, rest⟩, hfirst, hlater⟩ := List.exists_of_findSome?_eq_some h
    obtain rfl | hmem := List.mem_cons.mp hmem
    · exact exists_takes_of_mem_readings hpiece hfirst
    · obtain ⟨later, hlater, -⟩ := Option.map_eq_some_iff.mp hlater
      obtain ⟨c, hc, htakes⟩ := ih hlater hmem
      obtain ⟨taken, rfl, -⟩ := taken_of_mem_readings hfirst
      exact ⟨c, List.mem_append_right taken hc, htakes⟩

/-- Every character of a text that is read is one that some piece covers. -/
theorem covered_of_read? {text rest : List Char} {read : List Reading}
    (h : read? pieces text = some (read, rest)) :
    ∃ taken, text = taken ++ rest ∧ ∀ c ∈ taken, ∃ piece ∈ pieces, piece.covers c = true := by
  induction pieces generalizing text read with
  | nil =>
    obtain ⟨-, rfl⟩ := Prod.mk.inj (Option.some.inj h)
    exact ⟨[], rfl, by simp⟩
  | cons first pieces ih =>
    obtain ⟨⟨read', rest'⟩, hfirst, hlater⟩ := List.exists_of_findSome?_eq_some h
    obtain ⟨⟨later, after⟩, hrest, heq⟩ := Option.map_eq_some_iff.mp hlater
    obtain ⟨-, rfl⟩ := Prod.mk.inj heq
    obtain ⟨taken, rfl, htaken⟩ := taken_of_mem_readings hfirst
    obtain ⟨taken', rfl, htaken'⟩ := ih hrest
    refine ⟨taken ++ taken', (List.append_assoc _ _ _).symm, fun c hc => ?_⟩
    obtain hc | hc := List.mem_append.mp hc
    · exact ⟨first, List.mem_cons_self, htaken c hc⟩
    · obtain ⟨piece, hpiece, hcovers⟩ := htaken' c hc
      exact ⟨piece, List.mem_cons_of_mem _ hpiece, hcovers⟩

end

end Layout

end BoardSearch
