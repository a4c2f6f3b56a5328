import BoardSearch.Proofs.Json.Numeral
import BoardSearch.Value.Written

/-!
# Reading what the grammar spells

The reader accepts every JSON text, except that it refuses integers of too many digits.
Of members of the same name it keeps the place of the first and the value of the last.

## Main definitions

* `Json.isShort`: no integer in a document is too long to be read;
* `Json.merged`: a document in which members of the same name are one;
* `Json.Reads`: reading comes to a result, or else finds an integer that is too long.

## Main statements

* `Json.isRead_of_spells`: how what the grammar spells is read;
* `Json.read_of_spells`: how a JSON text is read.
-/

namespace BoardSearch.Json

/-! ## Integers and names in a document -/

mutual

/-- No integer in a document is too long to be read. -/
def isShort : Json → Bool
  | .int n => Value.isShort n
  | .array items => itemsAreShort items
  | .object members => membersAreShort members
  | _ => true
termination_by structural document => document

/-- No integer in the items of an array is too long to be read. -/
def itemsAreShort : List Json → Bool
  | [] => true
  | item :: rest => isShort item && itemsAreShort rest
termination_by structural items => items

/-- No integer in the members of an object is too long to be read. -/
def membersAreShort : List (String × Json) → Bool
  | [] => true
  | (_, document) :: rest => isShort document && membersAreShort rest
termination_by structural members => members

end

mutual

/-- A document in which members of the same name are one: it has the place of the first and
the value of the last of them. -/
def merged : Json → Json
  | .array items => .array (mergedItems items)
  | .object members => .object (Keyed.ofEntries (mergedMembers members))
  | document => document
termination_by structural document => document

/-- Items in which members of the same name are one. -/
def mergedItems : List Json → List Json
  | [] => []
  | item :: rest => merged item :: mergedItems rest
termination_by structural items => items

/-- Members in whose values members of the same name are one. -/
def mergedMembers : List (String × Json) → List (String × Json)
  | [] => []
  | (name, document) :: rest => (name, merged document) :: mergedMembers rest
termination_by structural members => members

end

namespace Number

variable (number : Number)

/-- A number is an integer that is too long just where the reader refuses it. -/
theorem isShort_document : number.document.isShort = false ↔
    number.fraction = none ∧ number.exponent = none ∧ Text.maxDigits < number.whole.length := by
  have hlength := plainValue_lt_pow_iff number.wholeDigits number.noLeadingZero
    (by decide : 0 < Text.maxDigits)
  have habs : ∀ (negative : Bool) (n : Nat), (Binary64.signed negative n).natAbs = n := by
    intro negative n
    cases negative <;> simp [Binary64.signed]
  unfold document
  cases number.fraction with
  | some digits => simp [isShort]
  | none =>
    cases number.exponent with
    | some exponent => simp [isShort]
    | none =>
      simp only [isShort, Value.isShort, habs, Nat.pow_eq, decide_eq_false_iff_not,
        true_and]
      rw [hlength, Nat.not_le]

end Number

/-! ## Results of reading -/

section

variable {α β : Type}

/-- Reading comes to the value with the rest of the text, unless an integer is too long. -/
def Reads (reading : Except Obstacle (α × List Char)) (isShort : Bool) (value : α)
    (rest : List Char) : Prop :=
  if isShort then reading = .ok (value, rest)
  else ∃ reason, reading = .error (.numeral reason)

theorem Reads.bind {reading : Except Obstacle (α × List Char)}
    {f : α × List Char → Except Obstacle (β × List Char)} {short short' : Bool}
    {value : α} {value' : β} {rest rest' : List Char} (h : Reads reading short value rest)
    (hnext : Reads (f (value, rest)) short' value' rest') :
    Reads (reading >>= f) (short && short') value' rest' := by
  cases short with
  | true =>
    obtain rfl : reading = .ok (value, rest) := h
    rw [Bool.true_and]
    exact hnext
  | false =>
    obtain ⟨reason, rfl⟩ := h
    exact ⟨reason, rfl⟩

theorem Reads.ok (value : α) (rest : List Char) : Reads (.ok (value, rest)) true value rest := rfl

theorem Reads.map {reading : Except Obstacle (α × List Char)} {short : Bool} {value : α}
    {rest : List Char} (h : Reads reading short value rest) (f : α → β) :
    Reads (reading.map fun read => (f read.1, read.2)) short (f value) rest := by
  cases short with
  | true =>
    obtain rfl : reading = .ok (value, rest) := h
    rfl
  | false =>
    obtain ⟨reason, rfl⟩ := h
    exact ⟨reason, rfl⟩

theorem Reads.bind_pure {reading : Except Obstacle (α × List Char)} {short : Bool} {value : α}
    {rest : List Char} (h : Reads reading short value rest) (f : α → β) :
    Reads (reading >>= fun read => pure (f read.1, read.2)) short (f value) rest := by
  have hnext := h.bind (f := fun read => pure (f read.1, read.2)) (.ok (f value) rest)
  rwa [Bool.and_true] at hnext

end

/-! ## Texts -/

theorem ne_unit_of_plainEscape? {letter c : Char} (h : plainEscape? letter = some c) :
    letter ≠ 'u' := by
  rintro rfl
  simp [plainEscape?] at h

theorem nonempty_of_spellsUnits {text rest : List Char} {units : List Nat}
    (h : SpellsUnits text units rest) : text.isEmpty = false := by
  cases h <;> rfl

theorem readUnits_of_spellsUnits {text rest : List Char} {units : List Nat} (opening : List Char)
    (h : SpellsUnits text units rest) : readUnits opening text = .ok (units, rest) := by
  induction h with
  | closed rest => simp [readUnits]
  | plain hcontrol _ hescape _ ih =>
    have hvisible : ¬ _ < 0x20 := Nat.not_lt.mpr hcontrol
    simp [readUnits, hescape, hvisible, ih, precede, Except.map]
  | escape hletter _ ih =>
    have hne := ne_unit_of_plainEscape? hletter
    simp [readUnits, hne, hletter, ih, precede, Except.map]
  | unit hunit htext ih =>
    have hnonempty := nonempty_of_spellsUnits htext
    simp [readUnits, hunit, hnonempty, ih, precede, Except.map]

theorem readText_of_spellsText {text rest : List Char} {value : String}
    (h : SpellsText text value rest) : readText ('"' :: text) = .ok (value, rest) := by
  obtain ⟨units, hunits, rfl⟩ := h
  have hread := readUnits_of_spellsUnits ('"' :: text) hunits
  simp [readText, hread, Except.map]

/-! ## Documents -/

/-- What follows a document: a blank, a separator, a bracket or brace, or nothing. -/
def Delimited (rest : List Char) : Prop :=
  ∀ c, rest.head? = some c → isBlank c = true ∨ c = ',' ∨ c = ']' ∨ c = '\x7d'

theorem Delimited.endsNumber {rest : List Char} (h : Delimited rest) : EndsNumber rest := by
  intro c hc
  obtain hblank | rfl | rfl | rfl := h c hc
  · unfold isBlank at hblank
    simp only [Bool.or_eq_true, beq_iff_eq] at hblank
    obtain ((rfl | rfl) | rfl) | rfl := hblank <;> decide
  · decide
  · decide
  · decide

theorem Delimited.of_skips {text rest : List Char} (h : Delimited rest) (hskips : Skips text rest) :
    Delimited text := by
  obtain ⟨blanks, hblanks, rfl⟩ := hskips
  cases blanks with
  | nil => exact h
  | cons blank blanks =>
    intro c hc
    obtain rfl : blank = c := Option.some.inj hc
    exact .inl (hblanks blank List.mem_cons_self)

theorem delimited_cons {c : Char} (h : c = ',' ∨ c = ']' ∨ c = '\x7d') (rest : List Char) :
    Delimited (c :: rest) := by
  intro c' hc
  obtain rfl : c = c' := Option.some.inj hc
  exact .inr h

theorem Number.exists_head (number : Number) : ∃ c more, number.chars = c :: more ∧
    (Text.isPlainDigit c = true ∨
      c = '-' ∧ ∃ d more', more = d :: more' ∧ Text.isPlainDigit d = true) := by
  obtain ⟨c, more, heq, hc⟩ := exists_cons_of_areDigits number.wholeDigits
  have hchars := number.chars_append []
  simp only [List.append_nil] at hchars
  rw [hchars, heq]
  cases number.negative with
  | true => exact ⟨_, _, rfl, .inr ⟨rfl, _, _, rfl, hc⟩⟩
  | false => exact ⟨_, _, rfl, .inl hc⟩

theorem ne_of_isPlainDigit {c d : Char} (hc : Text.isPlainDigit c = true)
    (hd : Text.isPlainDigit d = false) : c ≠ d := by
  rintro rfl
  simp [hc] at hd

/-- A document begins neither with a blank nor with what closes an array, nor with a mark
of the order of bytes. -/
theorem head_of_document {text rest : List Char} {document : Json}
    (h : Spells text (.document document) rest) :
    ∃ c more, text = c :: more ∧ isBlank c = false ∧ c ≠ ']' ∧ c ≠ '\ufeff' := by
  cases h with
  | number number rest =>
    obtain ⟨c, more, heq, hc⟩ := number.exists_head
    refine ⟨c, more ++ rest, by rw [heq, List.cons_append], ?_⟩
    obtain hc | ⟨rfl, -⟩ := hc
    · have hspace : c ≠ ' ' := ne_of_isPlainDigit hc (by decide)
      have htab : c ≠ '\t' := ne_of_isPlainDigit hc (by decide)
      have hfeed : c ≠ '\n' := ne_of_isPlainDigit hc (by decide)
      have hreturn : c ≠ '\r' := ne_of_isPlainDigit hc (by decide)
      exact ⟨by simp [isBlank, hspace, htab, hfeed, hreturn],
        ne_of_isPlainDigit hc (by decide), ne_of_isPlainDigit hc (by decide)⟩
    · decide
  | _ => exact ⟨_, _, rfl, by decide, by decide, by decide⟩

theorem head_of_element {text rest : List Char} {document : Json}
    (h : Spells text (.element document) rest) :
    ∃ c more, text.dropWhile isBlank = c :: more ∧ c ≠ ']' := by
  cases h with
  | element hbefore hdocument _ =>
    obtain ⟨c, more, rfl, hblank, hclosing, -⟩ := head_of_document hdocument
    exact ⟨c, more, by rw [hbefore.dropWhile_eq, List.dropWhile_cons_of_neg (by simp [hblank])],
      hclosing⟩

theorem head_of_items {text rest : List Char} {items : List Json}
    (h : Spells text (.items items) rest) :
    ∃ c more, text.dropWhile isBlank = c :: more ∧ c ≠ ']' := by
  cases h with
  | lastItem hitem => exact head_of_element hitem
  | item hitem _ => exact head_of_element hitem

theorem head_of_members {text rest : List Char} {members : List (String × Json)}
    (h : Spells text (.members members) rest) : ∃ more, text.dropWhile isBlank = '"' :: more := by
  cases h with
  | lastMember hbefore => exact ⟨_, by rw [hbefore.dropWhile_eq]; rfl⟩
  | member hbefore => exact ⟨_, by rw [hbefore.dropWhile_eq]; rfl⟩

theorem length_of_spellsUnits {text rest : List Char} {units : List Nat}
    (h : SpellsUnits text units rest) : rest.length < text.length := by
  induction h with
  | closed rest => simp
  | plain _ _ _ _ ih | escape _ _ ih | unit _ _ ih =>
    simp only [List.length_cons]
    omega

/-- The name of a member and the colon behind it. -/
theorem member_opening {text spelled named value : List Char} {name : String}
    (hbefore : Skips text ('"' :: spelled)) (hname : SpellsText spelled name named)
    (hcolon : Skips named (':' :: value)) :
    text.dropWhile isBlank = '"' :: spelled ∧ named.dropWhile isBlank = ':' :: value ∧
      value.length < text.length := by
  obtain ⟨units, hunits, -⟩ := hname
  have hle := hbefore.length_le
  have hlt := length_of_spellsUnits hunits
  have hle' := hcolon.length_le
  simp only [List.length_cons] at hle hle'
  refine ⟨?_, ?_, by omega⟩
  · rw [hbefore.dropWhile_eq, List.dropWhile_cons_of_neg (by decide)]
  · rw [hcolon.dropWhile_eq, List.dropWhile_cons_of_neg (by decide)]

/-- Every spelling takes up a part of the text. -/
theorem length_of_spells {text rest : List Char} {phrase : Phrase} (h : Spells text phrase rest) :
    rest.length < text.length := by
  induction h with
  | null rest | true rest | false rest =>
    simp only [List.length_cons]
    omega
  | number number rest =>
    obtain ⟨c, more, heq, -⟩ := number.exists_head
    rw [heq, List.length_append, List.length_cons]
    omega
  | text htext =>
    obtain ⟨units, hunits, -⟩ := htext
    have hlt := length_of_spellsUnits hunits
    rw [List.length_cons]
    omega
  | emptyArray hskips | emptyObject hskips =>
    have hle := hskips.length_le
    simp only [List.length_cons] at hle ⊢
    omega
  | array _ ih | object _ ih =>
    rw [List.length_cons]
    omega
  | element hbefore _ hafter ih =>
    have hle := hbefore.length_le
    have hle' := hafter.length_le
    omega
  | lastItem _ ih =>
    rw [List.length_cons] at ih
    omega
  | item _ _ ih ihmore =>
    rw [List.length_cons] at ih
    omega
  | lastMember hbefore hname hcolon _ ih =>
    obtain ⟨-, -, hlength⟩ := member_opening hbefore hname hcolon
    rw [List.length_cons] at ih
    omega
  | member hbefore hname hcolon _ _ ih ihmore =>
    obtain ⟨-, -, hlength⟩ := member_opening hbefore hname hcolon
    rw [List.length_cons] at ih
    omega

/-! ## Scalars -/

theorem readScalar_chars (number : Number) (rest : List Char) :
    readScalar (number.chars ++ rest) = readNumber (number.chars ++ rest) := by
  obtain ⟨c, more, heq, hc⟩ := number.exists_head
  unfold readScalar
  rw [heq, List.cons_append]
  have hnone : (words.find? fun word => word.1.isPrefixOf (c :: (more ++ rest))) = none := by
    obtain hc | ⟨rfl, d, more', rfl, hd⟩ := hc
    · have hn : ('n' == c) = false := beq_false_of_ne (ne_of_isPlainDigit hc (by decide)).symm
      have ht : ('t' == c) = false := beq_false_of_ne (ne_of_isPlainDigit hc (by decide)).symm
      have hf : ('f' == c) = false := beq_false_of_ne (ne_of_isPlainDigit hc (by decide)).symm
      have hN : ('N' == c) = false := beq_false_of_ne (ne_of_isPlainDigit hc (by decide)).symm
      have hI : ('I' == c) = false := beq_false_of_ne (ne_of_isPlainDigit hc (by decide)).symm
      have hminus : ('-' == c) = false := beq_false_of_ne (ne_of_isPlainDigit hc (by decide)).symm
      simp [words, List.isPrefixOf, hn, ht, hf, hN, hI, hminus]
    · have hI : ('I' == d) = false := beq_false_of_ne (ne_of_isPlainDigit hd (by decide)).symm
      simp [words, List.isPrefixOf, hI]
  rw [hnone]

theorem readDocument_chars (depth : Nat) (number : Number) (rest : List Char) :
    readDocument (depth + 1) (number.chars ++ rest) = readNumber (number.chars ++ rest) := by
  rw [← readScalar_chars]
  obtain ⟨c, more, heq, hc⟩ := number.exists_head
  have hne : c ≠ '"' ∧ c ≠ '[' ∧ c ≠ '\x7b' := by
    obtain hc | ⟨rfl, -⟩ := hc
    · exact ⟨ne_of_isPlainDigit hc (by decide), ne_of_isPlainDigit hc (by decide),
        ne_of_isPlainDigit hc (by decide)⟩
    · decide
  rw [heq, List.cons_append]
  simp [readDocument, hne]

/-! ## Phrases -/

/-- With enough depth for its text, a phrase is read as what it spells. Whoever reads items
and members has dropped the blanks in front of them. -/
def Phrase.IsRead (text rest : List Char) : Phrase → Prop
  | .document d => ∀ depth, 2 * text.length ≤ depth → Delimited rest →
      Reads (readDocument depth text) d.isShort d.merged rest
  | .element d => ∀ depth, 2 * text.length ≤ depth → Delimited rest →
      ∃ after, after.dropWhile isBlank = rest.dropWhile isBlank ∧
        Reads (readDocument depth (text.dropWhile isBlank)) d.isShort d.merged after
  | .items ds => ∀ depth, 2 * text.length + 1 ≤ depth →
      Reads (readItems depth (text.dropWhile isBlank)) (itemsAreShort ds) (mergedItems ds) rest
  | .members ms => ∀ depth, 2 * text.length + 1 ≤ depth →
      Reads (readMembers depth (text.dropWhile isBlank)) (membersAreShort ms) (mergedMembers ms)
        rest

theorem reads_number (number : Number) {rest : List Char} (hrest : EndsNumber rest) :
    Reads (readNumber (number.chars ++ rest)) number.document.isShort number.document.merged
      rest := by
  have hmerged : number.document.merged = number.document := by
    unfold Number.document
    split <;> rfl
  rw [number.readNumber_chars hrest, hmerged]
  cases hshort : number.document.isShort with
  | false =>
    rw [if_pos (number.isShort_document.mp hshort)]
    exact ⟨_, rfl⟩
  | true =>
    have hnot := mt number.isShort_document.mpr (by simp [hshort])
    rw [if_neg hnot]
    rfl

theorem ok_bind {ε α β : Type} (a : α) (f : α → Except ε β) : (Except.ok a >>= f) = f a := rfl

namespace Phrase.IsRead

variable {text rest : List Char} {document : Json}

theorem leaf {c : Char}
    (hleaf : ∀ depth, readDocument (depth + 1) (c :: text) = .ok (document, rest))
    (hshort : document.isShort = true) (hmerged : document.merged = document) :
    (Phrase.document document).IsRead (c :: text) rest := by
  intro depth hdepth _
  rw [List.length_cons] at hdepth
  obtain ⟨depth, rfl⟩ := Nat.exists_eq_succ_of_ne_zero (by omega : depth ≠ 0)
  rw [hleaf, hshort, hmerged]
  exact .ok document rest

theorem number (number : Number) (rest : List Char) :
    (Phrase.document number.document).IsRead (number.chars ++ rest) rest := by
  intro depth hdepth hrest
  have hlength := length_of_spells (.number number rest)
  obtain ⟨depth, rfl⟩ := Nat.exists_eq_succ_of_ne_zero (by omega : depth ≠ 0)
  rw [readDocument_chars]
  exact reads_number number hrest.endsNumber

theorem array {items : List Json} (hitems : Spells text (.items items) rest)
    (h : (Phrase.items items).IsRead text rest) :
    (Phrase.document (.array items)).IsRead ('[' :: text) rest := by
  intro depth hdepth _
  rw [List.length_cons] at hdepth
  obtain ⟨depth, rfl⟩ := Nat.exists_eq_succ_of_ne_zero (by omega : depth ≠ 0)
  obtain ⟨c, more, hhead, hne⟩ := head_of_items hitems
  have hread := (h depth (by omega)).map Json.array
  have hdocument : readDocument (depth + 1) ('[' :: text) =
      (readItems depth (text.dropWhile isBlank)).map fun read => (.array read.1, read.2) := by
    simp [readDocument, hhead, hne]
  rw [hdocument]
  exact hread

theorem object {members : List (String × Json)} (hmembers : Spells text (.members members) rest)
    (h : (Phrase.members members).IsRead text rest) :
    (Phrase.document (.object members)).IsRead ('\x7b' :: text) rest := by
  intro depth hdepth _
  rw [List.length_cons] at hdepth
  obtain ⟨depth, rfl⟩ := Nat.exists_eq_succ_of_ne_zero (by omega : depth ≠ 0)
  obtain ⟨more, hhead⟩ := head_of_members hmembers
  have hread := (h depth (by omega)).map fun members => Json.object (Keyed.ofEntries members)
  have hdocument : readDocument (depth + 1) ('\x7b' :: text) =
      (readMembers depth (text.dropWhile isBlank)).map fun read =>
        (.object (Keyed.ofEntries read.1), read.2) := by
    simp [readDocument, hhead]
  rw [hdocument]
  exact hread

theorem element {middle after : List Char} (hbefore : Skips text middle)
    (hdocument : Spells middle (.document document) after) (hafter : Skips after rest)
    (h : (Phrase.document document).IsRead middle after) :
    (Phrase.element document).IsRead text rest := by
  intro depth hdepth hrest
  have hle := hbefore.length_le
  obtain ⟨c, more, heq, hblank, -⟩ := head_of_document hdocument
  have hdrop : text.dropWhile isBlank = middle := by
    rw [hbefore.dropWhile_eq, heq, List.dropWhile_cons_of_neg (by simp [hblank])]
  refine ⟨after, hafter.dropWhile_eq, ?_⟩
  rw [hdrop]
  exact h depth (by omega) (hrest.of_skips hafter)

/-- An element in front of a separator, a bracket or a brace: these come first once blanks
are dropped. -/
theorem followed {c : Char} (hc : c = ',' ∨ c = ']' ∨ c = '\x7d')
    (h : (Phrase.element document).IsRead text (c :: rest)) (depth : Nat)
    (hdepth : 2 * text.length ≤ depth) : ∃ after, after.dropWhile isBlank = c :: rest ∧
      Reads (readDocument depth (text.dropWhile isBlank)) document.isShort document.merged
        after := by
  obtain ⟨after, hafter, hread⟩ := h depth hdepth (delimited_cons hc rest)
  have hblank : ¬ isBlank c = true := by
    obtain rfl | rfl | rfl := hc <;> decide
  rw [List.dropWhile_cons_of_neg hblank] at hafter
  exact ⟨after, hafter, hread⟩

theorem lastItem (h : (Phrase.element document).IsRead text (']' :: rest)) :
    (Phrase.items [document]).IsRead text rest := by
  intro depth hdepth
  obtain ⟨depth, rfl⟩ := Nat.exists_eq_succ_of_ne_zero (by omega : depth ≠ 0)
  obtain ⟨after, hafter, hread⟩ := h.followed (by decide) depth (by omega)
  unfold readItems
  refine hread.bind ?_
  simp only [hafter]
  exact .ok [document.merged] rest

theorem item {more : List Char} {items : List Json}
    (hitem : Spells text (.element document) (',' :: more))
    (h : (Phrase.element document).IsRead text (',' :: more))
    (hmore : (Phrase.items items).IsRead more rest) :
    (Phrase.items (document :: items)).IsRead text rest := by
  intro depth hdepth
  have hlength := length_of_spells hitem
  rw [List.length_cons] at hlength
  obtain ⟨depth, rfl⟩ := Nat.exists_eq_succ_of_ne_zero (by omega : depth ≠ 0)
  obtain ⟨after, hafter, hread⟩ := h.followed (by decide) depth (by omega)
  unfold readItems
  refine hread.bind ?_
  simp only [hafter]
  exact (hmore depth (by omega)).bind_pure fun items => document.merged :: items

section

variable {spelled named value : List Char} {name : String}
  (hbefore : Skips text ('"' :: spelled)) (hname : SpellsText spelled name named)
  (hcolon : Skips named (':' :: value))

include hbefore hname hcolon

theorem lastMember (h : (Phrase.element document).IsRead value ('\x7d' :: rest)) :
    (Phrase.members [(name, document)]).IsRead text rest := by
  intro depth hdepth
  obtain ⟨hopening, hseparator, hlength⟩ := member_opening hbefore hname hcolon
  obtain ⟨depth, rfl⟩ := Nat.exists_eq_succ_of_ne_zero (by omega : depth ≠ 0)
  obtain ⟨after, hafter, hread⟩ := h.followed (by decide) depth (by omega)
  rw [hopening]
  unfold readMembers
  simp only [readText_of_spellsText hname, ok_bind, hseparator]
  refine hread.bind ?_
  simp only [hafter]
  exact .ok [(name, document.merged)] rest

theorem member {more : List Char} {members : List (String × Json)}
    (hvalue : Spells value (.element document) (',' :: more))
    (h : (Phrase.element document).IsRead value (',' :: more))
    (hmore : (Phrase.members members).IsRead more rest) :
    (Phrase.members ((name, document) :: members)).IsRead text rest := by
  intro depth hdepth
  obtain ⟨hopening, hseparator, hlength⟩ := member_opening hbefore hname hcolon
  have hless := length_of_spells hvalue
  rw [List.length_cons] at hless
  obtain ⟨depth, rfl⟩ := Nat.exists_eq_succ_of_ne_zero (by omega : depth ≠ 0)
  obtain ⟨after, hafter, hread⟩ := h.followed (by decide) depth (by omega)
  rw [hopening]
  unfold readMembers
  simp only [readText_of_spellsText hname, ok_bind, hseparator]
  refine hread.bind ?_
  simp only [hafter]
  exact (hmore depth (by omega)).bind_pure fun members => (name, document.merged) :: members

end

end Phrase.IsRead

/-- What the grammar spells is read as it is spelled, with members of the same name being
one, unless an integer is too long. -/
theorem isRead_of_spells {text rest : List Char} {phrase : Phrase}
    (h : Spells text phrase rest) : phrase.IsRead text rest := by
  induction h with
  | null rest | true rest | false rest => exact .leaf (fun _ => rfl) rfl rfl
  | number number rest => exact .number number rest
  | text htext =>
    have hread := readText_of_spellsText htext
    exact .leaf (fun _ => by simp [readDocument, hread, Except.map]) rfl rfl
  | emptyArray hskips =>
    have hclosing := hskips.dropWhile_eq
    rw [List.dropWhile_cons_of_neg (by decide)] at hclosing
    exact .leaf (fun _ => by simp [readDocument, hclosing]) rfl rfl
  | emptyObject hskips =>
    have hclosing := hskips.dropWhile_eq
    rw [List.dropWhile_cons_of_neg (by decide)] at hclosing
    exact .leaf (fun _ => by simp [readDocument, hclosing]) rfl rfl
  | array hitems ih => exact .array hitems ih
  | object hmembers ih => exact .object hmembers ih
  | element hbefore hdocument hafter ih => exact .element hbefore hdocument hafter ih
  | lastItem _ ih => exact .lastItem ih
  | item hitem _ ih ihmore => exact .item hitem ih ihmore
  | lastMember hbefore hname hcolon _ ih => exact .lastMember hbefore hname hcolon ih
  | member hbefore hname hcolon hvalue _ ih ihmore =>
    exact .member hbefore hname hcolon hvalue ih ihmore

/-! ## Whole texts -/

theorem readWholeText_of_spells {text : List Char} {document : Json}
    (h : Spells text (.element document) []) :
    if document.isShort then readWholeText text = .ok document.merged
    else ∃ reason, readWholeText text = .error (.numeral reason) := by
  have hnothing : Delimited [] := by
    intro c hc
    simp at hc
  obtain ⟨after, hafter, hread⟩ := isRead_of_spells h (2 * text.length + 1) (by omega) hnothing
  unfold readWholeText
  cases hshort : document.isShort with
  | true =>
    rw [hshort] at hread
    obtain hread : readDocument _ _ = .ok (document.merged, after) := hread
    rw [hread]
    simp only [ok_bind, hafter]
    rfl
  | false =>
    rw [hshort] at hread
    obtain ⟨reason, hread⟩ := hread
    rw [hread]
    exact ⟨reason, rfl⟩

/-- A JSON text does not begin with a mark of the order of bytes. -/
theorem head_of_text {text : List Char} {document : Json}
    (h : Spells text (.element document) []) : text.head? ≠ some '\ufeff' := by
  cases h with
  | element hbefore hdocument _ =>
    obtain ⟨c, more, rfl, -, -, hmark⟩ := head_of_document hdocument
    obtain ⟨blanks, hblanks, rfl⟩ := hbefore
    cases blanks with
    | nil => simpa using hmark
    | cons blank blanks =>
      have hblank := hblanks blank List.mem_cons_self
      rintro heq
      obtain rfl : blank = '\ufeff' := Option.some.inj heq
      exact absurd hblank (by decide)

theorem read_eq_ok {text : String} {document : Json} (hhead : text.toList.head? ≠ some '\ufeff')
    (h : readWholeText text.toList = .ok document) : read text = .ok document := by
  unfold read
  dsimp only
  split
  · rename_i heq
    rw [heq] at hhead
    exact absurd rfl hhead
  · rw [h]

theorem read_eq_error {text : String} {reason : Text.NumeralError}
    (hhead : text.toList.head? ≠ some '\ufeff')
    (h : readWholeText text.toList = .error (.numeral reason)) :
    read text = .error (.numeral reason) := by
  unfold read
  dsimp only
  split
  · rename_i heq
    rw [heq] at hhead
    exact absurd rfl hhead
  · rw [h]

/-- A JSON text is read as what it spells, with members of the same name being one, unless an
integer is too long. -/
theorem read_of_spells {text : String} {document : Json}
    (h : Spells text.toList (.element document) []) :
    if document.isShort then read text = .ok document.merged
    else ∃ reason, read text = .error (.numeral reason) := by
  have hwhole := readWholeText_of_spells h
  have hhead := head_of_text h
  cases hshort : document.isShort with
  | true =>
    rw [hshort] at hwhole
    exact read_eq_ok hhead hwhole
  | false =>
    rw [hshort] at hwhole
    obtain ⟨reason, hwhole⟩ := hwhole
    exact ⟨reason, read_eq_error hhead hwhole⟩

end BoardSearch.Json
