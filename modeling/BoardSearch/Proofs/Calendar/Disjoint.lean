import BoardSearch.Proofs.Calendar.Layout
import BoardSearch.Request.Temporal
import Mathlib.Data.List.Pairwise

/-!
# Layouts that exclude each other

A text that is read under a layout as a whole has a character for every letter of the layout,
and no character that its pieces do not cover. Of two layouts of searches one has a letter that
no piece of the other covers, so no text is read under both. It is the same in which order the
layouts are tried.

## Main definitions

* `Layout.Accepts`: a text denotes a moment under a layout;
* `Layout.excludes`: pieces have a letter that no other pieces cover;
* `Layout.searched`: the layouts of searches with their pieces;
* `Temporal.readMomentUnder`: some layouts are tried one after another.

## Main statements

* `Layout.eq_of_read?`: no text is read as a whole under two layouts of searches;
* `Layout.findSome?_readMoment_eq_some_iff`: what is found is what the text denotes under
  whichever layout accepts it;
* `Temporal.readMoment_unambiguous`: the order of the layouts does not matter.
-/

namespace BoardSearch

/-! ## Characters that are taken for each other -/

namespace Text

/-- The characters beyond ASCII that are compared as if they were letters of it. -/
def strayLetters : List Nat := [0x130, 0x131, 0x17F, 0x212A]

/-- The characters that can be taken for an ASCII character. -/
def lookalikes : List Char := (List.range 0x80 ++ strayLetters).map Char.ofNat

theorem fold_of_notMem {c : Char} (h : c.toNat ∉ strayLetters) :
    sameLetter.fold c = c.toLower := by
  simp only [strayLetters, List.mem_cons, List.not_mem_nil, or_false, not_or] at h
  unfold sameLetter.fold
  split <;> simp_all

theorem isAscii_toLower (c : Char) : isAscii c.toLower = isAscii c := by
  unfold isAscii Char.toLower
  split
  · rename_i hcapital
    have hcode : c.toNat ≤ 90 := hcapital.2
    have hlower : (c.val + ('a'.val - 'A'.val)).toNat = c.toNat + 32 := by
      rw [UInt32.toNat_add]
      exact Nat.mod_eq_of_lt (by show c.toNat + 32 < 4294967296; omega)
    rw [Char.toNat_mk, hlower]
    exact decide_eq_decide.mpr (by omega)
  · rfl

/-- What a comparison without regard to case takes for an ASCII character is one of the
characters that are listed. -/
theorem mem_lookalikes {l c : Char} (hl : isAscii l = true) (h : sameLetter l c = true) :
    c ∈ lookalikes := by
  refine List.mem_map.mpr ⟨c.toNat, ?_, Char.ofNat_toNat c⟩
  by_cases hstray : c.toNat ∈ strayLetters
  · exact List.mem_append_right _ hstray
  · have hlarge : ∀ code ∈ strayLetters, 0x80 ≤ code := by decide
    have hletter : l.toNat ∉ strayLetters := fun hmem =>
      Nat.not_lt.mpr (hlarge _ hmem) (of_decide_eq_true hl)
    have hlower : l.toLower = c.toLower := by
      rw [← fold_of_notMem hletter, ← fold_of_notMem hstray]
      exact beq_iff_eq.mp h
    have hascii : isAscii c = true := by
      rw [← isAscii_toLower, ← hlower, isAscii_toLower, hl]
    refine List.mem_append_left _ (List.mem_range.mpr ?_)
    simpa [isAscii] using hascii

end Text

namespace Layout

/-! ## Two layouts -/

/-- The pieces have a letter that is part of nothing that the other pieces are read from. -/
def excludes (pieces others : List Piece) : Bool :=
  pieces.any fun piece => match piece with
    | .letter l => Text.isAscii l && Text.lookalikes.all fun c =>
        !Text.sameLetter l c || others.all fun other => !other.covers c
    | _ => false

/-- No text is read as a whole from pieces one of which is a letter that the others exclude. -/
theorem not_read?_of_excludes {pieces others : List Piece} (h : excludes pieces others = true)
    {text : List Char} {read read' : List Reading} (hread : read? pieces text = some (read, [])) :
    read? others text ≠ some (read', []) := by
  intro hother
  obtain ⟨piece, hpiece, hletter⟩ := List.any_eq_true.mp h
  cases piece with
  | letter l =>
    obtain ⟨hascii, hnone⟩ := Bool.and_eq_true_iff.mp hletter
    -- the letter stands for a character of the text, which some other piece covers
    obtain ⟨c, hc, hsame⟩ := exists_takes_of_read? hread hpiece nofun
    obtain ⟨taken, htext, htaken⟩ := covered_of_read? hother
    rw [List.append_nil] at htext
    obtain ⟨other, hmem, hcovers⟩ := htaken c (htext ▸ hc)
    have hexcluded := List.all_eq_true.mp hnone c (Text.mem_lookalikes hascii hsame)
    rw [show Text.sameLetter l c = true from hsame, Bool.not_true, Bool.false_or] at hexcluded
    have huncovered := List.all_eq_true.mp hexcluded other hmem
    rw [hcovers] at huncovered
    exact Bool.false_ne_true huncovered
  | _ => exact Bool.false_ne_true hletter

/-! ## The layouts of searches -/

/-- The layouts of dates with their pieces. -/
def dateDescriptions : List (String × List Piece) :=
  [("%Y-%m-%d", [.field .year, .letter '-', .field .month, .letter '-', .field .day]),
    ("%m/%d/%Y", [.field .month, .letter '/', .field .day, .letter '/', .field .year]),
    ("%Y%m%d", [.field .year, .field .month, .field .day])]

/-- The layouts of times of day with their pieces. -/
def clockDescriptions : List (String × List Piece) :=
  [(" %H:%M:%S", .blanks :: fieldPieces.clock), ("T%H:%M:%S", .letter 'T' :: fieldPieces.clock)]

/-- The layouts of searches with their pieces. -/
def searched : List (String × List Piece) :=
  dateDescriptions.flatMap fun day =>
    (("", []) :: clockDescriptions).map fun clock => (day.1 ++ clock.1, day.2 ++ clock.2)

theorem map_searched : searched.map (·.1) = searchLayouts := by
  decide +kernel

theorem ofText_searched : ∀ entry ∈ searched, ofText entry.1 = .ok entry.2 := by
  decide +kernel

/-- Of two layouts of searches one has a letter that no piece of the other covers. -/
theorem excludes_searched : searched.Pairwise fun entry other =>
    excludes entry.2 other.2 = true ∨ excludes other.2 entry.2 = true := by
  decide +kernel

/-- No text is read as a whole under two layouts of searches. -/
theorem eq_of_read? {entry other : String × List Piece} (hentry : entry ∈ searched)
    (hother : other ∈ searched) {text : List Char} {read read' : List Reading}
    (hread : read? entry.2 text = some (read, [])) (hread' : read? other.2 text = some (read', [])) :
    entry = other := by
  by_contra hne
  have hsymm : Std.Symm fun entry other : String × List Piece =>
      excludes entry.2 other.2 = true ∨ excludes other.2 entry.2 = true := ⟨fun _ _ => Or.symm⟩
  obtain hexcludes | hexcludes := excludes_searched.forall hentry hother hne
  · exact not_read?_of_excludes hexcludes hread hread'
  · exact not_read?_of_excludes hexcludes hread' hread

/-! ## Trying layouts -/

/-- The text denotes a moment under the layout. -/
def Accepts (layout text : String) : Prop := ∃ moment, readMoment layout text = .ok moment

/-- What denotes a moment under a layout is read from its pieces as a whole. -/
theorem read?_of_accepts {pieces : List Piece} {layout text : String}
    (hpieces : ofText layout = .ok pieces) (h : Accepts layout text) :
    ∃ readings, read? pieces text.toList = some (readings, []) := by
  obtain ⟨moment, hmoment⟩ := h
  simp only [readMoment, hpieces, bind, Except.bind] at hmoment
  split at hmoment
  · simp at hmoment
  · simp at hmoment
  · rename_i readings hread
    exact ⟨readings, hread⟩

/-- At most one layout of searches accepts a text. -/
theorem eq_of_accepts {layout other text : String} (hlayout : layout ∈ searchLayouts)
    (hother : other ∈ searchLayouts) (h : Accepts layout text) (h' : Accepts other text) :
    layout = other := by
  rw [← map_searched] at hlayout hother
  obtain ⟨entry, hentry, rfl⟩ := List.mem_map.mp hlayout
  obtain ⟨entry', hentry', rfl⟩ := List.mem_map.mp hother
  obtain ⟨readings, hread⟩ := read?_of_accepts (ofText_searched entry hentry) h
  obtain ⟨readings', hread'⟩ := read?_of_accepts (ofText_searched entry' hentry') h'
  rw [eq_of_read? hentry hentry' hread hread']

/-- Layouts of searches that are tried in any order find what a text denotes under whichever
of them accepts it. -/
theorem findSome?_readMoment_eq_some_iff {layouts : List String} (hsub : layouts ⊆ searchLayouts)
    {text : String} {moment : Moment} :
    (layouts.findSome? fun layout => (readMoment layout text).toOption) = some moment ↔
      ∃ layout ∈ layouts, readMoment layout text = .ok moment := by
  have htoOption : ∀ {layout : String} {moment : Moment},
      (readMoment layout text).toOption = some moment ↔ readMoment layout text = .ok moment := by
    intro layout moment
    cases readMoment layout text <;> simp [Except.toOption]
  constructor
  · intro h
    obtain ⟨layout, hlayout, hmoment⟩ := List.exists_of_findSome?_eq_some h
    exact ⟨layout, hlayout, htoOption.mp hmoment⟩
  · rintro ⟨layout, hlayout, hmoment⟩
    -- something is found, and the layout it is found under can be no other one
    have hsome : (layouts.findSome? fun layout => (readMoment layout text).toOption).isSome :=
      List.findSome?_isSome_iff.mpr ⟨layout, hlayout, by rw [htoOption.mpr hmoment]; rfl⟩
    obtain ⟨found, hfound⟩ := Option.isSome_iff_exists.mp hsome
    obtain ⟨other, hother, hfound'⟩ := List.exists_of_findSome?_eq_some hfound
    obtain rfl : other = layout := eq_of_accepts (hsub hother) (hsub hlayout)
      ⟨found, htoOption.mp hfound'⟩ ⟨moment, hmoment⟩
    rw [hfound, ← hfound', htoOption.mpr hmoment]

end Layout

namespace Temporal

open Layout (Accepts searchLayouts)

/-- The moment that a text denotes under the first of some layouts that accepts it. -/
def readMomentUnder (layouts : List String) (text : String) : Except Failure Moment :=
  match layouts.findSome? fun layout => (Layout.readMoment layout text).toOption with
  | some moment => .ok moment
  | none => .error (.unreadableTime text)

theorem readMomentUnder_searchLayouts (text : String) :
    readMomentUnder searchLayouts text = readMoment text := rfl

section

variable {layouts : List String} (hsub : layouts ⊆ searchLayouts) {text : String}

include hsub

/-- What is read is what the text denotes under whichever layout accepts it. -/
theorem readMomentUnder_eq_ok_iff {moment : Moment} :
    readMomentUnder layouts text = .ok moment ↔
      ∃ layout ∈ layouts, Layout.readMoment layout text = .ok moment := by
  rw [← Layout.findSome?_readMoment_eq_some_iff hsub]
  unfold readMomentUnder
  cases layouts.findSome? fun layout => (Layout.readMoment layout text).toOption <;> simp

/-- A text is refused just where no layout accepts it. -/
theorem readMomentUnder_eq_error_iff {failure : Failure} :
    readMomentUnder layouts text = .error failure ↔
      failure = .unreadableTime text ∧ ∀ layout ∈ layouts, ¬ Accepts layout text := by
  have hnone : (layouts.findSome? fun layout => (Layout.readMoment layout text).toOption) = none ↔
      ∀ layout ∈ layouts, ¬ Accepts layout text := by
    rw [Option.eq_none_iff_forall_ne_some]
    simp only [ne_eq, Layout.findSome?_readMoment_eq_some_iff hsub, Accepts, not_exists, not_and]
    exact ⟨fun h layout hlayout moment => h moment layout hlayout,
      fun h moment layout hlayout => h layout hlayout moment⟩
  rw [← hnone]
  unfold readMomentUnder
  cases layouts.findSome? fun layout => (Layout.readMoment layout text).toOption with
  | none => simp [eq_comm]
  | some moment => simp

end

/-- At most one layout of searches accepts a text. So the moment that is read, or the refusal,
is the same in whichever order the layouts are tried, and a text is refused just where none of
them accepts it. -/
theorem readMoment_unambiguous (text : String) :
    (∀ layout ∈ searchLayouts, ∀ other ∈ searchLayouts,
      Accepts layout text → Accepts other text → layout = other) ∧
    (∀ layouts, layouts.Perm searchLayouts → readMomentUnder layouts text = readMoment text) ∧
    ((∃ failure, readMoment text = .error failure) ↔
      ∀ layout ∈ searchLayouts, ¬ Accepts layout text) := by
  refine ⟨fun layout hlayout other hother => Layout.eq_of_accepts hlayout hother, ?_, ?_⟩
  · intro layouts hperm
    rw [← readMomentUnder_searchLayouts]
    cases hresult : readMomentUnder searchLayouts text with
    | ok moment =>
      obtain ⟨layout, hlayout, hmoment⟩ :=
        (readMomentUnder_eq_ok_iff (List.Subset.refl _)).mp hresult
      exact (readMomentUnder_eq_ok_iff hperm.subset).mpr
        ⟨layout, hperm.mem_iff.mpr hlayout, hmoment⟩
    | error failure =>
      obtain ⟨hfailure, hnone⟩ := (readMomentUnder_eq_error_iff (List.Subset.refl _)).mp hresult
      exact (readMomentUnder_eq_error_iff hperm.subset).mpr
        ⟨hfailure, fun layout hlayout => hnone layout (hperm.subset hlayout)⟩
  · rw [← readMomentUnder_searchLayouts]
    simp only [readMomentUnder_eq_error_iff (List.Subset.refl _), exists_eq_left]

/-- A leap day with a digit of another script and a small letter, and the last layout first. -/
theorem readMoment_unambiguous_mixed :
    Accepts "%Y-%m-%dT%H:%M:%S" "2020-02-2٩t7:05:9" ∧
    ¬ Accepts "%Y-%m-%d %H:%M:%S" "2020-02-2٩t7:05:9" ∧
    readMomentUnder searchLayouts.reverse "2020-02-2٩t7:05:9" =
      .ok ⟨⟨2020, 2, 29, by decide⟩, ⟨7, 5, 9, 0, by decide, by decide, by decide, by decide⟩,
        .utc⟩ := by
  obtain ⟨hunique, horder, -⟩ := readMoment_unambiguous "2020-02-2٩t7:05:9"
  have hread : Layout.readMoment "%Y-%m-%dT%H:%M:%S" "2020-02-2٩t7:05:9" =
      .ok ⟨⟨2020, 2, 29, by decide⟩, ⟨7, 5, 9, 0, by decide, by decide, by decide, by decide⟩,
        .utc⟩ := by decide +kernel
  refine ⟨⟨_, hread⟩, fun hspaced => ?_, ?_⟩
  · exact absurd (hunique _ (by decide) _ (by decide) hspaced ⟨_, hread⟩) (by decide)
  · rw [horder _ (List.reverse_perm _), ← readMomentUnder_searchLayouts]
    exact (readMomentUnder_eq_ok_iff (List.Subset.refl _)).mpr ⟨_, by decide, hread⟩

end Temporal

end BoardSearch
