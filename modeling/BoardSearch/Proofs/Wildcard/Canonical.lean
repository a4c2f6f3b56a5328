import BoardSearch.Proofs.Wildcard.Marks
import Mathlib.Data.List.SplitBy

/-!
# Translated patterns are canonical

A translated pattern has no live question mark and no two live stars in a row. It has
a live star for every maximal block of live percent signs, and the same literal
characters as before. So a second translation finds nothing to do but to escape the stars of
the first one, and a third one finds nothing at all.

## Main definitions

* `blocks`: the number of maximal blocks that a member of a row makes up;
* `Dialect.literals`: the characters of a pattern that stand for themselves.

## Main statements

* `ofLikeText_canonical`: the form of a translated pattern;
* `ofLikeText_again`: what further translations do.
-/

namespace BoardSearch.Wildcard

/-! ## Blocks -/

section Blocks

variable {α : Type} [DecidableEq α]

/-- The number of maximal blocks that a member of a row makes up. -/
def blocks (a : α) (row : List α) : Nat := (row.splitBy (· == ·)).countP (a ∈ ·)

/-- A member that is written twice at the beginning joins the first block. -/
theorem exists_splitBy_cons_cons (a : α) (row : List α) :
    ∃ block others, (a :: row).splitBy (· == ·) = (a :: block) :: others ∧
      (a :: a :: row).splitBy (· == ·) = (a :: a :: block) :: others := by
  obtain ⟨block, others, hrow⟩ : ∃ block others,
      (a :: row).splitBy (· == ·) = (a :: block) :: others := by
    have hflat := List.flatten_splitBy (· == ·) (a :: row)
    have hnonempty := List.nil_notMem_splitBy (· == ·) (a :: row)
    match hsplit : (a :: row).splitBy (· == ·) with
    | [] => simp at hsplit
    | [] :: others => simp [hsplit] at hnonempty
    | (b :: block) :: others =>
      rw [hsplit] at hflat
      obtain rfl : b = a := (List.cons.inj hflat).1
      exact ⟨block, others, rfl⟩
  obtain ⟨hflat, hnonempty, hchain, hborders⟩ := List.splitBy_eq_iff.mp hrow
  refine ⟨block, others, hrow, List.splitBy_eq_iff.mpr ⟨?_, ?_, ?_, ?_⟩⟩
  · rw [hflat]
    rfl
  · simpa using hnonempty
  · intro m hm
    obtain rfl | hm := List.mem_cons.mp hm
    · exact List.isChain_cons_cons.mpr ⟨beq_self_eq_true a, hchain _ List.mem_cons_self⟩
    · exact hchain m (List.mem_cons_of_mem _ hm)
  · -- the first block ends as it did before
    cases others with
    | nil => exact List.isChain_singleton _
    | cons next others =>
      obtain ⟨⟨hblock, hnext, hends⟩, hothers⟩ := List.isChain_cons_cons.mp hborders
      refine List.isChain_cons_cons.mpr ⟨⟨List.cons_ne_nil _ _, hnext, ?_⟩, hothers⟩
      rw [List.getLast_cons hblock]
      exact hends

@[simp]
theorem blocks_nil (a : α) : blocks a [] = 0 := rfl

/-- A block ends where another member follows, or none. -/
theorem blocks_cons (a b : α) (row : List α) :
    blocks a (b :: row) = (if b = a ∧ row.head? ≠ some a then 1 else 0) + blocks a row := by
  cases row with
  | nil =>
    have hone : [b].splitBy (· == ·) = [[b]] := rfl
    rw [blocks, hone, List.countP_singleton]
    simp [eq_comm]
  | cons c row =>
    by_cases hbc : b = c
    · subst hbc
      obtain ⟨block, others, hone, htwo⟩ := exists_splitBy_cons_cons b row
      have hgoesOn : ¬(b = a ∧ (b :: row).head? ≠ some a) := by simp
      rw [blocks, blocks, hone, htwo, if_neg hgoesOn, Nat.zero_add, List.countP_cons,
        List.countP_cons]
      simp
    · have hsplit : (b :: c :: row).splitBy (· == ·) = [b] :: (c :: row).splitBy (· == ·) :=
        List.splitBy_append_cons row (l := [b]) (by simpa using hbc)
      rw [blocks, blocks, hsplit, List.countP_cons, Nat.add_comm]
      by_cases h : b = a
      · subst h
        simp [Ne.symm hbc]
      · simp [h, Ne.symm h]

theorem blocks_cons_of_ne {a b : α} (h : b ≠ a) (row : List α) :
    blocks a (b :: row) = blocks a row := by
  rw [blocks_cons, if_neg fun hb => h hb.1, Nat.zero_add]

theorem blocks_append_of_notMem {a : α} {front : List α} (h : a ∉ front) (row : List α) :
    blocks a (front ++ row) = blocks a row := by
  induction front with
  | nil => rfl
  | cons b front ih =>
    have hb : b ≠ a := fun hb => h (hb ▸ List.mem_cons_self)
    have hfront : a ∉ front := fun ha => h (List.mem_cons_of_mem b ha)
    rw [List.cons_append, blocks_cons_of_ne hb, ih hfront]

theorem blocks_eq_zero {a : α} {row : List α} : blocks a row = 0 ↔ a ∉ row := by
  have hmem : a ∈ row ↔ ∃ block ∈ row.splitBy (· == ·), a ∈ block := by
    rw [← List.mem_flatten, List.flatten_splitBy]
  rw [blocks, List.countP_eq_zero, hmem]
  simp

end Blocks

/-! ## What the passes leave -/

/-- Escaping leaves no live wildcard of the engine, and makes no live percent sign. -/
theorem Mark.mem_escaped {m n : Mark} (h : n ∈ m.escaped) :
    n.isWildcard = false ∧ (n = percent → m = percent) := by
  rw [escaped] at h
  split at h
  · have hcases : n = ⟨'\\', true⟩ ∨ n = ⟨m.char, false⟩ := by simpa using h
    obtain rfl | rfl := hcases
    · exact ⟨rfl, fun hpercent => absurd hpercent (by decide)⟩
    · exact ⟨rfl, fun hpercent => by simp [percent] at hpercent⟩
  · next hplain =>
    obtain rfl := List.mem_singleton.mp h
    exact ⟨Bool.eq_false_iff.mpr hplain, id⟩

/-- A mark is translated to live stars only if it is a live percent sign, and never to
another live wildcard of either side. -/
theorem Mark.mem_translated {m n : Mark} (h : n ∈ m.translated) :
    (n = star → m = percent) ∧ n ≠ question ∧ n ≠ percent := by
  obtain ⟨k, hk, rfl⟩ := List.mem_map.mp h
  obtain ⟨hwildcard, hpercent⟩ := mem_escaped hk
  obtain ⟨hstar, hquestion⟩ : k ≠ star ∧ k ≠ question := by
    rw [← not_or, ← isWildcard_iff, hwildcard]
    exact Bool.false_ne_true
  by_cases hk : k = percent
  · rw [starred, if_pos hk]
    exact ⟨fun _ => hpercent hk, by decide, by decide⟩
  · rw [starred, if_neg hk]
    exact ⟨fun h => absurd h hstar, hquestion, hk⟩

theorem Mark.translated_percent : percent.translated = [star] := rfl

theorem Mark.translated_ne_nil (m : Mark) : m.translated ≠ [] := by
  rw [translated, escaped]
  split <;> simp

/-- Only the two wildcards of the engine and the percent sign have a meaning to lose. -/
theorem marks_ofLike_subset {p : List Char} {n : Mark} (h : n ∈ marks (ofLike p)) :
    ∃ m ∈ marks p, n ∈ m.translated := by
  rw [marks_ofLike] at h
  exact List.mem_flatMap.mp ((List.destutter_sublist _ _).subset h)

theorem question_notMem_ofLike (p : List Char) : .question ∉ marks (ofLike p) := by
  intro h
  obtain ⟨m, _, hm⟩ := marks_ofLike_subset h
  exact (Mark.mem_translated hm).2.1 rfl

theorem percent_notMem_ofLike (p : List Char) : .percent ∉ marks (ofLike p) := by
  intro h
  obtain ⟨m, _, hm⟩ := marks_ofLike_subset h
  exact (Mark.mem_translated hm).2.2 rfl

theorem isChain_marks_ofLike (p : List Char) : (marks (ofLike p)).IsChain Mark.Apart := by
  rw [marks_ofLike]
  exact List.isChain_destutter _ _

/-! ## Stars for blocks of percent signs -/

/-- Of a block of live stars the last pass leaves one. -/
theorem count_star_destutter (ms : List Mark) :
    (ms.destutter Mark.Apart).count .star = blocks .star ms ∧
      (ms.destutter' Mark.Apart .star).count .star = blocks .star (.star :: ms) := by
  induction ms with
  | nil => exact ⟨rfl, rfl⟩
  | cons m ms ih =>
    by_cases hm : m = .star
    · subst hm
      have hgoesOn : blocks Mark.star (.star :: .star :: ms) = blocks .star (.star :: ms) := by
        rw [blocks_cons, if_neg (by simp), Nat.zero_add]
      have hdropped : ¬Mark.Apart .star .star := fun h => h ⟨rfl, rfl⟩
      rw [List.destutter_cons', List.destutter'_cons_neg ms hdropped, hgoesOn]
      exact ⟨ih.2, ih.2⟩
    · have hends : Mark.star = .star ∧ (m :: ms).head? ≠ some .star := ⟨rfl, by simpa using hm⟩
      rw [destutter_cons_of_ne_star hm, destutter'_star_of_ne_star hm, List.count_cons_self,
        List.count_cons_of_ne hm, ih.1, blocks_cons Mark.star .star, if_pos hends,
        blocks_cons_of_ne hm, Nat.add_comm]
      exact ⟨rfl, rfl⟩

/-- The first two passes leave a live star in front exactly where a live percent sign was. -/
theorem head?_flatMap_translated (ms : List Mark) :
    (ms.flatMap Mark.translated).head? = some .star ↔ ms.head? = some .percent := by
  cases ms with
  | nil => simp
  | cons m ms =>
    rw [List.flatMap_cons, List.head?_append_of_ne_nil _ m.translated_ne_nil, List.head?_cons,
      Option.some.injEq]
    constructor
    · intro h
      exact (Mark.mem_translated (List.mem_of_head? h)).1 rfl
    · rintro rfl
      rfl

/-- The first two passes keep blocks apart. -/
theorem blocks_flatMap_translated (ms : List Mark) :
    blocks .star (ms.flatMap Mark.translated) = blocks .percent ms := by
  induction ms with
  | nil => rfl
  | cons m ms ih =>
    rw [List.flatMap_cons]
    by_cases hm : m = .percent
    · subst hm
      rw [Mark.translated_percent, List.singleton_append, blocks_cons, blocks_cons, ih]
      simp only [head?_flatMap_translated, ne_eq, true_and]
    · have hstar : .star ∉ m.translated := fun h => hm ((Mark.mem_translated h).1 rfl)
      rw [blocks_append_of_notMem hstar, blocks_cons_of_ne hm, ih]

/-- A translated pattern has a live star for every block of live percent signs. -/
theorem count_star_ofLike (p : List Char) :
    (marks (ofLike p)).count .star = blocks .percent (marks p) := by
  rw [marks_ofLike, (count_star_destutter _).1, blocks_flatMap_translated]

/-! ## Literal characters -/

/-- The character that a piece stands for, unless it is a wildcard. -/
def Piece.literal? : Piece → Option Char
  | .just c => some c
  | .run | .one => none

/-- The characters of a pattern that stand for themselves, in a dialect. -/
def Dialect.literals (d : Dialect) (pattern : List Char) : List Char :=
  (d.pieces pattern).filterMap Piece.literal?

theorem Piece.literals_merged (ps : List Piece) (inRun : Bool) :
    (merged inRun ps).filterMap literal? = ps.filterMap literal? := by
  induction ps generalizing inRun with
  | nil => rfl
  | cons p ps ih =>
    cases p with
    | run =>
      rw [List.filterMap_cons_none rfl]
      cases inRun with
      | true => exact ih true
      | false =>
        have hkept : merged false (.run :: ps) = .run :: merged true ps := rfl
        rw [hkept, List.filterMap_cons_none rfl, ih]
    | one =>
      rw [merged, List.filterMap_cons_none rfl, List.filterMap_cons_none rfl, ih]
      simp
    | just c =>
      have hsome : literal? (.just c) = some c := rfl
      rw [merged, List.filterMap_cons_some hsome, List.filterMap_cons_some hsome, ih]
      simp

theorem literals_ofLike (p : List Char) :
    Dialect.engine.literals (ofLike p) = Dialect.like.literals p := by
  rw [Dialect.literals, pieces_ofLike, Piece.literals_merged, Dialect.literals]

/-- A translated pattern has no live question mark, no two live stars in a row, as many
live stars as there were blocks of live percent signs, and the same literal characters. -/
theorem ofLikeText_canonical (pattern : String) :
    .question ∉ marks (ofLikeText pattern).toList ∧
      (marks (ofLikeText pattern).toList).IsChain Mark.Apart ∧
      (marks (ofLikeText pattern).toList).count .star = blocks .percent (marks pattern.toList) ∧
      Dialect.engine.literals (ofLikeText pattern).toList =
        Dialect.like.literals pattern.toList := by
  have hchars : (ofLikeText pattern).toList = ofLike pattern.toList := String.toList_ofList
  rw [hchars]
  exact ⟨question_notMem_ofLike _, isChain_marks_ofLike _, count_star_ofLike _, literals_ofLike _⟩

-- a star that was literal stays so next to a live one
example : ofLikeText "%%\\%*%" = "*\\%\\**" := by decide

/-! ## Translating again -/

theorem isWildcard_of_mem_escape {p : List Char} {n : Mark} (h : n ∈ marks (escape p)) :
    n.isWildcard = false := by
  rw [marks_escape] at h
  obtain ⟨m, _, hm⟩ := List.mem_flatMap.mp h
  exact (Mark.mem_escaped hm).1

/-- Escaping leaves a pattern alone exactly if it has no live wildcard of the engine. -/
theorem escape_eq_self_iff (p : List Char) :
    escape p = p ↔ ∀ m ∈ marks p, m.isWildcard = false := by
  constructor
  · intro h m hm
    rw [← h] at hm
    exact isWildcard_of_mem_escape hm
  · intro h
    apply marks_injective
    rw [marks_escape]
    calc (marks p).flatMap Mark.escaped = (marks p).flatMap fun m => [m] :=
          List.flatMap_congr fun m hm => Mark.escaped_of_not_isWildcard (h m hm)
      _ = marks p := List.flatMap_singleton' (marks p)

theorem escape_escape (p : List Char) : escape (escape p) = escape p :=
  (escape_eq_self_iff (escape p)).mpr fun _ => isWildcard_of_mem_escape

/-- Without live stars there is nothing to drop. -/
theorem destutter_of_star_notMem {ms : List Mark} (h : .star ∉ ms) :
    ms.destutter Mark.Apart = ms := by
  induction ms with
  | nil => rfl
  | cons m ms ih =>
    have hm : m ≠ .star := fun hm => h (hm ▸ List.mem_cons_self)
    rw [destutter_cons_of_ne_star hm, ih fun hstar => h (List.mem_cons_of_mem m hstar)]

/-- Where no percent sign is live, a translation only escapes. -/
theorem ofLike_of_percent_notMem {p : List Char} (h : .percent ∉ marks p) :
    ofLike p = escape p := by
  have htranslated : ∀ m ∈ marks p, m.translated = m.escaped := by
    intro m hm
    have hkept : ∀ n ∈ m.escaped, n.starred = n := by
      intro n hn
      exact if_neg fun hpercent => h ((Mark.mem_escaped hn).2 hpercent ▸ hm)
    exact (List.map_congr_left hkept).trans (List.map_id _)
  have hstar : .star ∉ marks (escape p) :=
    fun hstar => absurd (isWildcard_of_mem_escape hstar) (by decide)
  apply marks_injective
  rw [marks_ofLike, List.flatMap_congr htranslated, ← marks_escape, destutter_of_star_notMem hstar]

theorem percent_notMem_escape {p : List Char} (h : .percent ∉ marks p) :
    .percent ∉ marks (escape p) := by
  rw [marks_escape]
  intro hpercent
  obtain ⟨m, hm, hn⟩ := List.mem_flatMap.mp hpercent
  exact h ((Mark.mem_escaped hn).2 rfl ▸ hm)

/-- A translated pattern has live wildcards exactly if the pattern has live percent signs. -/
theorem escape_ofLike_eq_self_iff (p : List Char) :
    escape (ofLike p) = ofLike p ↔ .percent ∉ marks p := by
  have hstar : .star ∉ marks (ofLike p) ↔ .percent ∉ marks p := by
    rw [← List.count_eq_zero, count_star_ofLike, blocks_eq_zero]
  rw [escape_eq_self_iff, ← hstar]
  constructor
  · intro h hm
    exact absurd (h _ hm) (by decide)
  · intro h m hm
    by_contra hwildcard
    obtain rfl | rfl := m.isWildcard_iff.mp (Bool.of_not_eq_false hwildcard)
    · exact h hm
    · exact question_notMem_ofLike p hm

/-- Translating a translated pattern again escapes its stars, and a third translation
changes nothing. The second one changes nothing exactly if the pattern had no live
percent sign. -/
theorem ofLikeText_again (pattern : String) :
    ofLikeText (ofLikeText pattern) = String.ofList (escape (ofLikeText pattern).toList) ∧
      ofLikeText (ofLikeText (ofLikeText pattern)) = ofLikeText (ofLikeText pattern) ∧
      (ofLikeText (ofLikeText pattern) = ofLikeText pattern ↔
        .percent ∉ marks pattern.toList) := by
  let p := pattern.toList
  have htwice : ofLike (ofLike p) = escape (ofLike p) :=
    ofLike_of_percent_notMem (percent_notMem_ofLike p)
  have hthrice : ofLike (escape (ofLike p)) = escape (ofLike p) := by
    rw [ofLike_of_percent_notMem (percent_notMem_escape (percent_notMem_ofLike p)), escape_escape]
  simp only [ofLikeText, String.toList_ofList]
  refine ⟨congrArg String.ofList htwice, ?_, ?_⟩
  · exact congrArg String.ofList (by rw [htwice, hthrice])
  · rw [String.ofList_inj, htwice]
    exact escape_ofLike_eq_self_iff p

end BoardSearch.Wildcard
