import BoardSearch.Proofs.Wildcard.Meaning

/-!
# What the translation of patterns keeps

The translation of a LIKE pattern runs three passes, each over what the one before it
has made. Each pass is followed by how it changes the reading of a pattern: escaping
makes a LIKE pattern one that also has the engine's wildcards, the next pass leaves
the engine's wildcards alone, and the last one merges runs.

## Main definitions

* `Dialect.either`: the dialect between the passes, with the wildcards of both sides.

## Main statements

* `passFrom_escaped`, `passFrom_plain`: what every pass does in one step;
* `pieces_escape`, `pieces_starring`, `pieces_collapsing`: the reading after each pass;
* `engine_matches_ofLikeText`: a translated pattern matches the same texts.

## Design notes

A pass counts the backslashes that it has just read. Only the parity of that count
matters, so that a pass takes a backslash and the character behind it as one step, in
the way in which patterns are read.
-/

namespace BoardSearch.Wildcard

/-- The dialect in which percent signs stand for runs and the engine's wildcards have
their meaning as well. -/
def Dialect.either : Dialect := ⟨fun c => c == '*' || c == '%', fun c => c == '?'⟩

/-! ## A pass -/

theorem isLive_add_two (run : Nat) : isLive (run + 2) = isLive run := by
  simp [isLive]

section Pass

variable (rewrite : Bool → Char → List Char)

theorem passFrom_add_two (p : List Char) (run : Nat) (behindStar : Bool) :
    passFrom rewrite (run + 2) behindStar p = passFrom rewrite run behindStar p := by
  induction p generalizing run behindStar with
  | nil => rfl
  | cons c rest ih =>
    have hrun : run + 2 + 1 = run + 1 + 2 := by omega
    rw [passFrom, passFrom, hrun, ih, isLive_add_two]

/-- A pass leaves a backslash and the character behind it as they are, and is behind no live
star then. -/
theorem passFrom_escaped (c : Char) (rest : List Char) (behindStar : Bool) :
    passFrom rewrite 0 behindStar ('\\' :: c :: rest) =
      '\\' :: c :: passFrom rewrite 0 false rest := by
  by_cases hc : c = '\\'
  · -- the run goes on, and two backslashes more change nothing
    subst hc
    simp only [passFrom, if_pos]
    rw [passFrom_add_two]
  · have hdead : isLive (0 + 1) = false := rfl
    simp only [passFrom, if_pos, if_neg hc, hdead, Bool.false_eq_true, if_false]

/-- A pass rewrites any other character. -/
theorem passFrom_plain {c : Char} (hc : c ≠ '\\') (rest : List Char) (behindStar : Bool) :
    passFrom rewrite 0 behindStar (c :: rest) =
      rewrite behindStar c ++ passFrom rewrite 0 (c == '*') rest := by
  have hlive : isLive 0 = true := rfl
  rw [passFrom, if_neg hc, if_pos hlive]

/-- A pass that does not look at the star in front goes on behind one as anywhere. -/
theorem passFrom_behind (h : rewrite true = rewrite false) (behindStar : Bool) (p : List Char) :
    passFrom rewrite 0 behindStar p = passFrom rewrite 0 false p := by
  cases behindStar with
  | false => rfl
  | true =>
    cases p with
    | nil => rfl
    | cons c rest => rw [passFrom, passFrom, h]

end Pass

/-! ## Escaping -/

theorem escape_escaped (c : Char) (rest : List Char) :
    escape ('\\' :: c :: rest) = '\\' :: c :: escape rest :=
  passFrom_escaped escaping c rest false

/-- Escaping puts a backslash in front of a wildcard of the engine. -/
theorem escape_plain {c : Char} (hc : c ≠ '\\') (rest : List Char) :
    escape (c :: rest) =
      if isEngineWildcard c then '\\' :: c :: escape rest else c :: escape rest := by
  rw [escape, passFrom_plain escaping hc, passFrom_behind escaping rfl, escaping, escape]
  split <;> rfl

/-- An escaped pattern has the engine's wildcards and is read as the LIKE pattern was
without them. -/
theorem pieces_escape (p : List Char) :
    Dialect.either.pieces (escape p) = Dialect.like.pieces p := by
  induction p using pattern_induction with
  | nil => rfl
  | lone => rfl
  | escaped c rest ih =>
    rw [escape_escaped, Dialect.pieces_escaped, Dialect.pieces_escaped, ih]
  | plain c rest hc ih =>
    rw [escape_plain hc, Dialect.pieces_plain _ hc]
    by_cases hw : isEngineWildcard c = true
    · -- the engine's wildcards are plain characters in a LIKE pattern
      have hlike : Dialect.like.pieceOf c = .just c := by
        have hpercent : c ≠ '%' := by
          rintro rfl
          exact absurd hw (by decide)
        simp [Dialect.pieceOf, Dialect.like, hpercent]
      rw [if_pos hw, Dialect.pieces_escaped, ih, hlike]
    · have heither : Dialect.either.pieceOf c = Dialect.like.pieceOf c := by
        obtain ⟨hstar, hmark⟩ : c ≠ '*' ∧ c ≠ '?' := by simpa [isEngineWildcard] using hw
        simp [Dialect.pieceOf, Dialect.like, Dialect.either, hstar, hmark]
      rw [if_neg hw, Dialect.pieces_plain _ hc, ih, heither]

/-! ## Stars for percent signs -/

/-- The pass makes a percent sign a star. -/
theorem starring_plain {c : Char} (hc : c ≠ '\\') (rest : List Char) :
    passFrom starring 0 false (c :: rest) =
      (if c = '%' then '*' else c) :: passFrom starring 0 false rest := by
  rw [passFrom_plain starring hc, passFrom_behind starring rfl, starring]
  split <;> rfl

/-- With stars for percent signs the engine reads what was meant by either side. -/
theorem pieces_starring (p : List Char) :
    Dialect.engine.pieces (passFrom starring 0 false p) = Dialect.either.pieces p := by
  induction p using pattern_induction with
  | nil => rfl
  | lone => rfl
  | escaped c rest ih =>
    rw [passFrom_escaped, Dialect.pieces_escaped, Dialect.pieces_escaped, ih]
  | plain c rest hc ih =>
    rw [starring_plain hc, Dialect.pieces_plain _ hc]
    by_cases hpercent : c = '%'
    · subst hpercent
      rw [if_pos rfl, Dialect.pieces_plain _ (by decide), ih]
      rfl
    · have heither : Dialect.engine.pieceOf c = Dialect.either.pieceOf c := by
        simp [Dialect.pieceOf, Dialect.engine, Dialect.either, hpercent]
      rw [if_neg hpercent, Dialect.pieces_plain _ hc, ih, heither]

/-! ## One star for several -/

/-- The pass keeps the first star of a row. -/
theorem collapsing_star (rest : List Char) (behindStar : Bool) :
    passFrom collapsing 0 behindStar ('*' :: rest) =
      if behindStar then passFrom collapsing 0 true rest
      else '*' :: passFrom collapsing 0 true rest := by
  rw [passFrom_plain collapsing (by decide)]
  cases behindStar <;> rfl

/-- The pass keeps every other character. -/
theorem collapsing_plain {c : Char} (hc : c ≠ '\\') (hstar : c ≠ '*') (rest : List Char)
    (behindStar : Bool) :
    passFrom collapsing 0 behindStar (c :: rest) = c :: passFrom collapsing 0 false rest := by
  have hother : (c == '*') = false := beq_false_of_ne hstar
  rw [passFrom_plain collapsing hc, collapsing, hother, Bool.and_false]
  rfl

/-- With one star for several the engine reads one run for several. -/
theorem pieces_collapsing (p : List Char) (behindStar : Bool) :
    Dialect.engine.pieces (passFrom collapsing 0 behindStar p) =
      Piece.merged behindStar (Dialect.engine.pieces p) := by
  induction p using pattern_induction generalizing behindStar with
  | nil => rfl
  | lone => rfl
  | escaped c rest ih =>
    rw [passFrom_escaped, Dialect.pieces_escaped, Dialect.pieces_escaped, ih]
    rfl
  | plain c rest hc ih =>
    rw [Dialect.pieces_plain _ hc]
    by_cases hstar : c = '*'
    · subst hstar
      have hrun : Dialect.engine.pieceOf '*' = .run := rfl
      rw [collapsing_star, hrun, Piece.merged]
      cases behindStar with
      -- the star before has been kept, and the run of this one is merged into it
      | true => exact ih true
      | false =>
        simp only [Bool.false_eq_true, if_false]
        rw [Dialect.pieces_plain _ hc, ih, hrun]
    · have hpiece : Dialect.engine.pieceOf c ≠ .run := by
        by_cases hmark : c = '?' <;> simp [Dialect.pieceOf, Dialect.engine, hstar, hmark]
      rw [collapsing_plain hc hstar, Dialect.pieces_plain _ hc, ih, Piece.merged]
      exact fun h => absurd h hpiece

/-! ## The whole translation -/

/-- The engine reads a translated pattern as the LIKE pattern with its runs merged. -/
theorem pieces_ofLike (p : List Char) :
    Dialect.engine.pieces (ofLike p) = Piece.merged false (Dialect.like.pieces p) := by
  rw [ofLike, pieces_collapsing, pieces_starring, pieces_escape]

example : ofLike ['%', '%', '*', '\\', '%'] = ['*', '\\', '*', '\\', '%'] := by decide

/-- A text matches the translation of a LIKE pattern exactly if it matches the LIKE
pattern. -/
theorem engine_matches_ofLikeText (pattern text : String) :
    Dialect.engine.Matches (ofLikeText pattern) text ↔ Dialect.like.Matches pattern text := by
  have hchars : (ofLikeText pattern).toList = ofLike pattern.toList := String.toList_ofList
  rw [Dialect.Matches, hchars, pieces_ofLike]
  exact (Piece.matches_merged (Dialect.like.pieces pattern.toList)).1 text.toList

end BoardSearch.Wildcard
