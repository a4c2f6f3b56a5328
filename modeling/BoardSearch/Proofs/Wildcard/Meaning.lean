import BoardSearch.Wildcard

/-!
# What wildcard patterns mean

A dialect says which characters of a pattern are wildcards. Reading a pattern in a
dialect turns it into a row of pieces, and a text matches the pattern when it can be
laid out along that row.

## Main definitions

* `Dialect.pieces`: the row of pieces that a pattern stands for in a dialect;
* `Piece.Matches`: a text can be laid out along a row of pieces;
* `Dialect.Matches`: a text matches a pattern;
* `Piece.merged`: a row of pieces in which neighbouring runs are one.

## Main statements

* `Piece.matches_merged`: one run says as much as several in a row;
* `pattern_induction`: a pattern is read two characters at a time behind a backslash.
-/

namespace BoardSearch.Wildcard

/-- What a part of a pattern stands for. -/
inductive Piece where
  /-- Any characters, of any number. -/
  | run
  /-- Any one character. -/
  | one
  /-- The character itself. -/
  | just (c : Char)
deriving DecidableEq

/-- The characters that are wildcards where no backslash takes their meaning away. -/
structure Dialect where
  /-- The character stands for any run of characters. -/
  isRun : Char → Bool
  /-- The character stands for any one character. -/
  isOne : Char → Bool

namespace Dialect

/-- The dialect of the engine. -/
def engine : Dialect := ⟨fun c => c == '*', fun c => c == '?'⟩

/-- The dialect of LIKE patterns. -/
def like : Dialect := ⟨fun c => c == '%', fun _ => false⟩

/-- What a character stands for that no backslash stands in front of. -/
def pieceOf (d : Dialect) (c : Char) : Piece :=
  if d.isRun c then .run else if d.isOne c then .one else .just c

/-- The row of pieces that a pattern stands for. A backslash with nothing behind it is
itself. -/
def pieces (d : Dialect) : List Char → List Piece
  | [] => []
  | ['\\'] => [.just '\\']
  | '\\' :: c :: rest => .just c :: d.pieces rest
  | c :: rest => d.pieceOf c :: d.pieces rest

end Dialect

/-- A text can be laid out along a row of pieces. -/
inductive Piece.Matches : List Piece → List Char → Prop
  | nil : Matches [] []
  | just {ps : List Piece} {t : List Char} (c : Char) (h : Matches ps t) :
    Matches (.just c :: ps) (c :: t)
  | one {ps : List Piece} {t : List Char} (c : Char) (h : Matches ps t) :
    Matches (.one :: ps) (c :: t)
  /-- The run is over. -/
  | stop {ps : List Piece} {t : List Char} (h : Matches ps t) : Matches (.run :: ps) t
  /-- The run goes on. -/
  | more {ps : List Piece} {t : List Char} (c : Char) (h : Matches (.run :: ps) t) :
    Matches (.run :: ps) (c :: t)

/-- A text matches a pattern that is read in a dialect. -/
def Dialect.Matches (d : Dialect) (pattern text : String) : Prop :=
  Piece.Matches (d.pieces pattern.toList) text.toList

/-- A pattern is empty, a backslash alone, a backslash with the character that it
escapes and a pattern behind it, or another character with a pattern behind it. -/
@[elab_as_elim]
theorem pattern_induction {motive : List Char → Prop} (nil : motive [])
    (lone : motive ['\\'])
    (escaped : ∀ c rest, motive rest → motive ('\\' :: c :: rest))
    (plain : ∀ c rest, c ≠ '\\' → motive rest → motive (c :: rest)) :
    ∀ p, motive p
  | [] => nil
  | [c] => by
    by_cases h : c = '\\'
    · rw [h]
      exact lone
    · exact plain c [] h nil
  | c :: d :: rest => by
    by_cases h : c = '\\'
    · rw [h]
      exact escaped d rest (pattern_induction nil lone escaped plain rest)
    · exact plain c (d :: rest) h (pattern_induction nil lone escaped plain (d :: rest))

namespace Dialect

theorem pieces_escaped (d : Dialect) (c : Char) (rest : List Char) :
    d.pieces ('\\' :: c :: rest) = .just c :: d.pieces rest := by
  rw [pieces]

theorem pieces_plain (d : Dialect) {c : Char} (hc : c ≠ '\\') (rest : List Char) :
    d.pieces (c :: rest) = d.pieceOf c :: d.pieces rest := by
  rw [pieces]
  · intro h _
    exact hc h
  · intro _ _ h _
    exact hc h

end Dialect

namespace Piece

/-- A run takes up some characters of the text and leaves the others to what follows. -/
theorem matches_run {ps : List Piece} {t : List Char} :
    Matches (.run :: ps) t ↔ ∃ u v, t = u ++ v ∧ Matches ps v := by
  constructor
  · intro h
    induction t with
    | nil =>
      cases h with
      | stop h => exact ⟨[], [], rfl, h⟩
    | cons c t ih =>
      cases h with
      | stop h => exact ⟨[], c :: t, rfl, h⟩
      | more c h =>
        obtain ⟨u, v, rfl, hv⟩ := ih h
        exact ⟨c :: u, v, rfl, hv⟩
  · rintro ⟨u, v, rfl, hv⟩
    induction u with
    | nil => exact .stop hv
    | cons c u ih => exact .more c ih

/-- A run behind a run adds nothing to it. -/
theorem matches_run_run {ps : List Piece} {t : List Char} :
    Matches (.run :: .run :: ps) t ↔ Matches (.run :: ps) t := by
  constructor
  · intro h
    obtain ⟨u, v, rfl, hv⟩ := matches_run.mp h
    obtain ⟨w, x, rfl, hx⟩ := matches_run.mp hv
    exact matches_run.mpr ⟨u ++ w, x, (List.append_assoc u w x).symm, hx⟩
  · exact fun h => .stop h

/-- A row that matches all that another does still does so behind another piece. -/
theorem matches_cons_mono {ps qs : List Piece} (h : ∀ t, Matches ps t → Matches qs t)
    {p : Piece} {t : List Char} (hm : Matches (p :: ps) t) : Matches (p :: qs) t := by
  cases p with
  | run =>
    obtain ⟨u, v, rfl, hv⟩ := matches_run.mp hm
    exact matches_run.mpr ⟨u, v, rfl, h v hv⟩
  | one =>
    cases hm with
    | one c hm => exact .one c (h _ hm)
  | just c =>
    cases hm with
    | just c hm => exact .just c (h _ hm)

/-- Rows that match the same texts still do so behind another piece. -/
theorem matches_cons_congr {ps qs : List Piece} (h : ∀ t, Matches ps t ↔ Matches qs t)
    (p : Piece) (t : List Char) : Matches (p :: ps) t ↔ Matches (p :: qs) t :=
  ⟨matches_cons_mono fun t => (h t).mp, matches_cons_mono fun t => (h t).mpr⟩

/-- A row of pieces with one run for every row of neighbouring ones. `inRun` holds
directly behind a run. -/
def merged (inRun : Bool) : List Piece → List Piece
  | [] => []
  | .run :: ps => if inRun then merged true ps else .run :: merged true ps
  | p :: ps => p :: merged false ps

/-- Merging runs keeps what a row matches, at its beginning and behind a run. -/
theorem matches_merged (ps : List Piece) :
    (∀ t, Matches (merged false ps) t ↔ Matches ps t) ∧
      ∀ t, Matches (.run :: merged true ps) t ↔ Matches (.run :: ps) t := by
  -- a run sends the first statement to the second, any other piece both to the first
  induction ps with
  | nil => exact ⟨fun _ => Iff.rfl, fun _ => Iff.rfl⟩
  | cons p ps ih =>
    obtain ⟨ihFalse, ihTrue⟩ := ih
    cases p with
    | run =>
      refine ⟨ihTrue, fun t => ?_⟩
      rw [matches_run_run]
      exact ihTrue t
    | one =>
      have h := matches_cons_congr ihFalse .one
      exact ⟨h, matches_cons_congr h .run⟩
    | just c =>
      have h := matches_cons_congr ihFalse (.just c)
      exact ⟨h, matches_cons_congr h .run⟩

end Piece

end BoardSearch.Wildcard
