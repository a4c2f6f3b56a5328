import BoardSearch.Proofs.Wildcard.Translation
import Mathlib.Data.List.Destutter

/-!
# Live characters of patterns

A scan from left to right tells which characters of a pattern are live: a backslash that
is live itself takes the meaning of the next character away. Each pass of the
translation is a simple change of the marked characters: the first two change one mark
at a time, the last one drops a mark because of the one in front of it.

## Main definitions

* `Mark`: a character, live or not;
* `marks`: the marked characters of a pattern;
* `Mark.escaped`, `Mark.starred`, `Mark.Apart`: what the passes do to marks;
* `Mark.translated`: what the first two passes do to a mark.

## Main statements

* `marks_injective`: a pattern is known by its marks;
* `marks_escape`, `marks_starring`, `marks_collapsing`: the marks after each pass;
* `marks_ofLike`: the marks after the translation.
-/

namespace BoardSearch.Wildcard

/-- A character of a pattern. It is live unless a backslash takes its meaning away. -/
structure Mark where
  char : Char
  live : Bool
deriving DecidableEq

/-- The marked characters of a pattern. `escaped` holds directly behind a live
backslash. -/
def marksFrom (escaped : Bool) : List Char → List Mark
  | [] => []
  | c :: rest => ⟨c, !escaped⟩ :: marksFrom (!escaped && c == '\\') rest

/-- The characters of a pattern, each with whether it is live. -/
def marks (pattern : List Char) : List Mark := marksFrom false pattern

namespace Mark

/-- A live star. -/
def star : Mark := ⟨'*', true⟩

/-- A live question mark. -/
def question : Mark := ⟨'?', true⟩

/-- A live percent sign. -/
def percent : Mark := ⟨'%', true⟩

/-- The mark is a wildcard of the engine, and live. -/
def isWildcard (m : Mark) : Bool := m.live && isEngineWildcard m.char

/-- A live wildcard of the engine loses its meaning to a backslash. -/
def escaped (m : Mark) : List Mark :=
  if m.isWildcard then [⟨'\\', true⟩, ⟨m.char, false⟩] else [m]

/-- A live percent sign becomes a live star. -/
def starred (m : Mark) : Mark := if m = percent then star else m

/-- What the first two passes make of a mark. -/
def translated (m : Mark) : List Mark := m.escaped.map starred

/-- Two neighbours are not both live stars. -/
def Apart (m n : Mark) : Prop := ¬(m = star ∧ n = star)

instance : DecidableRel Apart := fun _ _ => inferInstanceAs (Decidable (¬_))

theorem isWildcard_iff (m : Mark) : m.isWildcard = true ↔ m = star ∨ m = question := by
  obtain ⟨c, live⟩ := m
  simp only [isWildcard, isEngineWildcard, star, question, mk.injEq, Bool.and_eq_true,
    Bool.or_eq_true, beq_iff_eq]
  rw [← or_and_right, and_comm]

/-- A mark that is no live wildcard is left alone by escaping. -/
theorem escaped_of_not_isWildcard {m : Mark} (h : m.isWildcard = false) : m.escaped = [m] := by
  rw [escaped, h]
  rfl

end Mark

/-! ## The scan -/

theorem map_char_marksFrom (escaped : Bool) (p : List Char) :
    (marksFrom escaped p).map Mark.char = p := by
  induction p generalizing escaped with
  | nil => rfl
  | cons c rest ih => rw [marksFrom, List.map_cons, ih]

/-- A pattern is known by its marks. -/
theorem marks_injective {p q : List Char} (h : marks p = marks q) : p = q := by
  have hp : (marks p).map Mark.char = p := map_char_marksFrom false p
  have hq : (marks q).map Mark.char = q := map_char_marksFrom false q
  rw [← hp, h, hq]

/-- What follows a live backslash and another character is scanned anew. -/
theorem marks_escaped (c : Char) (p : List Char) :
    marks ('\\' :: c :: p) = ⟨'\\', true⟩ :: ⟨c, false⟩ :: marks p := rfl

/-- So is what follows a live character that is no backslash. -/
theorem marks_plain {c : Char} (hc : c ≠ '\\') (p : List Char) :
    marks (c :: p) = ⟨c, true⟩ :: marks p := by
  have hkeeps : (!false && c == '\\') = false := by simp [hc]
  rw [marks, marksFrom, hkeeps]
  rfl

/-! ## The passes -/

/-- Escaping puts a live backslash in front of every live wildcard of the engine. -/
theorem marks_escape (p : List Char) : marks (escape p) = (marks p).flatMap Mark.escaped := by
  induction p using pattern_induction with
  | nil => rfl
  | lone => rfl
  | escaped c rest ih =>
    have hkept : Mark.escaped ⟨c, false⟩ = [⟨c, false⟩] := Mark.escaped_of_not_isWildcard rfl
    rw [escape_escaped, marks_escaped, marks_escaped, List.flatMap_cons, List.flatMap_cons, ← ih,
      hkept]
    rfl
  | plain c rest hc ih =>
    rw [escape_plain hc, marks_plain hc, List.flatMap_cons, ← ih]
    cases hw : isEngineWildcard c with
    | true =>
      have hescaped : Mark.escaped ⟨c, true⟩ = [⟨'\\', true⟩, ⟨c, false⟩] := if_pos hw
      rw [if_pos rfl, marks_escaped, hescaped]
      rfl
    | false =>
      have hkept : Mark.escaped ⟨c, true⟩ = [⟨c, true⟩] := Mark.escaped_of_not_isWildcard hw
      rw [if_neg Bool.false_ne_true, marks_plain hc, hkept]
      rfl

/-- The second pass makes every live percent sign a live star. -/
theorem marks_starring (p : List Char) : marks (passFrom starring 0 false p) = (marks p).map Mark.starred := by
  induction p using pattern_induction with
  | nil => rfl
  | lone => rfl
  | escaped c rest ih =>
    have hkept : Mark.starred ⟨c, false⟩ = ⟨c, false⟩ := if_neg (by simp [Mark.percent])
    rw [passFrom_escaped, marks_escaped, marks_escaped, List.map_cons, List.map_cons, ← ih, hkept]
    rfl
  | plain c rest hc ih =>
    rw [starring_plain hc, marks_plain hc, List.map_cons, ← ih]
    by_cases hpercent : c = '%'
    · subst hpercent
      rw [if_pos rfl, marks_plain (by decide)]
      rfl
    · have hkept : Mark.starred ⟨c, true⟩ = ⟨c, true⟩ := if_neg (by simp [Mark.percent, hpercent])
      rw [if_neg hpercent, marks_plain hc, hkept]

/-- Nothing is dropped directly behind a mark that is no live star. -/
theorem destutter_cons_of_ne_star {m : Mark} (hm : m ≠ .star) (ms : List Mark) :
    (m :: ms).destutter Mark.Apart = m :: ms.destutter Mark.Apart := by
  cases ms with
  | nil => rfl
  | cons n ms =>
    have hapart : Mark.Apart m n := fun h => hm h.1
    exact List.destutter'_cons_pos ms hapart

/-- A mark that is no live star is kept behind one. -/
theorem destutter'_star_of_ne_star {m : Mark} (hm : m ≠ .star) (ms : List Mark) :
    (m :: ms).destutter' Mark.Apart .star = .star :: m :: ms.destutter Mark.Apart := by
  have hapart : Mark.Apart .star m := fun h => hm h.2
  rw [List.destutter'_cons_pos ms hapart, ← List.destutter_cons', destutter_cons_of_ne_star hm]

/-- The last pass drops every live star that stands behind another, from the beginning of a
pattern on and directly behind a live star. -/
theorem marks_collapsing (p : List Char) :
    marks (passFrom collapsing 0 false p) = (marks p).destutter Mark.Apart ∧
      Mark.star :: marks (passFrom collapsing 0 true p) = (marks p).destutter' Mark.Apart .star := by
  induction p using pattern_induction with
  | nil => exact ⟨rfl, rfl⟩
  | lone => exact ⟨rfl, rfl⟩
  | escaped c rest ih =>
    have hbackslash : (⟨'\\', true⟩ : Mark) ≠ .star := by decide
    have hescaped : (⟨c, false⟩ : Mark) ≠ .star := by simp [Mark.star]
    have hkept : (⟨c, false⟩ :: marks rest).destutter Mark.Apart =
        ⟨c, false⟩ :: marks (passFrom collapsing 0 false rest) := by
      rw [destutter_cons_of_ne_star hescaped, ih.1]
    rw [passFrom_escaped, passFrom_escaped, marks_escaped, marks_escaped, ← hkept]
    constructor
    · rw [destutter_cons_of_ne_star hbackslash]
    · rw [destutter'_star_of_ne_star hbackslash]
  | plain c rest hc ih =>
    rw [marks_plain hc]
    by_cases hstar : c = '*'
    · subst hstar
      -- the first star of a row is kept, the next one is dropped
      have hdropped : ¬Mark.Apart .star .star := fun h => h ⟨rfl, rfl⟩
      rw [collapsing_star, collapsing_star, if_neg Bool.false_ne_true, if_pos rfl]
      constructor
      · rw [marks_plain hc, List.destutter_cons']
        exact ih.2
      · have hbehind : (⟨'*', true⟩ :: marks rest).destutter' Mark.Apart .star =
            (marks rest).destutter' Mark.Apart .star := List.destutter'_cons_neg _ hdropped
        rw [hbehind]
        exact ih.2
    · have hother : (⟨c, true⟩ : Mark) ≠ .star := by simp [Mark.star, hstar]
      rw [collapsing_plain hc hstar, collapsing_plain hc hstar, marks_plain hc, ih.1]
      constructor
      · rw [destutter_cons_of_ne_star hother]
      · rw [destutter'_star_of_ne_star hother]

/-- The marks of a translated pattern. -/
theorem marks_ofLike (p : List Char) :
    marks (ofLike p) = ((marks p).flatMap Mark.translated).destutter Mark.Apart := by
  rw [ofLike, (marks_collapsing _).1, marks_starring, marks_escape, List.map_flatMap]
  rfl

end BoardSearch.Wildcard
