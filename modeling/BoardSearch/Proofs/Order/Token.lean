import BoardSearch.Order.Token

/-!
# Splitting order tokens

A token is split into a base and a direction, and the two spell the token again. One
direction is taken off at most: a base may itself end in a direction.

## Main statements

* `OrderToken.text_split`: the parts of a token spell the token;
* `OrderToken.split_directed`: a base with a direction behind it splits into the two;
* `OrderToken.split_rejoins`: what splitting does to every token.
-/

namespace BoardSearch

theorem withoutEnding?_eq_some {ending text base : List Char} :
    withoutEnding? ending text = some base ↔ text = base ++ ending := by
  unfold withoutEnding?
  constructor
  · intro h
    split at h
    · next hsuffix =>
      obtain ⟨front, rfl⟩ := List.isSuffixOf_iff_suffix.mp hsuffix
      simp only [List.length_append, Nat.add_sub_cancel, List.take_left', Option.some.injEq] at h
      rw [h]
    · exact absurd h nofun
  · rintro rfl
    rw [if_pos (List.isSuffixOf_iff_suffix.mpr (List.suffix_append base ending))]
    simp

/-- No text ends in both directions. -/
theorem SortDirection.ending_unique {base base' : List Char} {direction direction' : SortDirection}
    (h : base ++ direction.ending = base' ++ direction'.ending) :
    base = base' ∧ direction = direction' := by
  have hdirection : direction = direction' := by
    have hlast := congrArg (fun text => (text.reverse.take 3).reverse) h
    revert hlast
    cases direction <;> cases direction' <;> simp [ending, text]
  subst hdirection
  exact ⟨List.append_cancel_right h, rfl⟩

namespace OrderToken

theorem withDirection?_eq_some {direction : SortDirection} {text : List Char} {token : OrderToken} :
    withDirection? direction text = some token ↔
      ∃ base, base ≠ [] ∧ text = base ++ direction.ending ∧
        token = ⟨String.ofList base, some direction⟩ := by
  unfold withDirection?
  constructor
  · intro h
    split at h
    · exact absurd h nofun
    · exact absurd h nofun
    · next base hne hbase =>
      exact ⟨base, hne, withoutEnding?_eq_some.mp hbase, (Option.some.inj h).symm⟩
  · rintro ⟨base, hne, htext, rfl⟩
    rw [withoutEnding?_eq_some.mpr htext]
    cases base with
    | nil => exact absurd rfl hne
    | cons c base => rfl

/-- A base with a direction behind it is written as the two in a row. -/
theorem toList_text_directed (base : String) (direction : SortDirection) :
    (text ⟨base, some direction⟩).toList = base.toList ++ direction.ending :=
  String.toList_ofList

/-- A base with a direction behind it splits into the two, even if the base itself ends in
a direction. -/
theorem split_directed {base : String} (h : base ≠ "") (direction : SortDirection) :
    split (text ⟨base, some direction⟩) = ⟨base, some direction⟩ := by
  have hfound : withDirection? direction (text ⟨base, some direction⟩).toList =
      some ⟨base, some direction⟩ := by
    refine withDirection?_eq_some.mpr ⟨base.toList, ?_, toList_text_directed base direction, ?_⟩
    · exact fun hempty => h (String.toList_eq_nil_iff.mp hempty)
    · rw [String.ofList_toList]
  unfold split
  cases direction with
  | asc => rw [hfound]
  | desc =>
    have hother : withDirection? .asc (text ⟨base, some .desc⟩).toList = none := by
      rw [Option.eq_none_iff_forall_ne_some]
      intro token htoken
      obtain ⟨base', _, hbase', _⟩ := withDirection?_eq_some.mp htoken
      rw [toList_text_directed] at hbase'
      exact absurd (SortDirection.ending_unique hbase').2 nofun
    rw [hother, hfound]

/-- The parts of a token spell the token. -/
theorem text_split (token : String) : (split token).text = token := by
  have hdirected : ∀ direction parts, withDirection? direction token.toList = some parts →
      parts.text = token := by
    intro direction parts h
    obtain ⟨base, _, htoken, rfl⟩ := withDirection?_eq_some.mp h
    rw [← String.toList_inj, toList_text_directed, String.toList_ofList, htoken]
  unfold split
  split
  · next parts hparts => exact hdirected .asc parts hparts
  · split
    · next parts hparts => exact hdirected .desc parts hparts
    · rfl

theorem text_directed (base : String) (direction : SortDirection) :
    text ⟨base, some direction⟩ = base ++ "_" ++ direction.text := by
  rw [← String.toList_inj, toList_text_directed]
  simp [SortDirection.ending]

theorem base_ne_empty {direction : SortDirection} {text : List Char} {token : OrderToken}
    (h : withDirection? direction text = some token) : token.base ≠ "" := by
  obtain ⟨base, hbase, _, rfl⟩ := withDirection?_eq_some.mp h
  exact fun hempty => hbase (String.ofList_eq_empty_iff.mp hempty)

/-- A token is split where a direction stands behind a base that is not empty, and there
alone. -/
theorem split_eq_directed_iff {token base : String} {direction : SortDirection} :
    split token = ⟨base, some direction⟩ ↔ base ≠ "" ∧ token = base ++ "_" ++ direction.text := by
  rw [← text_directed]
  constructor
  · intro h
    refine ⟨?_, by rw [← h, text_split]⟩
    unfold split at h
    split at h
    · next parts hparts =>
      subst h
      exact base_ne_empty hparts
    · split at h
      · next parts hparts =>
        subst h
        exact base_ne_empty hparts
      · exact absurd (congrArg OrderToken.direction h) nofun
  · rintro ⟨hbase, rfl⟩
    exact split_directed hbase direction

/-- A token has no direction where it ends in none, and where it is nothing but the ending. -/
theorem direction_split_eq_none_iff {token : String} :
    (split token).direction = none ↔
      (∀ (front : String) (direction : SortDirection), token ≠ front ++ "_" ++ direction.text) ∨
        ∃ direction : SortDirection, token = "" ++ "_" ++ direction.text := by
  constructor
  · intro hnone
    by_cases hends : ∃ (front : String) (direction : SortDirection),
        token = front ++ "_" ++ direction.text
    · obtain ⟨front, direction, htoken⟩ := hends
      by_cases hfront : front = ""
      · exact .inr ⟨direction, hfront ▸ htoken⟩
      · rw [split_eq_directed_iff.mpr ⟨hfront, htoken⟩] at hnone
        exact absurd hnone nofun
    · exact .inl fun front direction htoken => hends ⟨front, direction, htoken⟩
  · intro h
    cases hparts : split token with
    | mk base found =>
      cases found with
      | none => rfl
      | some direction =>
        exfalso
        obtain ⟨hbase, htoken⟩ := split_eq_directed_iff.mp hparts
        obtain hends | ⟨direction', hbare⟩ := h
        · exact hends base direction htoken
        · -- no text ends in both directions, so the base would be empty
          rw [htoken, ← text_directed, ← text_directed, ← String.toList_inj,
            toList_text_directed, toList_text_directed] at hbare
          exact hbase (String.toList_inj.mp (SortDirection.ending_unique hbare).1)

/-- A token and its parts: the base with the direction behind it, if there is one, is the token
again; a base that is not empty and a direction behind it are told apart, even if the base
itself ends in a direction; and there is no direction just where the token ends in none, or is
nothing but the ending. -/
theorem split_rejoins (token : String) :
    (split token).base ++ ((split token).direction.elim "" fun direction => "_" ++ direction.text) =
        token ∧
      (∀ (base : String) (direction : SortDirection), base ≠ "" →
        token = base ++ "_" ++ direction.text → split token = ⟨base, some direction⟩) ∧
      ((split token).direction = none ↔
        (∀ (front : String) (direction : SortDirection),
          token ≠ front ++ "_" ++ direction.text) ∨
          ∃ direction : SortDirection, token = "_" ++ direction.text) := by
  refine ⟨?_, fun base direction hbase htoken => split_eq_directed_iff.mpr ⟨hbase, htoken⟩, ?_⟩
  · have hjoined := text_split token
    cases hparts : split token with
    | mk base found =>
      rw [hparts] at hjoined
      cases found with
      | none => exact (String.append_empty).trans hjoined
      | some direction =>
        rw [text_directed, String.append_assoc] at hjoined
        exact hjoined
  · rw [direction_split_eq_none_iff]
    simp only [String.empty_append]

/-- A base that ends in a direction itself. -/
theorem split_rejoins_stacked :
    "x_desc" ≠ "" ∧ "x_desc_asc" = "x_desc" ++ "_" ++ SortDirection.asc.text ∧
      split "x_desc_asc" = ⟨"x_desc", some .asc⟩ := by
  have hbase : "x_desc" ≠ "" := by decide
  exact ⟨hbase, rfl, (split_rejoins "x_desc_asc").2.1 "x_desc" .asc hbase rfl⟩

end OrderToken

end BoardSearch
