import BoardSearch.Proofs.Request.Temporal
import Mathlib.Data.List.Forall2

/-!
# Changes under names

The bounds of a condition and the metatags of a search are changed under some names, one name
after another. The names are different, so each value is changed by itself, and the entries keep
their order.

## Main definitions

* `changeAt`, `Changed`: entries changed under a name, and what becomes of each entry;
* `ChangesWith`: a step on the entries of a record that changes the value under a name.

## Main statements

* `foldlM_changeAt`: entries that are changed under several names are changed one by one;
* `ChangesWith.cases`: the same for the entries of a record, which stay as they are when they are
  changed again.
-/

namespace BoardSearch

namespace Keyed

variable {κ α : Type} [BEq κ] [LawfulBEq κ]

/-- An entry that is put in its own place leaves everything as it is. -/
theorem put_of_find? {key : κ} {a : α} {entries : List (κ × α)} (h : find? key entries = some a) :
    put key a entries = entries := by
  induction entries with
  | nil => exact absurd h nofun
  | cons entry rest ih =>
    by_cases hkey : entry.1 = key
    · subst hkey
      simp only [find?, BEq.rfl, if_true, Option.some.injEq] at h
      simp [put, ← h]
    · simp only [find?, beq_eq_false_iff_ne.mpr hkey, Bool.false_eq_true, if_false] at h
      simp [put, hkey, ih h]

end Keyed

/-- The entries of a record. -/
def Value.entriesOf (named : List (String × Value)) : List (Value × Value) :=
  named.map fun entry => (.text entry.1, entry.2)

/-! ## Changes under names -/

/-- The entries with the value under a name changed, if there is one. -/
def changeAt (change : Value → Except Failure Value) (named : List (String × Value))
    (name : String) : Except Failure (List (String × Value)) :=
  match Keyed.find? name named with
  | some value => (change value).map fun value' => Keyed.put name value' named
  | none => .ok named

/-- What becomes of an entry where the values under some names are changed. -/
def Changed (change : Value → Except Failure Value) (names : List String)
    (entry entry' : String × Value) : Prop :=
  entry'.1 = entry.1 ∧
    if entry.1 ∈ names then change entry.2 = .ok entry'.2 else entry'.2 = entry.2

section

variable {change : Value → Except Failure Value} {named named' : List (String × Value)}
  {name : String} {names : List String}

theorem Changed.trans {first second third : String × Value} (hnew : name ∉ names)
    (h : Changed change [name] first second) (h' : Changed change names second third) :
    Changed change (name :: names) first third := by
  obtain ⟨hkey, hvalue⟩ := h
  obtain ⟨hkey', hvalue'⟩ := h'
  refine ⟨hkey'.trans hkey, ?_⟩
  rw [hkey] at hvalue'
  by_cases hname : first.1 = name
  · rw [if_pos (List.mem_singleton.mpr hname)] at hvalue
    rw [if_neg (hname ▸ hnew)] at hvalue'
    rw [if_pos (hname ▸ List.mem_cons_self), hvalue, hvalue']
  · rw [if_neg (fun hmem => hname (List.mem_singleton.mp hmem))] at hvalue
    simp only [List.mem_cons, hname, false_or, ← hvalue]
    exact hvalue'

theorem forall₂_changed_trans (hnew : name ∉ names) {first second third : List (String × Value)}
    (h : List.Forall₂ (Changed change [name]) first second)
    (h' : List.Forall₂ (Changed change names) second third) :
    List.Forall₂ (Changed change (name :: names)) first third := by
  induction h generalizing third with
  | nil =>
    cases h'
    exact .nil
  | cons hhead _ ih =>
    cases h' with
    | cons hhead' htail' => exact .cons (hhead.trans hnew hhead') (ih htail')

/-- Entries under other names stay. -/
theorem forall₂_changed_self (h : ∀ entry ∈ named, entry.1 ∉ names) :
    List.Forall₂ (Changed change names) named named := by
  refine List.forall₂_same.mpr fun entry hentry => ⟨rfl, ?_⟩
  rw [if_neg (h entry hentry)]

/-- The value under a name is changed, and it is the only one. -/
theorem forall₂_changed_put {value value' : Value} (hnodup : (named.map (·.1)).Nodup)
    (hfound : Keyed.find? name named = some value) (hchange : change value = .ok value') :
    List.Forall₂ (Changed change [name]) named (Keyed.put name value' named) := by
  induction named with
  | nil => exact absurd hfound nofun
  | cons entry rest ih =>
    obtain ⟨hnew, hrest⟩ := List.nodup_cons.mp hnodup
    by_cases hname : entry.1 = name
    · subst hname
      simp only [Keyed.find?, BEq.rfl, if_true, Option.some.injEq] at hfound
      simp only [Keyed.put, BEq.rfl, if_true]
      refine .cons ⟨rfl, ?_⟩ (forall₂_changed_self fun other hother hmem => ?_)
      · rw [if_pos (List.mem_singleton_self _), hfound, hchange]
      · obtain heq := List.mem_singleton.mp hmem
        exact hnew (List.mem_map.mpr ⟨other, hother, heq⟩)
    · have hdifferent : (entry.1 == name) = false := beq_eq_false_iff_ne.mpr hname
      simp only [Keyed.find?, hdifferent, Bool.false_eq_true, if_false] at hfound
      simp only [Keyed.put, hdifferent, Bool.false_eq_true, if_false]
      refine .cons ⟨rfl, ?_⟩ (ih hrest hfound)
      rw [if_neg fun hmem => hname (List.mem_singleton.mp hmem)]

theorem map_fst_of_changed (h : List.Forall₂ (Changed change names) named named') :
    named'.map (·.1) = named.map (·.1) := by
  induction h with
  | nil => rfl
  | cons hhead _ ih => rw [List.map_cons, List.map_cons, hhead.1, ih]

/-- A change under one name leaves the entries under other names as they are, or it fails. -/
theorem changeAt_cases (change : Value → Except Failure Value)
    (hnodup : (named.map (·.1)).Nodup) (name : String) :
    (∃ first, changeAt change named name = .ok first ∧
      List.Forall₂ (Changed change [name]) named first ∧
      ∀ entry ∈ first, entry.1 ≠ name → entry ∈ named) ∨
    ∃ failure value, changeAt change named name = .error failure ∧
      (name, value) ∈ named ∧ change value = .error failure := by
  unfold changeAt
  cases hfound : Keyed.find? name named with
  | none =>
    refine .inl ⟨named, rfl, forall₂_changed_self ?_, fun _ hentry _ => hentry⟩
    intro entry hentry hmem
    refine Keyed.find?_eq_none.mp hfound (List.mem_map.mpr ⟨entry, hentry, ?_⟩)
    exact List.mem_singleton.mp hmem
  | some value =>
    dsimp only
    cases hchange : change value with
    | error failure => exact .inr ⟨failure, value, rfl, Keyed.mem_of_find? hfound, hchange⟩
    | ok value' =>
      refine .inl ⟨_, rfl, forall₂_changed_put hnodup hfound hchange, ?_⟩
      intro entry hentry hne
      refine (Keyed.mem_of_mem_put hentry).resolve_left ?_
      rintro rfl
      exact hne rfl

/-- Entries are changed under several names one by one, or one of the changes fails. -/
theorem foldlM_changeAt (change : Value → Except Failure Value)
    (hnodup : (named.map (·.1)).Nodup) (hnames : names.Nodup) :
    (∃ named', names.foldlM (changeAt change) named = .ok named' ∧
      List.Forall₂ (Changed change names) named named') ∨
    ∃ failure, names.foldlM (changeAt change) named = .error failure ∧
      ∃ entry ∈ named, entry.1 ∈ names ∧ change entry.2 = .error failure := by
  induction names generalizing named with
  | nil => exact .inl ⟨named, rfl, forall₂_changed_self fun _ _ => List.not_mem_nil⟩
  | cons name rest ih =>
    obtain ⟨hnew, hrest⟩ := List.nodup_cons.mp hnames
    rw [List.foldlM_cons]
    obtain ⟨first, hstep, hchanged, hmem⟩ | ⟨failure, value, hstep, hentry, hfails⟩ :=
      changeAt_cases change hnodup name
    · have hfirst : (first.map (·.1)).Nodup := map_fst_of_changed hchanged ▸ hnodup
      rw [hstep]
      obtain ⟨named', hfold, hchanged'⟩ | ⟨failure, hfold, entry, hentry, hname, hfails⟩ :=
        ih hfirst hrest
      · exact .inl ⟨named', hfold, forall₂_changed_trans hnew hchanged hchanged'⟩
      · -- it fails on an entry from before: the changed one has another name
        have hne : entry.1 ≠ name := by
          rintro rfl
          exact hnew hname
        exact .inr ⟨failure, hfold, entry, hmem entry hentry hne, List.mem_cons_of_mem name hname,
          hfails⟩
    · rw [hstep]
      exact .inr ⟨failure, rfl, (name, value), hentry, List.mem_cons_self, hfails⟩

/-- Where a change is made once, it changes nothing more. -/
theorem forall_mem_of_changed {P : Value → Prop}
    (h : List.Forall₂ (fun entry entry' => P entry.2 ∧ Changed change names entry entry')
      named named')
    (hagain : ∀ value value', P value → change value = .ok value' → change value' = .ok value') :
    ∀ entry ∈ named', entry.1 ∈ names → change entry.2 = .ok entry.2 := by
  induction h with
  | nil => exact List.forall_mem_nil _
  | @cons entry entry' _ _ hhead _ ih =>
    obtain ⟨hvalue, hkey, hchange⟩ := hhead
    refine List.forall_mem_cons.mpr ⟨fun hname => ?_, ih⟩
    rw [hkey] at hname
    rw [if_pos hname] at hchange
    exact hagain entry.2 entry'.2 hvalue hchange

/-- Values that a change leaves as they are leave the entries as they are. -/
theorem foldlM_changeAt_self (hself : ∀ entry ∈ named, entry.1 ∈ names →
    change entry.2 = .ok entry.2) : names.foldlM (changeAt change) named = .ok named := by
  induction names with
  | nil => rfl
  | cons name rest ih =>
    have hstep : changeAt change named name = .ok named := by
      rw [changeAt]
      cases hfound : Keyed.find? name named with
      | none => rfl
      | some value =>
        have hvalue := hself _ (Keyed.mem_of_find? hfound) List.mem_cons_self
        dsimp only at hvalue ⊢
        rw [hvalue, Except.map, Keyed.put_of_find? hfound]
    rw [List.foldlM_cons, hstep]
    exact ih fun entry hentry hname => hself entry hentry (List.mem_cons_of_mem name hname)

end

/-! ## Changes of entries -/

section

variable {change : Value → Except Failure Value} {P : Value → Prop} {names : List String}
  {step : List (Value × Value) → String → Except Failure (List (Value × Value))}
  {entries : List (Value × Value)} {related : Value × Value → Value × Value → Prop}

/-- A step on the entries of a record is a change of the value under a name. -/
def ChangesWith (step : List (Value × Value) → String → Except Failure (List (Value × Value)))
    (change : Value → Except Failure Value) : Prop :=
  ∀ named name, step (Value.entriesOf named) name = (changeAt change named name).map Value.entriesOf

theorem ChangesWith.foldlM (h : ChangesWith step change) (names : List String)
    (named : List (String × Value)) : names.foldlM step (Value.entriesOf named) =
      (names.foldlM (changeAt change) named).map Value.entriesOf := by
  induction names generalizing named with
  | nil => rfl
  | cons name rest ih =>
    rw [List.foldlM_cons, List.foldlM_cons, h named name]
    cases changeAt change named name with
    | error failure => rfl
    | ok named' => exact ih named'

/-- Entries are changed one by one and stay as they are when they are changed again, or one of
the changes fails. -/
theorem ChangesWith.cases (h : ChangesWith step change) (hnames : names.Nodup)
    (hentries : Value.AreNamed P entries)
    (hrelated : ∀ entry entry', P entry.2 → Changed change names entry entry' →
      related (.text entry.1, entry.2) (.text entry'.1, entry'.2))
    (hagain : ∀ value value', P value → change value = .ok value' → change value' = .ok value') :
    (∃ entries', names.foldlM step entries = .ok entries' ∧
      List.Forall₂ related entries entries' ∧ names.foldlM step entries' = .ok entries') ∨
    ∃ failure, names.foldlM step entries = .error failure ∧
      ∃ name ∈ names, ∃ value, (.text name, value) ∈ entries ∧ P value ∧
        change value = .error failure := by
  obtain ⟨named, heq, hnodup, hvalues⟩ := hentries
  obtain rfl : entries = Value.entriesOf named := Value.mapping.inj heq
  rw [h.foldlM]
  obtain ⟨named', hfold, hchanged⟩ | ⟨failure, hfold, entry, hentry, hname, hfails⟩ :=
    foldlM_changeAt change hnodup hnames
  · have hboth := (List.forall₂_and_left named named').mpr ⟨hvalues, hchanged⟩
    refine .inl ⟨Value.entriesOf named', by rw [hfold]; rfl, ?_, ?_⟩
    · refine List.forall₂_map_left_iff.mpr (List.forall₂_map_right_iff.mpr (hboth.imp ?_))
      rintro entry entry' ⟨hvalue, hentry⟩
      exact hrelated entry entry' hvalue hentry
    · rw [h.foldlM, foldlM_changeAt_self (forall_mem_of_changed hboth hagain)]
      rfl
  · refine .inr ⟨failure, by rw [hfold]; rfl, entry.1, hname, entry.2, ?_, hvalues entry hentry,
      hfails⟩
    exact List.mem_map.mpr ⟨entry, hentry, rfl⟩

end

end BoardSearch
