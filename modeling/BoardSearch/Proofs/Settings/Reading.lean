import BoardSearch.Proofs.Outcome
import BoardSearch.Settings.Scalar
import Mathlib.Data.List.DropRight

/-!
# What settings admit

A setting is declared to hold a value of some form. Whatever a value is read as has this
form.

## Main definitions

* `Settings.Scalar.Admits`: the values that a setting is declared to hold.

## Main statements

* `Settings.Scalar.admits_of_read`: what is read is admitted.
-/

namespace BoardSearch.Settings

/-- Nothing is left out at the ends of a text whose ends were left out already. -/
theorem trimmed_trimmed (text : List Char) : trimmed (trimmed text) = trimmed text := by
  have hstrip : ∀ text : List Char,
      trimmed text = (text.dropWhile Text.isMargin).rdropWhile Text.isMargin := fun _ => rfl
  have hfront : (trimmed text).dropWhile Text.isMargin = trimmed text := by
    -- what begins the trimmed text begins the text without its front
    obtain ⟨rest, hrest⟩ := List.rdropWhile_prefix Text.isMargin (text.dropWhile Text.isMargin)
    have hhead := List.head?_dropWhile_not Text.isMargin text
    rw [← hrest, ← hstrip] at hhead
    cases htrimmed : trimmed text with
    | nil => rfl
    | cons c cs =>
      rw [htrimmed] at hhead
      have hc : Text.isMargin c = false := hhead
      rw [List.dropWhile_cons, if_neg (by simp [hc])]
  rw [hstrip (trimmed text), hfront, hstrip text, List.rdropWhile_idempotent]

namespace Scalar

/-- The values that a setting is declared to hold. -/
def Admits : Scalar → Value → Prop
  | integer, value => ∃ n, value = .int n
  | positive, value => ∃ n, 0 < n ∧ value = .int n
  | number, value => ∃ x, value = .float x
  | text stripped, value =>
    ∃ s : String, value = .text s ∧ (stripped = true → trimmed s.toList = s.toList)
  | switch, value => ∃ b, value = .bool b
  | level, value => ∃ level : Log.Level, value = .text level.word

/-- What a value is read as is admitted. -/
theorem admits_of_read {scalar : Scalar} {value result : Value}
    (h : scalar.read value = .ok result) : scalar.Admits result := by
  cases scalar with
  | integer =>
    obtain ⟨n, _, rfl⟩ := map_eq_ok.mp h
    exact ⟨n, rfl⟩
  | positive =>
    obtain ⟨n, _, h⟩ := bind_eq_ok.mp h
    split at h
    · rename_i hpositive
      exact ⟨n, hpositive, (Except.ok.inj h).symm⟩
    · cases h
  | number =>
    obtain ⟨x, _, rfl⟩ := map_eq_ok.mp h
    exact ⟨x, rfl⟩
  | text stripped =>
    obtain ⟨s, hs, rfl⟩ := map_eq_ok.mp h
    refine ⟨s, rfl, ?_⟩
    rintro rfl
    unfold readText at hs
    split at hs
    · obtain rfl := Except.ok.inj hs
      simp [trimmed_trimmed]
    · cases hs
    · cases hs
  | switch =>
    obtain ⟨b, _, rfl⟩ := map_eq_ok.mp h
    exact ⟨b, rfl⟩
  | level =>
    obtain ⟨level, _, rfl⟩ := map_eq_ok.mp h
    exact ⟨level, rfl⟩

end Scalar

end BoardSearch.Settings
