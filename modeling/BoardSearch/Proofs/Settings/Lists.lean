import BoardSearch.Proofs.Settings.Checking
import BoardSearch.Relation.Range

/-!
# Lists as settings

A service may declare that a setting is a list. It comes as a collection, or as the JSON text of
one in a variable, and each of its items is checked; what is at fault with an item is told under
the number of the item.

## Main definitions

* `Settings.checkItems`: the check of a collection;
* `Settings.Kind.listOf`: lists of what another setting may hold.
-/

namespace BoardSearch.Settings

/-- A collection as a list of what each of its items is to be. -/
def checkItems (item : Shape) (value : Value) : Checked Value :=
  match value.members? with
  | none => .error [⟨[], .other "Input should be a valid list"⟩]
  | some items =>
    (collect (items.zipIdx.map fun entry =>
      (toString entry.2, within (toString entry.2) (item.check entry.1)))).map fun values =>
        .list (values.map (·.2))

variable {item : Shape} {value result : Value} {problems : List Problem}

theorem exists_check_of_mem {checks : List (String × Checked Value)}
    {values : List (String × Value)}
    (h : List.Forall₂ (fun check entry => check.2 = .ok entry.2) checks values)
    {entry : String × Value} (hentry : entry ∈ values) :
    ∃ check ∈ checks, check.2 = .ok entry.2 := by
  induction h with
  | nil => exact absurd hentry List.not_mem_nil
  | cons hfirst _ ih =>
    obtain rfl | hrest := List.mem_cons.mp hentry
    · exact ⟨_, List.mem_cons_self, hfirst⟩
    · obtain ⟨check, hcheck, hok⟩ := ih hrest
      exact ⟨check, List.mem_cons_of_mem _ hcheck, hok⟩

theorem admits_of_checkItems (hfit : item.DefaultsFit) (h : checkItems item value = .ok result) :
    ∃ items, result = .list items ∧ ∀ v ∈ items, item.Admits v := by
  unfold checkItems at h
  cases hmembers : value.members? with
  | none =>
    rw [hmembers] at h
    cases h
  | some items =>
    rw [hmembers] at h
    obtain ⟨values, hvalues, rfl⟩ := map_eq_ok.mp h
    obtain ⟨-, hchecked⟩ := collect_eq_ok.mp hvalues
    refine ⟨_, rfl, List.forall_mem_map.mpr fun entry hentry => ?_⟩
    obtain ⟨check, hcheck, hok⟩ := exists_check_of_mem hchecked hentry
    obtain ⟨given, -, rfl⟩ := List.mem_map.mp hcheck
    exact Shape.admits_of_check hfit (within_eq_ok.mp hok)

theorem ne_nil_of_checkItems (h : checkItems item value = .error problems) : problems ≠ [] := by
  unfold checkItems at h
  cases hmembers : value.members? with
  | none =>
    rw [hmembers] at h
    exact hasReason_problem _ problems h
  | some items =>
    rw [hmembers] at h
    refine (hasReason_collect fun check hcheck => ?_).map _ problems h
    obtain ⟨given, -, rfl⟩ := List.mem_map.mp hcheck
    exact (item.hasReason_check given.1).within _

/-- Different numbers have different texts. -/
theorem toString_injective : Function.Injective (toString : Nat → String) := by
  intro m n h
  have hdigits : Nat.toDigits 10 m = Nat.toDigits 10 n := by
    simpa using congrArg String.toList h
  calc
    m = Nat.ofDigitChars 10 (Nat.toDigits 10 m) 0 := Nat.ofDigitChars_ten_toDigits.symm
    _ = Nat.ofDigitChars 10 (Nat.toDigits 10 n) 0 := by rw [hdigits]
    _ = n := Nat.ofDigitChars_ten_toDigits

theorem nodup_of_checkItems (happart : item.NamesApart)
    (h : checkItems item value = .error problems) : (problems.map (·.location)).Nodup := by
  unfold checkItems at h
  cases hmembers : value.members? with
  | none =>
    rw [hmembers] at h
    obtain rfl := Except.error.inj h
    exact List.nodup_singleton _
  | some items =>
    rw [hmembers] at h
    have hplaces : (locationsOf (collect (items.zipIdx.map fun entry =>
        (toString entry.2, within (toString entry.2) (item.check entry.1))))).Sublist
        (items.zipIdx.flatMap fun entry =>
          (item.locations entry.1).map (toString entry.2 :: ·)) :=
      sublist_locationsOf_collect fun entry _ => item.sublist_locationsOf_check entry.1
    have hnumbers : (items.zipIdx.map fun entry => toString entry.2).Nodup := by
      have hindices : (items.zipIdx.map (·.2)).Nodup := by
        rw [List.zipIdx_map_snd]
        exact List.nodup_range'
      have htexts := hindices.map toString_injective
      rwa [List.map_map] at htexts
    rw [map_eq_error.mp h] at hplaces
    exact hplaces.nodup
      (nodup_places hnumbers fun entry _ => Shape.nodup_locations happart entry.1)

/-- Lists of what another setting may hold. The variable for a list holds a JSON text. -/
def Kind.listOf (item : Shape) (happart : item.NamesApart) (hfit : item.DefaultsFit) : Kind where
  form
    | [] => .document
    | _ :: _ => .plain
  named value := value
  Admits value := ∃ items, value = .list items ∧ ∀ v ∈ items, item.Admits v
  check := checkItems item
  admits_check := admits_of_checkItems hfit
  ne_nil_of_check := ne_nil_of_checkItems
  nodup_of_check := nodup_of_checkItems happart

end BoardSearch.Settings
