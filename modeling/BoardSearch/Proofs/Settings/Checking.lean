import BoardSearch.Proofs.Settings.Reading
import BoardSearch.Settings.Checking
import Mathlib.Data.List.Flatten
import Mathlib.Data.List.Forall2
import Mathlib.Data.List.Nodup

/-!
# What is at fault in settings

The check of what a setting holds finds all that is at fault in it, each place once, in the
order of the declarations. Where nothing is at fault, the value is of the declared form.

## Main definitions

* `Settings.Shape.Fails`: what is at fault in a value;
* `Settings.Shape.locations`: all the places of what a setting holds;
* `Settings.Shape.Admits`: the values that a setting is declared to hold.

## Main statements

* `Settings.Shape.induction`: induction over groups within groups;
* `Settings.collect_eq_ok`: named values are there if each of them is;
* `Settings.Shape.mem_problemsOf_check`: the problems that are found are those that there are;
* `Settings.Shape.sublist_locationsOf_check`, `Settings.Shape.nodup_locations`: they are found
  in the order of the places, and no place comes twice;
* `Settings.Shape.admits_of_check`: a value that was checked is admitted.
-/

namespace BoardSearch.Settings

variable {α β : Type}

/-- What holds of single values and of other kinds, and of a group if it holds of what its members
hold, holds of whatever a setting holds. -/
@[elab_as_elim, induction_eliminator]
theorem Shape.induction {motive : Shape → Prop} (single : ∀ scalar, motive (.single scalar))
    (group : ∀ kind members, (∀ member ∈ members, motive member.shape) →
      motive (.group kind members)) (other : ∀ kind, motive (.other kind)) (shape : Shape) :
    motive shape :=
  @Shape.rec motive (fun member => motive member.shape)
    (fun members => ∀ member ∈ members, motive member.shape) single group other
    (fun _ _ _ hshape => hshape) (fun _ h => absurd h List.not_mem_nil)
    (fun _ _ hfirst hrest => List.forall_mem_cons.mpr ⟨hfirst, hrest⟩) shape

/-! ## Problems of what was checked -/

/-- The problems with what was checked. -/
def problemsOf : Checked α → List Problem
  | .ok _ => []
  | .error problems => problems

/-- The places of the problems. -/
def locationsOf (checked : Checked α) : List (List String) :=
  (problemsOf checked).map (·.location)

@[simp]
theorem problemsOf_ok (value : α) : problemsOf (.ok value) = [] := rfl

@[simp]
theorem problemsOf_error (problems : List Problem) :
    problemsOf (.error problems : Checked α) = problems := rfl

@[simp]
theorem problemsOf_map (f : α → β) (checked : Checked α) :
    problemsOf (checked.map f) = problemsOf checked := by
  cases checked <;> rfl

@[simp]
theorem problemsOf_within (name : String) (checked : Checked α) :
    problemsOf (within name checked) =
      (problemsOf checked).map fun problem => ⟨name :: problem.location, problem.refusal⟩ := by
  cases checked <;> rfl

theorem within_eq_ok {name : String} {checked : Checked α} {value : α} :
    within name checked = .ok value ↔ checked = .ok value :=
  mapError_eq_ok

/-- Whatever failed has a problem. -/
def HasReason (checked : Checked α) : Prop :=
  ∀ problems, checked = .error problems → problems ≠ []

theorem hasReason_ok (value : α) : HasReason (.ok value) := fun _ h => absurd h nofun

theorem hasReason_problem (problem : Problem) :
    HasReason (.error [problem] : Checked α) := by
  intro problems h
  obtain rfl := Except.error.inj h
  exact List.cons_ne_nil _ _

theorem HasReason.map {checked : Checked α} (h : HasReason checked) (f : α → β) :
    HasReason (checked.map f) :=
  fun problems hfails => h problems (map_eq_error.mp hfails)

theorem HasReason.within {checked : Checked α} (h : HasReason checked) (name : String) :
    HasReason (within name checked) := by
  intro problems hfails
  cases checked with
  | ok value => cases hfails
  | error reasons =>
    obtain rfl := Except.error.inj hfails
    simpa using h reasons rfl

/-! ## Named values -/

theorem problemsOf_collect (checks : List (String × Checked Value)) :
    problemsOf (collect checks) = checks.flatMap fun check => problemsOf check.2 := by
  induction checks with
  | nil => rfl
  | cons check rest ih =>
    obtain ⟨name, checked⟩ := check
    rw [List.flatMap_cons, ← ih]
    cases checked with
    | ok value => simp [collect]
    | error problems =>
      cases hrest : collect rest <;> simp [collect, hrest]

theorem collect_eq_ok {checks : List (String × Checked Value)} {values : List (String × Value)} :
    collect checks = .ok values ↔ values.map (·.1) = checks.map (·.1) ∧
      List.Forall₂ (fun check entry => check.2 = .ok entry.2) checks values := by
  induction checks generalizing values with
  | nil =>
    constructor
    · intro h
      obtain rfl := Except.ok.inj h
      exact ⟨rfl, .nil⟩
    · rintro ⟨_, hvalues⟩
      cases hvalues
      rfl
  | cons check rest ih =>
    obtain ⟨name, checked⟩ := check
    rw [List.forall₂_cons_left_iff]
    cases checked with
    | ok value =>
      rw [collect, map_eq_ok]
      constructor
      · rintro ⟨values, hvalues, rfl⟩
        obtain ⟨hnames, hvalues⟩ := ih.mp hvalues
        exact ⟨by simp [hnames], (name, value), values, rfl, hvalues, rfl⟩
      · rintro ⟨hnames, ⟨name', _⟩, values, hvalue, hvalues, rfl⟩
        obtain rfl := Except.ok.inj hvalue
        obtain ⟨rfl, htail⟩ := List.cons.inj hnames
        exact ⟨values, ih.mpr ⟨htail, hvalues⟩, rfl⟩
    | error problems =>
      constructor
      · intro h
        cases hrest : collect rest <;> simp [collect, hrest] at h
      · rintro ⟨_, _, _, h, _⟩
        cases h

theorem hasReason_collect {checks : List (String × Checked Value)}
    (h : ∀ check ∈ checks, HasReason check.2) : HasReason (collect checks) := by
  induction checks with
  | nil => exact hasReason_ok []
  | cons check rest ih =>
    obtain ⟨name, checked⟩ := check
    obtain ⟨hfirst, hrest⟩ := List.forall_mem_cons.mp h
    cases checked with
    | ok value => exact (ih hrest).map _
    | error problems =>
      intro all hall
      have hne := hfirst problems rfl
      cases hcollect : collect rest with
      | ok values =>
        rw [collect, hcollect] at hall
        exact Except.error.inj hall ▸ hne
      | error more =>
        rw [collect, hcollect] at hall
        obtain rfl := Except.error.inj hall
        simp [hne]

/-! ## A value or its default -/

section Settling

variable {found default : Option Value} {check checkDefault : Value → Checked Value}

theorem mem_problemsOf_settle {problem : Problem} :
    problem ∈ problemsOf (settle found default check checkDefault) ↔
      (found = none ∧ default = none ∧ problem = ⟨[], .missing⟩) ∨
      (∃ value, found = some value ∧ problem ∈ problemsOf (check value)) ∨
      (found = none ∧ ∃ value, default = some value ∧
        problem ∈ problemsOf (checkDefault value)) := by
  cases found <;> cases default <;> simp [settle]

theorem settle_eq_ok {value : Value} :
    settle found default check checkDefault = .ok value ↔
      (∃ given, found = some given ∧ check given = .ok value) ∨
      (found = none ∧ ∃ given, default = some given ∧ checkDefault given = .ok value) := by
  cases found <;> cases default <;> simp [settle]

/-- The places of a value that was found, or else of a default. What is missing is missing as a
whole. -/
def settledPlaces (found default : Option Value) (places : Value → List (List String)) :
    List (List String) :=
  ((found.or default).map places).getD [[]]

theorem sublist_locationsOf_settle {places : Value → List (List String)}
    (hcheck : ∀ value, (locationsOf (check value)).Sublist (places value))
    (hdefault : ∀ value, (locationsOf (checkDefault value)).Sublist (places value)) :
    (locationsOf (settle found default check checkDefault)).Sublist
      (settledPlaces found default places) := by
  cases found with
  | some value => exact hcheck value
  | none =>
    cases default with
    | some value => exact hdefault value
    | none => exact List.Sublist.refl _

theorem nodup_settledPlaces {places : Value → List (List String)}
    (h : ∀ value, (places value).Nodup) : (settledPlaces found default places).Nodup := by
  unfold settledPlaces
  cases found.or default with
  | some value => exact h value
  | none => exact List.nodup_singleton _

theorem hasReason_settle (hcheck : ∀ value, HasReason (check value))
    (hdefault : ∀ value, HasReason (checkDefault value)) :
    HasReason (settle found default check checkDefault) := by
  cases found with
  | some value => exact hcheck value
  | none =>
    cases default with
    | some value => exact hdefault value
    | none => exact hasReason_problem _

end Settling

/-! ## What a setting holds -/

theorem memberChecks_eq (members : List Member) (entries : Entries) :
    memberChecks members entries = members.map fun member =>
      (member.name, within member.name
        (settle (Value.find? member.name entries) member.default member.shape.check .ok)) := by
  induction members with
  | nil => rfl
  | cons member rest ih =>
    cases member
    rw [memberChecks, ih]
    rfl

/-- What is at fault in a value for a setting. -/
inductive Shape.Fails : Shape → Value → Problem → Prop
  /-- A single value is refused. -/
  | refused {scalar : Scalar} {value : Value} {refusal : Refusal} :
    scalar.read value = .error refusal → Fails (.single scalar) value ⟨[], refusal⟩
  /-- The value for a group is no mapping. -/
  | noGroup {kind : String} {members : List Member} {value : Value} :
    (∀ entries, value ≠ .mapping entries) → Fails (.group kind members) value ⟨[], .noGroup kind⟩
  /-- A member without a default is not there. -/
  | missing {kind : String} {members : List Member} {entries : Entries} {member : Member} :
    member ∈ members → Value.find? member.name entries = none → member.default = none →
      Fails (.group kind members) (.mapping entries) ⟨[member.name], .missing⟩
  /-- Something is at fault in the value of a member. -/
  | member {kind : String} {members : List Member} {entries : Entries} {member : Member}
    {value : Value} {location : List String} {refusal : Refusal} :
    member ∈ members → Value.find? member.name entries = some value →
      Fails member.shape value ⟨location, refusal⟩ →
      Fails (.group kind members) (.mapping entries) ⟨member.name :: location, refusal⟩
  /-- Another kind refuses the value, or a part of it. -/
  | other {kind : Kind} {value : Value} {problem : Problem} :
    problem ∈ problemsOf (kind.check value) → Fails (.other kind) value problem

namespace Shape

theorem check_single (scalar : Scalar) (value : Value) :
    (single scalar).check value =
      (scalar.read value).mapError fun refusal => [⟨[], refusal⟩] := rfl

theorem check_group (kind : String) (members : List Member) (entries : Entries) :
    (group kind members).check (.mapping entries) =
      (collect (memberChecks members entries)).map .record := rfl

theorem check_noGroup (kind : String) (members : List Member) {value : Value}
    (h : ∀ entries, value ≠ .mapping entries) :
    (group kind members).check value = .error [⟨[], .noGroup kind⟩] := by
  cases value with
  | mapping entries => exact absurd rfl (h entries)
  | _ => rfl

theorem mem_problemsOf_check {shape : Shape} {value : Value} {problem : Problem} :
    problem ∈ problemsOf (shape.check value) ↔ shape.Fails value problem := by
  induction shape generalizing value problem with
  | other kind =>
    refine ⟨.other, fun h => ?_⟩
    cases h with
    | other hproblem => exact hproblem
  | single scalar =>
    rw [check_single]
    constructor
    · intro h
      cases hread : scalar.read value with
      | ok result =>
        rw [hread] at h
        exact absurd h List.not_mem_nil
      | error refusal =>
        rw [hread] at h
        obtain rfl := List.mem_singleton.mp h
        exact .refused hread
    · rintro ⟨hread⟩
      rw [hread]
      exact List.mem_singleton_self _
  | group kind members ih =>
    by_cases hmapping : ∃ entries, value = .mapping entries
    · obtain ⟨entries, rfl⟩ := hmapping
      rw [check_group, problemsOf_map, problemsOf_collect, memberChecks_eq]
      simp only [List.flatMap_map, List.mem_flatMap, problemsOf_within, List.mem_map,
        mem_problemsOf_settle]
      constructor
      · rintro ⟨member, hmember, problem, hproblem, rfl⟩
        obtain ⟨hfound, hdefault, rfl⟩ | ⟨value, hfound, hproblem⟩ | ⟨_, _, _, hproblem⟩ := hproblem
        · exact .missing hmember hfound hdefault
        · exact .member hmember hfound ((ih member hmember).mp hproblem)
        · -- the default of a member is taken as it is
          exact absurd hproblem List.not_mem_nil
      · intro h
        cases h with
        | noGroup hno => exact absurd rfl (hno entries)
        | missing hmember hfound hdefault =>
          exact ⟨_, hmember, ⟨[], .missing⟩, .inl ⟨hfound, hdefault, rfl⟩, rfl⟩
        | member hmember hfound hfails =>
          exact ⟨_, hmember, _, .inr (.inl ⟨_, hfound, (ih _ hmember).mpr hfails⟩), rfl⟩
    · have hno : ∀ entries, value ≠ .mapping entries := fun entries h => hmapping ⟨entries, h⟩
      rw [check_noGroup kind members hno, problemsOf_error, List.mem_singleton]
      constructor
      · rintro rfl
        exact .noGroup hno
      · intro h
        cases h with
        | noGroup => rfl
        | missing | member => exact absurd rfl (hno _)

theorem hasReason_check (shape : Shape) (value : Value) : HasReason (shape.check value) := by
  induction shape generalizing value with
  | other kind => exact fun _ => kind.ne_nil_of_check
  | single scalar =>
    rw [check_single]
    cases scalar.read value with
    | ok result => exact hasReason_ok result
    | error refusal => exact hasReason_problem _
  | group kind members ih =>
    by_cases hmapping : ∃ entries, value = .mapping entries
    · obtain ⟨entries, rfl⟩ := hmapping
      rw [check_group, memberChecks_eq]
      refine (hasReason_collect fun check hcheck => ?_).map _
      obtain ⟨member, hmember, rfl⟩ := List.mem_map.mp hcheck
      exact (hasReason_settle (ih member hmember) hasReason_ok).within _
    · rw [check_noGroup kind members fun entries h => hmapping ⟨entries, h⟩]
      exact hasReason_problem _

end Shape

/-! ## Places -/

mutual

/-- The places within a value for a setting, in the order in which they are declared: the whole,
and then each member. Another kind has its own order. -/
def Shape.locations (shape : Shape) (value : Value) : List (List String) :=
  match shape with
  | .single _ => [[]]
  | .group _ members =>
    [] :: memberLocations members fun name =>
      match value with
      | .mapping entries => Value.find? name entries
      | _ => none
  | .other kind => locationsOf (kind.check value)
termination_by structural shape

/-- The places within the values for the members of a group. -/
def memberLocations (members : List Member) (found : String → Option Value) :
    List (List String) :=
  match members with
  | [] => []
  | .mk name shape default :: rest =>
    (settledPlaces (found name) default shape.locations).map (name :: ·) ++
      memberLocations rest found
termination_by structural members

end

theorem memberLocations_eq (members : List Member) (found : String → Option Value) :
    memberLocations members found = members.flatMap fun member =>
      (settledPlaces (found member.name) member.default member.shape.locations).map
        (member.name :: ·) := by
  induction members with
  | nil => rfl
  | cons member rest ih =>
    cases member
    rw [memberLocations, ih, List.flatMap_cons]
    rfl

/-- The members of a group, and of the groups within it, have names of their own. -/
inductive Shape.NamesApart : Shape → Prop
  | single {scalar : Scalar} : NamesApart (.single scalar)
  | group {kind : String} {members : List Member} : (members.map (·.name)).Nodup →
    (∀ member ∈ members, NamesApart member.shape) → NamesApart (.group kind members)
  | other {kind : Kind} : NamesApart (.other kind)

section Rows

variable {names : α → String} {places : α → List (List String)} {items : List α}

/-- The places of problems with parts that are named are in the order of the parts. -/
theorem sublist_locationsOf_collect {labels : α → String} {check : α → Checked Value}
    (h : ∀ item ∈ items, (locationsOf (check item)).Sublist (places item)) :
    (locationsOf (collect (items.map fun item =>
      (labels item, within (names item) (check item))))).Sublist
      (items.flatMap fun item => (places item).map (names item :: ·)) := by
  unfold locationsOf
  rw [problemsOf_collect, List.flatMap_map, List.map_flatMap]
  refine List.Sublist.flatMap_right items fun item hitem => ?_
  have hplaces := (h item hitem).map (names item :: ·)
  simpa [locationsOf, Function.comp_def] using hplaces

/-- Places behind different names are different. -/
theorem nodup_places (hnames : (items.map names).Nodup)
    (h : ∀ item ∈ items, (places item).Nodup) :
    (items.flatMap fun item => (places item).map (names item :: ·)).Nodup := by
  refine List.nodup_flatMap.mpr ⟨fun item hitem => ?_, ?_⟩
  · exact (h item hitem).map (List.cons_injective)
  · refine (List.pairwise_map.mp hnames).imp fun {first second} hne => ?_
    rintro location hfirst hsecond
    obtain ⟨_, _, rfl⟩ := List.mem_map.mp hfirst
    obtain ⟨_, _, heq⟩ := List.mem_map.mp hsecond
    exact hne (List.cons.inj heq).1.symm

end Rows

namespace Shape

theorem sublist_locationsOf_check (shape : Shape) (value : Value) :
    (locationsOf (shape.check value)).Sublist (shape.locations value) := by
  induction shape generalizing value with
  | single scalar =>
    rw [check_single]
    cases scalar.read value with
    | ok result => exact List.nil_sublist _
    | error refusal => exact List.Sublist.refl _
  | group kind members ih =>
    by_cases hmapping : ∃ entries, value = .mapping entries
    · obtain ⟨entries, rfl⟩ := hmapping
      have hmembers : (locationsOf (collect (memberChecks members entries))).Sublist
          (memberLocations members (Value.find? · entries)) := by
        rw [memberChecks_eq, memberLocations_eq]
        refine sublist_locationsOf_collect fun member hmember => ?_
        exact sublist_locationsOf_settle (ih member hmember) fun _ => List.nil_sublist _
      have hwhole := hmembers.cons ([] : List String)
      rwa [check_group, locationsOf, problemsOf_map]
    · rw [check_noGroup kind members fun entries h => hmapping ⟨entries, h⟩]
      exact (List.nil_sublist _).cons_cons _
  | other kind => exact List.Sublist.refl _

theorem nodup_locations {shape : Shape} (h : shape.NamesApart) (value : Value) :
    (shape.locations value).Nodup := by
  induction shape generalizing value with
  | single scalar => exact List.nodup_singleton _
  | group kind members ih =>
    obtain _ | ⟨hnames, hmembers⟩ := h
    show ([] :: memberLocations members _).Nodup
    rw [memberLocations_eq]
    refine List.nodup_cons.mpr ⟨?_, nodup_places hnames fun member hmember =>
      nodup_settledPlaces (ih member hmember (hmembers member hmember))⟩
    simp
  | other kind =>
    show (locationsOf (kind.check value)).Nodup
    cases hcheck : kind.check value with
    | ok result => exact List.nodup_nil
    | error problems => exact kind.nodup_of_check hcheck

end Shape

/-! ## Values that fit -/

/-- The values that a setting is declared to hold. A group holds a value for each member. -/
inductive Shape.Admits : Shape → Value → Prop
  | single {scalar : Scalar} {value : Value} : scalar.Admits value → Admits (.single scalar) value
  | group {kind : String} {members : List Member} {values : List (String × Value)} :
    values.map (·.1) = members.map (·.name) →
    List.Forall₂ (fun member entry => Admits member.shape entry.2) members values →
    Admits (.group kind members) (.record values)
  | other {kind : Kind} {value : Value} : kind.Admits value → Admits (.other kind) value

/-- The defaults within a group, which are not checked, are admitted. -/
inductive Shape.DefaultsFit : Shape → Prop
  | single {scalar : Scalar} : DefaultsFit (.single scalar)
  | group {kind : String} {members : List Member} :
    (∀ member ∈ members, ∀ default, member.default = some default →
      member.shape.Admits default) →
    (∀ member ∈ members, DefaultsFit member.shape) → DefaultsFit (.group kind members)
  | other {kind : Kind} : DefaultsFit (.other kind)

theorem Shape.admits_of_check {shape : Shape} {value result : Value} (hfit : shape.DefaultsFit)
    (h : shape.check value = .ok result) : shape.Admits result := by
  induction shape generalizing value result with
  | single scalar => exact .single (Scalar.admits_of_read (mapError_eq_ok.mp h))
  | other kind => exact .other (kind.admits_check h)
  | group kind members ih =>
    obtain _ | ⟨hdefaults, hmembers⟩ := hfit
    by_cases hmapping : ∃ entries, value = .mapping entries
    · obtain ⟨entries, rfl⟩ := hmapping
      rw [check_group, memberChecks_eq] at h
      obtain ⟨values, hvalues, rfl⟩ := map_eq_ok.mp h
      obtain ⟨hnames, hchecked⟩ := collect_eq_ok.mp hvalues
      rw [List.map_map] at hnames
      refine .group hnames ?_
      have hrows := (List.forall₂_and_left members values).mpr
        ⟨fun member hmember => hmember, List.forall₂_map_left_iff.mp hchecked⟩
      refine hrows.imp fun member entry ⟨hmember, hentry⟩ => ?_
      obtain ⟨given, _, hgiven⟩ | ⟨_, default, hdefault, hentry⟩ :=
        settle_eq_ok.mp (within_eq_ok.mp hentry)
      · exact ih member hmember (hmembers member hmember) hgiven
      · exact Except.ok.inj hentry ▸ hdefaults member hmember default hdefault
    · rw [check_noGroup kind members fun entries h => hmapping ⟨entries, h⟩] at h
      cases h

end BoardSearch.Settings
