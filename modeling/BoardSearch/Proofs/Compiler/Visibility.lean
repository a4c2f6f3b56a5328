import BoardSearch.Proofs.Compiler.Result

/-!
# What stays hidden

Whatever is searched for, in whatever order and on top of whatever base, a search that
was built finds safe posts only in safe mode, and no deleted post unless the session or
a status allows it.

## Main definitions

* `Request.NamesShown`: a metatag is a status that takes a stand on deleted posts.

## Main statements

* `Request.hidesDeleted_of_not_namesShown`: deleted posts are hidden without one;
* `Compiler.build_keeps_hidden`: the restrictions hold of all that a search finds.
-/

namespace BoardSearch

theorem Status.isText_of_ofValue? {value : Value} {status : Status}
    (h : Status.ofValue? value = some status) : value.isText status.text = true := by
  unfold Status.ofValue? at h
  simpa using List.find?_some h

namespace Request

variable {request : Request}

/-- The scalar under a name is a status that takes a stand on deleted posts. -/
def NamesShown (request : Request) (name : String) : Prop :=
  ∃ value, request.scalar? name = some value ∧
    ∃ word ∈ ["deleted", "active", "any", "all"], value.isText word = true

/-- The words for the statuses that take a stand on deleted posts. -/
theorem text_mem_of_showsDeleted {status : Status} (h : status.showsDeleted = true) :
    status.text ∈ ["deleted", "active", "any", "all"] := by
  cases status <;> simp_all [Status.showsDeleted, Status.text]

theorem namesShown_of_showsDeleted {name : String}
    (h : request.showsDeleted name = .ok true) : request.NamesShown name := by
  unfold showsDeleted at h
  cases hscalar : request.scalar? name with
  | none => simp [hscalar] at h
  | some value =>
    simp only [hscalar] at h
    split at h
    · cases hstatus : Status.ofValue? value with
      | none => simp [hstatus] at h
      | some status =>
        have hshows : status.showsDeleted = true := by simpa [hstatus] using h
        have htext := Status.isText_of_ofValue? hstatus
        exact ⟨value, hscalar, status.text, text_mem_of_showsDeleted hshows, htext⟩
    · simp at h

/-- Outside of admin mode deleted posts are hidden where no metatag takes a stand on
them. -/
theorem hidesDeleted_of_not_namesShown {hides : Bool}
    (h : request.hidesDeleted false = .ok hides) (hstatus : ¬ request.NamesShown "status")
    (hnegated : ¬ request.NamesShown "status_neg") : hides = true := by
  unfold hidesDeleted at h
  rw [if_neg Bool.false_ne_true] at h
  -- the negated status is looked at only where the status brings nothing back
  obtain ⟨shown, hshown, h⟩ := bind_eq_ok.mp h
  cases shown with
  | true => exact absurd (namesShown_of_showsDeleted hshown) hstatus
  | false =>
    obtain ⟨shown', hshown', h⟩ := bind_eq_ok.mp h
    cases shown' with
    | true => exact absurd (namesShown_of_showsDeleted hshown') hnegated
    | false => exact (Except.ok.inj h).symm

/-- The restriction to safe posts is one of the filters of safe mode. -/
theorem safetyContribution_mem (request : Request) (safeMode adminMode : Bool) :
    safetyContribution safeMode ∈
      (filterParts safeMode adminMode).map fun part => part request := by
  simp [filterParts]

/-- The clause that hides deleted posts is one of the filters. -/
theorem visibilityContribution_mem (request : Request) (safeMode adminMode : Bool) :
    request.visibilityContribution adminMode ∈
      (filterParts safeMode adminMode).map fun part => part request := by
  refine List.mem_map.mpr ⟨fun request => request.visibilityContribution adminMode, ?_, rfl⟩
  simp [filterParts]

end Request

namespace Contribution

variable {τ : Truth} {request : Request}

/-- In safe mode only safe posts are admitted. -/
theorem holds_of_admits_safety (h : (Request.safetyContribution true).Admits τ) :
    τ.holds (.term "rating" (.text "s")) = true := by
  have hrating : ∀ q ∈ [Query.term "rating" (.text "s")], τ.meets q = true :=
    admits_require.mp h
  exact hrating _ (List.mem_singleton.mpr rfl)

/-- Where deleted posts are hidden, only posts that are not deleted are admitted. -/
theorem holds_of_admits_visibility (h : (request.visibilityContribution false).Admits τ)
    (hstatus : ¬ request.NamesShown "status") (hnegated : ¬ request.NamesShown "status_neg") :
    τ.holds (.term "deleted" (.bool false)) = true := by
  unfold Request.visibilityContribution at h
  cases hhides : request.hidesDeleted false with
  | error failure =>
    rw [hhides] at h
    exact absurd h not_admits_fail
  | ok hides =>
    obtain rfl := Request.hidesDeleted_of_not_namesShown hhides hstatus hnegated
    rw [hhides] at h
    have hdeleted : ∀ q ∈ [Query.term "deleted" (.bool false)], τ.meets q = true :=
      admits_require.mp h
    exact hdeleted _ (List.mem_singleton.mpr rfl)

end Contribution

namespace Compiler

/-- What a search that was built finds is admitted by the filters of its request,
whatever the base asks for. -/
theorem admits_of_meets_built {c : Compiler} {clock : Clock} {base : Option Search}
    {search : Search} (h : (c.build clock base).result = .ok search) :
    ∃ request query, c.parse = .ok request ∧ search.query = some query ∧
      ∀ τ : Truth, τ.meets query = true → (c.filters request).Admits τ := by
  obtain ⟨request, resolution, hparse, hfilters, _, hquery⟩ := stages_of_build h
  refine ⟨request, _, hparse, hquery, fun τ hmeets => ?_⟩
  -- the base comes first in the conjunction, and what was collected is its second query
  have hown : τ.meets (c.filled request resolution).withRequirement.collected = true := by
    revert hmeets
    cases base.bind (·.query) with
    | none => exact id
    | some query => exact Truth.meets_right_of_and (strict_collected _)
  exact ((meets_filled hfilters).mp hown).1

/-- A search that was built finds safe posts only in safe mode; and without admin mode
it finds no deleted posts, unless one of the two metatags for the status takes a stand on
them. -/
theorem build_keeps_hidden {c : Compiler} {clock : Clock} {base : Option Search}
    {search : Search} (h : (c.build clock base).result = .ok search) :
    ∃ request query, c.parse = .ok request ∧ search.query = some query ∧
      ∀ τ : Truth, τ.meets query = true →
        (c.session.safeMode.truthy = true → τ.holds (.term "rating" (.text "s")) = true) ∧
        (c.session.adminMode.truthy = false → ¬ request.NamesShown "status" →
          ¬ request.NamesShown "status_neg" →
            τ.holds (.term "deleted" (.bool false)) = true) := by
  obtain ⟨request, query, hparse, hquery, hadmits⟩ := admits_of_meets_built h
  refine ⟨request, query, hparse, hquery, fun τ hmeets => ?_⟩
  have hall := Contribution.admits_all.mp (hadmits τ hmeets)
  constructor
  · intro hsafe
    have hsafety := hall _ (Request.safetyContribution_mem request _ _)
    rw [hsafe] at hsafety
    exact Contribution.holds_of_admits_safety hsafety
  · intro hadmin hstatus hnegated
    have hvisible := hall _ (Request.visibilityContribution_mem request _ _)
    rw [hadmin] at hvisible
    exact Contribution.holds_of_admits_visibility hvisible hstatus hnegated

/-- A random order, on top of a base that asks for one of two tags, finds neither posts
that are not safe nor deleted ones. -/
theorem build_keeps_hidden_random :
    ∃ search query,
      ((new (.record [("order", .text "random")])
        { Session.anonymous with safeMode := .bool true } none).build .leapDay
          (some { Search.empty with query := some (.bool
            [.term "tags" (.text "cat"), .term "tags" (.text "dog")]
            [] [] [] none .usual) })).result = .ok search ∧
      search.query = some query ∧
      ∀ τ : Truth, τ.meets query = true →
        τ.holds (.term "rating" (.text "s")) = true ∧
          τ.holds (.term "deleted" (.bool false)) = true := by
  obtain ⟨search, h⟩ := exists_eq_ok (x := ((new (.record [("order", .text "random")])
    { Session.anonymous with safeMode := .bool true } none).build .leapDay
      (some { Search.empty with query := some (.bool
        [.term "tags" (.text "cat"), .term "tags" (.text "dog")]
        [] [] [] none .usual) })).result) (by decide +kernel)
  obtain ⟨request, query, hparse, hquery, hmeets⟩ := build_keeps_hidden h
  obtain rfl : (⟨[("order", .text "random")]⟩ : Request) = request := Except.ok.inj hparse
  have hstatus : ∀ name, name ≠ "order" →
      ¬ Request.NamesShown ⟨[("order", .text "random")]⟩ name := by
    rintro name hname ⟨value, hvalue, _⟩
    simp [Request.scalar?, Request.get?, Keyed.find?, hname.symm] at hvalue
  refine ⟨search, query, h, hquery, fun τ hτ => ?_⟩
  obtain ⟨hsafe, hshown⟩ := hmeets τ hτ
  exact ⟨hsafe rfl, hshown rfl (hstatus _ (by decide)) (hstatus _ (by decide))⟩

end Compiler

end BoardSearch
