import BoardSearch.Compiler.Basic
import BoardSearch.Proofs.Outcome
import BoardSearch.Proofs.Query.Conjunction
import BoardSearch.Proofs.Relation.Admission

/-!
# What a compilation results in

A compilation reads the request, compares the number of tags with the limit, collects
the filters and then the order, and puts together what it has collected. Its result is
that of these stages in a row, and what it puts together does not depend on what the
compiler had collected before.

## Main definitions

* `Compiler.filters`: what the filters of a request contribute in a session;
* `Compiler.filled`: the compiler that has collected a request, and nothing else.

## Main statements

* `Compiler.compile_result`: the result of a compilation as the results of its stages;
* `Compiler.stages_of_build`: the stages of a build that succeeds, and its query;
* `Compiler.meets_filled`: what that query asks for.
-/

namespace BoardSearch

/-- A clock on a leap day, with a stopwatch that stands still. -/
def Clock.leapDay : Clock := ⟨Date.begins ⟨2024, 2, 29, by decide⟩, .still⟩

/-- An administrator, with the usual limits. -/
def Session.administrator : Session := { anonymous with adminMode := .bool true }

/-- The result of an operation that goes on from another one. -/
theorem Report.andThen_result {α β : Type} (report : Report α)
    (next : Compiler → α → Report β) :
    (report.andThen next).result =
      report.result >>= fun a => (next report.compiler a).result := by
  unfold Report.andThen
  cases report.result <;> rfl

/-- What comes of comparing the number of tags of a request with the limit of a
session. A refusal names both numbers. -/
def Session.tagCheck (session : Session) (request : Request) : Except Failure Unit := do
  let count ← request.integer "tag_count" 0
  if ← session.exceededBy count then .error (session.refusal count) else return ()

/-- It does not matter how operations that go on from each other are grouped. -/
theorem Report.andThen_assoc {α β γ : Type} (report : Report α)
    (next : Compiler → α → Report β) (last : Compiler → β → Report γ) :
    (report.andThen next).andThen last =
      report.andThen fun c a => (next c a).andThen last := by
  obtain ⟨c, events, result⟩ := report
  cases result with
  | error failure => rfl
  | ok a =>
    unfold Report.andThen
    dsimp only
    cases (next c a).result with
    | error failure => rfl
    | ok b => simp only [List.append_assoc]

namespace Compiler

/-- What the filters of a request contribute in the session of a compiler. -/
def filters (c : Compiler) (request : Request) : Contribution :=
  request.filterContribution c.session.safeMode.truthy c.session.adminMode.truthy

/-- The compiler that has collected a request with its order, and nothing else. -/
def filled (c : Compiler) (request : Request) (resolution : Resolution) : Compiler :=
  { c with
    must := (c.filters request).must ++ resolution.must
    mustNot := (c.filters request).mustNot
    order := resolution.sort
    scoring := resolution.scoring }

/-- What comes of comparing the number of tags with the limit depends on the session
alone, and nothing in the compiler changes. -/
theorem enforceTagLimit_result (c : Compiler) (request : Request) :
    (c.enforceTagLimit request).compiler = c ∧
      (c.enforceTagLimit request).result = c.session.tagCheck request := by
  unfold enforceTagLimit Session.tagCheck
  cases request.integer "tag_count" 0 with
  | error failure => exact ⟨rfl, rfl⟩
  | ok count =>
    cases hexceeded : c.session.exceededBy count with
    | error failure => simp [hexceeded, bind, Except.bind]
    | ok exceeded =>
      cases exceeded with
      | false => simp [hexceeded, bind, Except.bind, pure, Except.pure]
      | true => simp [hexceeded, bind, Except.bind]

theorem collect_result (c : Compiler) (contribution : Contribution) :
    (c.collect contribution).result = contribution.outcome := rfl

/-- After the filters of a request, its order is collected and everything is put
together. -/
theorem collected_result (c : Compiler) (now : Moment) (request : Request)
    (base : Option Search) :
    (((c.reset.collect (c.filters request)).andThen fun c _ => c.collectOrder now request).andThen
        fun c _ => c.assemble base).result =
      (c.filters request).outcome >>= fun _ => request.resolveOrder now >>= fun resolution =>
        ((c.filled request resolution).assemble base).result := by
  rw [Report.andThen_assoc, Report.andThen_result, collect_result]
  refine congrArg _ (funext fun _ => ?_)
  rw [Report.andThen_result]
  unfold collectOrder
  cases request.resolveOrder now with
  | error failure => rfl
  | ok resolution => rfl

/-- The result of a compilation is that of its stages in a row. -/
theorem compile_result (c : Compiler) (now : Moment) (base : Option Search) :
    (c.compile now base).result =
      c.parse >>= fun request => c.session.tagCheck request >>= fun _ =>
        (c.filters request).outcome >>= fun _ => request.resolveOrder now >>= fun resolution =>
          ((c.filled request resolution).assemble base).result := by
  have hparse : c.reset.parse = c.parse := rfl
  unfold compile
  dsimp only
  rw [hparse]
  cases c.parse with
  | error failure => rfl
  | ok request =>
    -- the comparison with the limit leaves the compiler as it is after the reset
    obtain ⟨hcompiler, hresult⟩ := enforceTagLimit_result c.reset request
    change ((((c.reset.enforceTagLimit request).andThen fun c _ =>
      c.collect (c.filters request)).andThen fun c _ =>
        c.collectOrder now request).andThen fun c _ => c.assemble base).result = _
    rw [Report.andThen_assoc, Report.andThen_assoc, Report.andThen_result, hcompiler, hresult]
    refine congrArg _ (funext fun _ => ?_)
    rw [← Report.andThen_assoc]
    exact collected_result c now request base

/-- The message at the end has no say in the result of a build. -/
theorem build_result (c : Compiler) (clock : Clock) (base : Option Search) :
    (c.build clock base).result = (c.compile clock.now base).result := rfl

theorem withRequirement_session (c : Compiler) : c.withRequirement.session = c.session := by
  unfold withRequirement
  split <;> rfl

/-- Putting together fails only where nothing can be built onto the base, or the timeout
is too long to be written out. -/
theorem assemble_eq_ok {c : Compiler} {base : Option Search} {search : Search}
    (h : (c.assemble base).result = .ok search) :
    search.query = some (match base.bind (·.query) with
      | none => c.withRequirement.collected
      | some query => query.and c.withRequirement.collected) := by
  unfold assemble at h
  dsimp only at h
  split at h
  · simp at h
  · split at h
    · simp only [Except.ok.injEq] at h
      subst h
      cases base with
      | none => rfl
      | some base => rfl
    · simp at h

/-- A build that succeeds has read the request, collected its filters in full and
resolved its order; and its query is that of what it has collected, joined to the query
of the base. -/
theorem stages_of_build {c : Compiler} {clock : Clock} {base : Option Search}
    {search : Search} (h : (c.build clock base).result = .ok search) :
    ∃ request resolution, c.parse = .ok request ∧ (c.filters request).failure = none ∧
      request.resolveOrder clock.now = .ok resolution ∧
      search.query = some (match base.bind (·.query) with
        | none => (c.filled request resolution).withRequirement.collected
        | some query => query.and (c.filled request resolution).withRequirement.collected) := by
  rw [build_result, compile_result] at h
  obtain ⟨request, hparse, h⟩ := bind_eq_ok.mp h
  obtain ⟨_, _, h⟩ := bind_eq_ok.mp h
  obtain ⟨_, hfilters, h⟩ := bind_eq_ok.mp h
  obtain ⟨resolution, horder, h⟩ := bind_eq_ok.mp h
  exact ⟨request, resolution, hparse, Contribution.outcome_eq_ok.mp hfilters, horder,
    assemble_eq_ok h⟩

/-! ## The query -/

/-- The query of what was collected has no optional parts. -/
theorem strict_collected (c : Compiler) : c.collected.Strict := by
  unfold collected
  cases c.scoring with
  | none => exact ⟨rfl, rfl⟩
  | some scoring => trivial

/-- The query of what was collected asks for all that must match and against all that
must not, with or without a score. -/
theorem meets_collected {τ : Truth} (c : Compiler) :
    τ.meets c.collected = true ↔
      (∀ q ∈ c.must, τ.meets q = true) ∧ ∀ q ∈ c.mustNot, τ.meets q = false := by
  have hbool : τ.meets (.bool [] c.must c.mustNot [] none .usual) = true ↔
      (∀ q ∈ c.must, τ.meets q = true) ∧ ∀ q ∈ c.mustNot, τ.meets q = false := by
    rw [τ.meets_conjunction]
    simp
  unfold collected
  cases c.scoring with
  | none => exact hbool
  | some scoring =>
    change τ.meets (scoring.wrap _) = true ↔ _
    rw [Scoring.wrap, τ.meets_functionScore]
    exact hbool

/-- That every post is required where nothing else is asks for nothing more. -/
theorem meets_withRequirement {τ : Truth} (c : Compiler) :
    τ.meets c.withRequirement.collected = true ↔ τ.meets c.collected = true := by
  rw [meets_collected, meets_collected]
  unfold withRequirement
  cases hmust : c.must with
  | nil => simp [Truth.meets]
  | cons q rest => simp [hmust]

/-- The query of a request asks for what its filters admit and what its order needs. -/
theorem meets_filled {τ : Truth} {c : Compiler} {request : Request} {resolution : Resolution}
    (h : (c.filters request).failure = none) :
    τ.meets (c.filled request resolution).withRequirement.collected = true ↔
      (c.filters request).Admits τ ∧ ∀ q ∈ resolution.must, τ.meets q = true := by
  rw [meets_withRequirement, meets_collected]
  simp only [filled, Contribution.Admits, List.mem_append]
  constructor
  · rintro ⟨hmust, hnot⟩
    exact ⟨⟨h, fun q hq => hmust q (.inl hq), hnot⟩, fun q hq => hmust q (.inr hq)⟩
  · rintro ⟨⟨_, hmust, hnot⟩, horder⟩
    exact ⟨fun q hq => hq.elim (hmust q) (horder q), hnot⟩

end Compiler

end BoardSearch
