import BoardSearch.Compiler.Operation
import BoardSearch.Proofs.Order.Resolution

/-!
# Steps only append

The single steps of a compilation put what they collect at the end of the two lists, and what
they collect does not depend on the lists. A step that fails midway has collected the same, and
fails in the same way, whatever was there. Only the step for the order sets the sort keys and the
score.

## Main definitions

* `Operation.isStep`: a single step, or the tags of a grouping;
* `Gain`: what steps add to a compiler;
* `Compiler.results`: how operations end that are carried out whatever becomes of them;
* `Compiler.runToFailure`: operations in a row, up to the first that fails.

## Main statements

* `Compiler.exists_gain_run`: what a step adds, whatever the compiler has collected;
* `Compiler.exists_gain_follow`: the same for steps in a row;
* `Compiler.steps_append`: the lists afterwards, and the order.
-/

namespace BoardSearch

theorem Request.sort_ne_nil_of_resolveOrder {request : Request} {now : Moment}
    {resolution : Resolution} (h : request.resolveOrder now = .ok resolution) :
    resolution.sort ≠ [] := by
  cases htoken : request.orderToken? with
  | error failure => simp [resolveOrder, htoken, bind, Except.bind] at h
  | ok token => exact (resolves_of_resolveOrder htoken h).sort_ne_nil

namespace Compiler

/-- The operation is a single step of a compilation, or collects tags. -/
def Operation.isStep : Operation → Bool
  | .stage _ | .addTags _ _ => true
  | _ => false

/-- What steps add to a compiler, whatever it has collected. -/
structure Gain where
  must : List Query
  mustNot : List Query
  /-- The sort keys and the score, if the steps set them. -/
  ordering : Option (List SortKey × Option Scoring)

namespace Gain

def nothing : Gain := ⟨[], [], none⟩

def ofContribution (contribution : Contribution) : Gain :=
  ⟨contribution.must, contribution.mustNot, none⟩

def ofResolution (resolution : Resolution) : Gain :=
  ⟨resolution.must, [], some (resolution.sort, resolution.scoring)⟩

/-- One gain after another. The later order counts. -/
def andThen (first second : Gain) : Gain :=
  ⟨first.must ++ second.must, first.mustNot ++ second.mustNot,
    second.ordering.or first.ordering⟩

/-- An order comes of a step for it alone, and has sort keys. -/
def OrdersBy (gain : Gain) (steps : List (Clock × Operation)) : Prop :=
  ∀ sort scoring, gain.ordering = some (sort, scoring) →
    sort ≠ [] ∧ ∃ entry ∈ steps, entry.2 = .stage .order

theorem ordersBy_of_eq_none {gain : Gain} (h : gain.ordering = none)
    (steps : List (Clock × Operation)) : gain.OrdersBy steps := by
  intro sort scoring hordering
  rw [h] at hordering
  exact absurd hordering nofun

theorem OrdersBy.mono {gain : Gain} {steps steps' : List (Clock × Operation)}
    (h : gain.OrdersBy steps) (hsub : steps ⊆ steps') : gain.OrdersBy steps' := by
  intro sort scoring hordering
  obtain ⟨hsort, entry, hentry, horder⟩ := h sort scoring hordering
  exact ⟨hsort, entry, hsub hentry, horder⟩

theorem OrdersBy.andThen {first second : Gain} {steps : List (Clock × Operation)}
    (hfirst : first.OrdersBy steps) (hsecond : second.OrdersBy steps) :
    (first.andThen second).OrdersBy steps := by
  intro sort scoring hordering
  obtain hordering | ⟨_, hordering⟩ := Option.or_eq_some_iff.mp hordering
  · exact hsecond sort scoring hordering
  · exact hfirst sort scoring hordering

end Gain

/-- A compiler with a gain. -/
def gaining (c : Compiler) (gain : Gain) : Compiler :=
  { c with
    must := c.must ++ gain.must
    mustNot := c.mustNot ++ gain.mustNot
    order := (gain.ordering.map (·.1)).getD c.order
    scoring := (gain.ordering.map (·.2)).getD c.scoring }

@[simp]
theorem gaining_nothing (c : Compiler) : c.gaining .nothing = c := by
  simp [gaining, Gain.nothing]

theorem gaining_gaining (c : Compiler) (first second : Gain) :
    (c.gaining first).gaining second = c.gaining (first.andThen second) := by
  cases hordering : second.ordering <;> simp [gaining, Gain.andThen, hordering]

/-! ## Runs -/

/-- How operations end that are carried out one after another, whatever becomes of them. -/
def results (c : Compiler) : List (Clock × Operation) → List (Except Failure Product)
  | [] => []
  | (clock, operation) :: rest =>
    (c.run clock operation).result :: results (c.run clock operation).compiler rest

/-- The compiler after operations of which none takes place after one that fails. -/
def runToFailure (c : Compiler) : List (Clock × Operation) → Compiler
  | [] => c
  | (clock, operation) :: rest =>
    match (c.run clock operation).result with
    | .ok _ => runToFailure (c.run clock operation).compiler rest
    | .error _ => (c.run clock operation).compiler

/-- What is done to a settled compiler brings it a gain and comes to a result, whatever it has
collected. -/
def Brings {α : Type} (settled : Compiler → Prop) (act : Compiler → Report α) (gain : Gain)
    (result : Except Failure α) : Prop :=
  ∀ c, settled c → (act c).compiler = c.gaining gain ∧ (act c).result = result

theorem brings_collect {settled : Compiler → Prop} (contribution : Contribution) :
    Brings settled (·.collect contribution) (.ofContribution contribution)
      contribution.outcome :=
  fun _ _ => ⟨rfl, rfl⟩

section

variable (request : Request) (session : Session)

/-- What a step adds and how it ends depend on the request, the session and the time alone. -/
theorem exists_gain_runStage (now : Moment) (stage : Stage) :
    ∃ gain result, (∀ sort scoring, gain.ordering = some (sort, scoring) →
        sort ≠ [] ∧ stage = .order) ∧
      Brings (·.session = session) (·.runStage now request stage) gain result := by
  cases stage with
  | tagCount =>
    refine ⟨.nothing, session.tagCheck request, nofun, ?_⟩
    rintro c rfl
    rw [gaining_nothing]
    exact enforceTagLimit_result c request
  | order =>
    cases hresolution : request.resolveOrder now with
    | error failure =>
      refine ⟨.nothing, .error failure, nofun, ?_⟩
      intro c _
      show (c.collectOrder now request).compiler = _ ∧ (c.collectOrder now request).result = _
      rw [gaining_nothing, collectOrder, hresolution]
      exact ⟨rfl, rfl⟩
    | ok resolution =>
      refine ⟨.ofResolution resolution, .ok (), ?_, ?_⟩
      · intro sort scoring hordering
        obtain ⟨rfl, rfl⟩ := Prod.mk.inj (Option.some.inj hordering)
        exact ⟨request.sort_ne_nil_of_resolveOrder hresolution, rfl⟩
      · intro c _
        show (c.collectOrder now request).compiler = _ ∧ (c.collectOrder now request).result = _
        rw [collectOrder, hresolution]
        simp [gaining, Gain.ofResolution]
  | filters =>
    -- safe mode and admin mode are those of the session
    let contribution := request.filterContribution session.safeMode.truthy
      session.adminMode.truthy
    refine ⟨.ofContribution contribution, contribution.outcome, nofun, ?_⟩
    rintro c rfl
    exact brings_collect contribution c rfl
  | source | votes | locks | array | single | wildcard =>
    exact ⟨.ofContribution _, _, nofun, brings_collect _⟩

/-- What a step of a run adds and how it ends do not depend on what the compiler has collected. -/
theorem exists_gain_run (clock : Clock) {operation : Operation} (hstep : operation.isStep = true) :
    ∃ gain result, Gain.OrdersBy gain [(clock, operation)] ∧
      Brings (fun c => c.parse = .ok request ∧ c.session = session) (·.run clock operation)
        gain result := by
  cases operation with
  | stage stage =>
    obtain ⟨gain, result, hordering, hbrings⟩ :=
      exists_gain_runStage request session clock.now stage
    refine ⟨gain, result.map fun _ => .nothing, ?_, ?_⟩
    · intro sort scoring hsome
      obtain ⟨hsort, rfl⟩ := hordering sort scoring hsome
      exact ⟨hsort, _, List.mem_singleton.mpr rfl, rfl⟩
    · rintro c ⟨hparse, hsession⟩
      obtain ⟨hcompiler, hresult⟩ := hbrings c hsession
      dsimp only at hcompiler hresult ⊢
      rw [run, perform, hparse]
      dsimp only
      rw [Report.andThen, hresult]
      cases result <;> exact ⟨hcompiler, rfl⟩
  | addTags grouping excluded =>
    refine ⟨.ofContribution (if excluded then .exclude [grouping.query]
      else .require [grouping.query]), .ok .added, Gain.ordersBy_of_eq_none rfl _, ?_⟩
    intro c _
    cases excluded <;> exact ⟨rfl, rfl⟩
  | _ => exact absurd hstep nofun

variable {request session}

/-- Steps in a row add the same to every compiler with the request and the session, and end alike. -/
theorem exists_gain_runAll {steps : List (Clock × Operation)}
    (hsteps : ∀ entry ∈ steps, entry.2.isStep = true) :
    ∃ gain results, Gain.OrdersBy gain steps ∧
      ∀ c : Compiler, c.parse = .ok request ∧ c.session = session →
        c.runAll steps = c.gaining gain ∧ c.results steps = results := by
  induction steps with
  | nil =>
    refine ⟨.nothing, [], Gain.ordersBy_of_eq_none rfl _, ?_⟩
    intro c _
    exact ⟨(gaining_nothing c).symm, rfl⟩
  | cons entry rest ih =>
    obtain ⟨hstep, hrest⟩ := List.forall_mem_cons.mp hsteps
    obtain ⟨first, result, hfirst, hrun⟩ := exists_gain_run request session entry.1 hstep
    obtain ⟨later, results, hlater, hruns⟩ := ih hrest
    refine ⟨first.andThen later, result :: results, ?_, ?_⟩
    · exact (hfirst.mono (by simp)).andThen (hlater.mono (List.subset_cons_self entry rest))
    · intro c hc
      obtain ⟨hcompiler, hresult⟩ := hrun c hc
      -- a gain leaves the query and the session as they are
      obtain ⟨hcompilers, hresults⟩ := hruns (c.gaining first) hc
      constructor
      · show (c.run entry.1 entry.2).compiler.runAll rest = _
        rw [hcompiler, hcompilers, gaining_gaining]
      · show (c.run entry.1 entry.2).result :: (c.run entry.1 entry.2).compiler.results rest = _
        rw [hresult, hcompiler, hresults]

/-- Which step is the first to fail does not depend on what the compiler has collected. -/
theorem exists_runToFailure_eq {steps : List (Clock × Operation)}
    (hsteps : ∀ entry ∈ steps, entry.2.isStep = true) :
    ∃ attempts, ∀ c : Compiler, c.parse = .ok request ∧ c.session = session →
      c.runToFailure steps = c.runAll (steps.take attempts) := by
  induction steps with
  | nil => exact ⟨0, fun _ _ => rfl⟩
  | cons entry rest ih =>
    obtain ⟨hstep, hrest⟩ := List.forall_mem_cons.mp hsteps
    obtain ⟨gain, result, -, hrun⟩ := exists_gain_run request session entry.1 hstep
    obtain ⟨attempts, hattempts⟩ := ih hrest
    cases result with
    | error failure =>
      refine ⟨1, ?_⟩
      intro c hc
      rw [runToFailure, (hrun c hc).2]
      rfl
    | ok product =>
      refine ⟨attempts + 1, ?_⟩
      intro c hc
      rw [runToFailure, (hrun c hc).2]
      show (c.run entry.1 entry.2).compiler.runToFailure rest =
        (c.run entry.1 entry.2).compiler.runAll (rest.take attempts)
      rw [(hrun c hc).1]
      exact hattempts (c.gaining gain) hc

/-- Steps that go on after one that fails, and steps that do not, add the same to every compiler
with the request and the session. -/
theorem exists_gain_follow {follow : Compiler → List (Clock × Operation) → Compiler}
    (hfollow : follow ∈ [runAll, runToFailure]) {steps : List (Clock × Operation)}
    (hsteps : ∀ entry ∈ steps, entry.2.isStep = true) :
    ∃ gain, Gain.OrdersBy gain steps ∧
      ∀ c : Compiler, c.parse = .ok request ∧ c.session = session →
        follow c steps = c.gaining gain := by
  have hattempted : ∃ attempts, ∀ c : Compiler, c.parse = .ok request ∧ c.session = session →
      follow c steps = c.runAll (steps.take attempts) := by
    simp only [List.mem_cons, List.not_mem_nil, or_false] at hfollow
    obtain rfl | rfl := hfollow
    · exact ⟨steps.length, fun c _ => by rw [List.take_length]⟩
    · exact exists_runToFailure_eq hsteps
  obtain ⟨attempts, hattempts⟩ := hattempted
  have htaken : ∀ entry ∈ steps.take attempts, entry.2.isStep = true :=
    fun entry hentry => hsteps entry (List.mem_of_mem_take hentry)
  obtain ⟨gain, _, horders, hgain⟩ := @exists_gain_runAll request session _ htaken
  refine ⟨gain, horders.mono (List.take_subset attempts steps), ?_⟩
  intro c hc
  rw [hattempts c hc]
  exact (hgain c hc).1

end

/-- Steps in a row end as they do where nothing has been collected yet. The lists afterwards are
those from before, and behind them what the same steps collect of nothing, whether the steps go on
after one that fails or not. The sort keys and the score become those that the same steps come to
by themselves, if they come to any, and stay as they are where no step is the one for the order. -/
theorem steps_append (c : Compiler) (request : Request) (hparse : c.parse = .ok request)
    (steps : List (Clock × Operation)) (hsteps : ∀ entry ∈ steps, entry.2.isStep = true) :
    c.results steps = c.reset.results steps ∧
    ∀ follow ∈ [runAll, runToFailure],
      let after := follow c steps
      let alone := follow c.reset steps
      after.must = c.must ++ alone.must ∧
      after.mustNot = c.mustNot ++ alone.mustNot ∧
      after.order = (if alone.order = [] then c.order else alone.order) ∧
      after.scoring = (if alone.order = [] then c.scoring else alone.scoring) ∧
      ((∀ entry ∈ steps, entry.2 ≠ .stage .order) →
        after.order = c.order ∧ after.scoring = c.scoring) := by
  have hsettled : c.parse = .ok request ∧ c.session = c.session := ⟨hparse, rfl⟩
  have hreset : c.reset.parse = .ok request ∧ c.reset.session = c.session := ⟨hparse, rfl⟩
  constructor
  · obtain ⟨_, results, -, hruns⟩ := exists_gain_runAll hsteps
    rw [(hruns c hsettled).2, (hruns c.reset hreset).2]
  · intro follow hfollow after alone
    obtain ⟨gain, horders, hgain⟩ := exists_gain_follow hfollow hsteps
    have hafter : after = c.gaining gain := hgain c hsettled
    have halone : alone = c.reset.gaining gain := hgain c.reset hreset
    rw [hafter, halone]
    refine ⟨rfl, rfl, ?_⟩
    cases hordering : gain.ordering with
    | none => simp [gaining, reset, hordering]
    | some ordering =>
      obtain ⟨sort, scoring⟩ := ordering
      obtain ⟨hsort, entry, hentry, horder⟩ := horders sort scoring hordering
      refine ⟨?_, ?_, fun hnone => absurd horder (hnone entry hentry)⟩
      · simp [gaining, reset, hordering, hsort]
      · simp [gaining, reset, hordering, hsort]

/-- A lock that cannot be looked up comes behind one that can; then an order, and a list. -/
theorem steps_append_locks :
    let c : Compiler :=
      { new (.record [("locked", .list [.text "note", .list [.text "x"]]),
          ("order", .text "score"), ("uploader_ids", .list [.int 3])]) .anonymous none with
        must := [.present "source"], order := [.asc "id"] }
    let steps : List (Clock × Operation) := [(.leapDay, .stage .locks), (.leapDay, .stage .order),
      (.leapDay, .stage (.array "uploader_ids" "uploader" none))]
    (c.runAll steps).must = [.present "source", .term "note_locked" (.bool true),
      .term "uploader" (.int 3)] ∧
    (c.runAll steps).order = SortKey.tiesById "score" .desc ∧
    (c.runToFailure steps).must = [.present "source", .term "note_locked" (.bool true)] ∧
    (c.runToFailure steps).order = [.asc "id"] := by
  intro c steps
  obtain ⟨-, happend⟩ := steps_append c _ rfl steps (by decide)
  obtain ⟨hmust, -, horder, -⟩ := happend runAll (by simp)
  obtain ⟨hmust', -, horder', -⟩ := happend runToFailure (by simp)
  exact ⟨hmust, horder, hmust', horder'⟩

end Compiler

end BoardSearch
