import BoardSearch.Compiler.Operation
import BoardSearch.Proofs.Compiler.Result

/-!
# Builds after a history

A compiler can be used for anything before it builds: for other builds, for single steps,
for parts of a search that were never put together. A build starts over, so nothing of
this shows in it. What it leaves can be put together again and again.

## Main statements

* `Compiler.runAll_tokenizer`: no operation changes what splits a text into metatags;
* `Compiler.assemble_again`: putting together once more changes nothing;
* `Compiler.resolveOrder_of_not_rank`: only the rank looks at the clock;
* `Compiler.build_forgets_history`: a build is that of a new compiler.
-/

namespace BoardSearch

/-- An operation that went on from a result has the state of the second part. -/
theorem Report.andThen_eq_ok {α β : Type} {report : Report α} {next : Compiler → α → Report β}
    {b : β} (h : (report.andThen next).result = .ok b) :
    ∃ a, report.result = .ok a ∧ (next report.compiler a).result = .ok b ∧
      (report.andThen next).compiler = (next report.compiler a).compiler := by
  rw [Report.andThen_result] at h
  obtain ⟨a, hfirst, hnext⟩ := bind_eq_ok.mp h
  refine ⟨a, hfirst, hnext, ?_⟩
  unfold Report.andThen
  rw [hfirst]

/-- The order of a request depends on the time only if it is the rank. -/
theorem Request.resolveOrder_of_not_rank {request : Request}
    (h : request.orderToken? ≠ .ok (some Order.rank)) (now now' : Moment) :
    request.resolveOrder now = request.resolveOrder now' := by
  unfold resolveOrder
  cases htoken : request.orderToken? with
  | error failure => rfl
  | ok token? =>
    cases token? with
    | none => rfl
    | some token =>
      have hrank : token ≠ Order.rank := fun heq => h (heq ▸ htoken)
      have hrequirements : Order.requirements now token = Order.requirements now' token := by
        unfold Order.requirements
        rw [if_neg hrank, if_neg hrank]
      show (Order.requirements now token >>= fun _ => _) =
        (Order.requirements now' token >>= fun _ => _)
      rw [hrequirements]

namespace Compiler

/-! ## The tokenizer -/

theorem andThen_tokenizer {α β : Type} {report : Report α} {next : Compiler → α → Report β}
    {tokenizer : Option Tokenizer} (h : report.compiler.tokenizer = tokenizer)
    (hnext : ∀ c a, c.tokenizer = tokenizer → (next c a).compiler.tokenizer = tokenizer) :
    (report.andThen next).compiler.tokenizer = tokenizer := by
  unfold Report.andThen
  cases report.result with
  | error failure => exact h
  | ok a => exact hnext report.compiler a h

theorem runStage_tokenizer (c : Compiler) (now : Moment) (request : Request) (stage : Stage) :
    (c.runStage now request stage).compiler.tokenizer = c.tokenizer := by
  cases stage with
  | tagCount =>
    show (c.enforceTagLimit request).compiler.tokenizer = c.tokenizer
    rw [(enforceTagLimit_result c request).1]
  | order =>
    show (c.collectOrder now request).compiler.tokenizer = c.tokenizer
    unfold collectOrder
    cases request.resolveOrder now <;> rfl
  | filters | source | votes | locks | array | single | wildcard => rfl

theorem perform_tokenizer (c : Compiler) (now : Moment) (stage : Stage) :
    (c.perform now stage).compiler.tokenizer = c.tokenizer := by
  unfold perform
  cases c.parse with
  | error failure => rfl
  | ok request => exact runStage_tokenizer c now request stage

theorem assemble_tokenizer (c : Compiler) (base : Option Search) :
    (c.assemble base).compiler.tokenizer = c.tokenizer := by
  show c.withRequirement.tokenizer = c.tokenizer
  unfold withRequirement
  split <;> rfl

theorem build_tokenizer (c : Compiler) (clock : Clock) (base : Option Search) :
    (c.build clock base).compiler.tokenizer = c.tokenizer := by
  show (c.compile clock.now base).compiler.tokenizer = c.tokenizer
  unfold compile
  dsimp only
  cases c.reset.parse with
  | error failure => rfl
  | ok request =>
    have hstage : ∀ (stage : Stage) (c' : Compiler) (_ : Unit), c'.tokenizer = c.tokenizer →
        (c'.runStage clock.now request stage).compiler.tokenizer = c.tokenizer :=
      fun stage c' _ hc' => (runStage_tokenizer c' clock.now request stage).trans hc'
    refine andThen_tokenizer (andThen_tokenizer (andThen_tokenizer ?_ (hstage .filters))
      (hstage .order)) fun c' _ hc' => (assemble_tokenizer c' base).trans hc'
    exact hstage .tagCount c.reset () rfl

/-- No operation changes what splits a text into metatags. -/
theorem run_tokenizer (c : Compiler) (clock : Clock) (operation : Operation) :
    (c.run clock operation).compiler.tokenizer = c.tokenizer := by
  cases operation with
  | build base => exact build_tokenizer c clock base
  | assemble base => exact andThen_tokenizer (assemble_tokenizer c base) fun _ _ hc => hc
  | stage stage => exact andThen_tokenizer (perform_tokenizer c clock.now stage) fun _ _ hc => hc
  | addTags grouping excluded => exact andThen_tokenizer rfl fun _ _ hc => hc
  | reset | setQuery | setSession => rfl

theorem runAll_tokenizer (c : Compiler) (history : List (Clock × Operation)) :
    (c.runAll history).tokenizer = c.tokenizer := by
  unfold runAll
  induction history generalizing c with
  | nil => rfl
  | cons entry rest ih =>
    rw [List.foldl_cons, ih]
    exact run_tokenizer c entry.1 entry.2

/-! ## Putting together again -/

theorem withRequirement_withRequirement (c : Compiler) :
    c.withRequirement.withRequirement = c.withRequirement := by
  by_cases hmust : c.must.isEmpty = true
  · simp [withRequirement, hmust]
  · simp [withRequirement, hmust]

/-- Putting together keeps what was collected, with something required, and puts the same
together once more. -/
theorem assemble_again (c : Compiler) (base : Option Search) :
    (c.assemble base).compiler.assemble base = c.assemble base := by
  show c.withRequirement.assemble base = c.assemble base
  unfold assemble
  rw [withRequirement_withRequirement]

/-- A build that succeeds has put together what it leaves. -/
theorem assemble_of_build {c : Compiler} {clock : Clock} {base : Option Search} {search : Search}
    (h : (c.build clock base).result = .ok search) :
    (c.build clock base).compiler.assemble base =
      ⟨(c.build clock base).compiler, [], .ok search⟩ := by
  change (c.compile clock.now base).result = .ok search at h
  show (c.compile clock.now base).compiler.assemble base =
    ⟨(c.compile clock.now base).compiler, [], .ok search⟩
  -- the last stage is the one that puts together, on whatever the others have collected
  obtain ⟨filled, hcompiler, hresult⟩ : ∃ filled : Compiler,
      (c.compile clock.now base).compiler = (filled.assemble base).compiler ∧
        (filled.assemble base).result = .ok search := by
    unfold compile at h ⊢
    dsimp only at h ⊢
    cases hparse : c.reset.parse with
    | error failure => simp [hparse] at h
    | ok request =>
      simp only [hparse] at h
      obtain ⟨_, _, hassemble, hcompiler⟩ := Report.andThen_eq_ok h
      exact ⟨_, hcompiler, hassemble⟩
  rw [hcompiler, assemble_again]
  show (⟨(filled.assemble base).compiler, [], (filled.assemble base).result⟩ : Report Search) = _
  rw [hresult]

/-- However often the same is put together, the state stays as it is. -/
theorem runAll_assemble {c : Compiler} {base : Option Search} {search : Search}
    (h : c.assemble base = ⟨c, [], .ok search⟩) (times : List Clock) :
    c.runAll (times.map fun time => (time, .assemble base)) = c := by
  have hrun : ∀ time, (c.run time (.assemble base)).compiler = c := by
    intro time
    show ((c.assemble base).andThen _).compiler = c
    rw [h]
    rfl
  induction times with
  | nil => rfl
  | cons time rest ih =>
    show (c.run time (.assemble base)).compiler.runAll
      (rest.map fun time => (time, .assemble base)) = c
    rw [hrun]
    exact ih

/-! ## The clock -/

/-- A build in an order other than the rank is the same at any time. -/
theorem compile_of_not_rank {c : Compiler}
    (h : ∀ request, c.parse = .ok request → request.orderToken? ≠ .ok (some Order.rank))
    (now now' : Moment) (base : Option Search) : c.compile now base = c.compile now' base := by
  have hparse : c.reset.parse = c.parse := rfl
  unfold compile
  dsimp only
  rw [hparse]
  cases hrequest : c.parse with
  | error failure => rfl
  | ok request =>
    have horder := Request.resolveOrder_of_not_rank (h request hrequest) now now'
    have hstage : (fun (c' : Compiler) (_ : Unit) => c'.runStage now request .order) =
        fun c' _ => c'.runStage now' request .order := by
      funext c' _
      show c'.collectOrder now request = c'.collectOrder now' request
      unfold collectOrder
      rw [horder]
    dsimp only
    rw [hstage]
    rfl

/-- Two compilations that are the same make builds that end alike and leave the same. -/
theorem build_congr {c c' : Compiler} {clock clock' : Clock} {base : Option Search}
    (h : c.compile clock.now base = c'.compile clock'.now base) :
    (c.build clock base).result = (c'.build clock' base).result ∧
      (c.build clock base).compiler = (c'.build clock' base).compiler := by
  show (c.compile clock.now base).result = (c'.compile clock'.now base).result ∧
    (c.compile clock.now base).compiler = (c'.compile clock'.now base).compiler
  rw [h]
  exact ⟨rfl, rfl⟩

/-- After any history a build ends as that of a new compiler with the same query, session
and tokenizer, and leaves the same behind. Once it has succeeded the same search can be put
together any number of times, and this changes nothing. Unless the order is the rank, the
time makes no difference. -/
theorem build_forgets_history (query : Value) (session : Session)
    (tokenizer : Option Tokenizer) (history : List (Clock × Operation)) (clock : Clock)
    (base : Option Search) :
    let c := (new query session tokenizer).runAll history
    let report := c.build clock base
    let fresh := (new c.query c.session tokenizer).build clock base
    (report.result = fresh.result ∧ report.compiler = fresh.compiler) ∧
    (∀ search, report.result = .ok search → ∀ times : List Clock,
      report.compiler.runAll (times.map fun time => (time, .assemble base)) = report.compiler ∧
        (report.compiler.runAll (times.map fun time => (time, .assemble base))).assemble base =
          ⟨report.compiler, [], .ok search⟩) ∧
    ((∀ request, c.parse = .ok request → request.orderToken? ≠ .ok (some Order.rank)) →
      ∀ clock' : Clock, (c.build clock' base).result = report.result ∧
        (c.build clock' base).compiler = report.compiler) := by
  intro c report fresh
  refine ⟨?_, ?_, ?_⟩
  · -- a build begins with the state of a new compiler
    have htokenizer : c.tokenizer = tokenizer :=
      runAll_tokenizer (new query session tokenizer) history
    have hreset : c.reset = new c.query c.session tokenizer := by
      rw [← htokenizer]
      rfl
    refine build_congr ?_
    unfold compile
    rw [hreset]
    rfl
  · intro search hsearch times
    have hassemble := assemble_of_build hsearch
    have hlater := runAll_assemble hassemble times
    exact ⟨hlater, (congrArg (·.assemble base) hlater).trans hassemble⟩
  · intro hrank clock'
    exact build_congr (compile_of_not_rank hrank clock'.now clock.now base)

/-- A build failed for want of metatags, tags were collected in a single step, and then
something is searched for. -/
theorem build_forgets_history_failed :
    let c := (new .null .anonymous none).runAll
      [(.leapDay, .build none), (.leapDay, .addTags ⟨[], [], [.text "cat"]⟩ false),
        (.leapDay, .setQuery (.record [("rating", .text "s")]))]
    c.must.length = 1 ∧
      (c.build .leapDay none).result =
        ((new (.record [("rating", .text "s")]) .anonymous none).build .leapDay none).result ∧
      ∀ clock : Clock, (c.build clock none).result = (c.build .leapDay none).result := by
  intro c
  obtain ⟨⟨hresult, _⟩, _, htime⟩ := build_forgets_history .null .anonymous none
    [(.leapDay, .build none),
      (.leapDay, .addTags ⟨[], [], [.text "cat"]⟩ false),
      (.leapDay, .setQuery (.record [("rating", .text "s")]))] .leapDay none
  refine ⟨rfl, hresult, fun clock => (htime ?_ clock).1⟩
  intro request hparse
  obtain rfl : (⟨[("rating", .text "s")]⟩ : Request) = request := Except.ok.inj hparse
  show (.ok none : Except Failure (Option String)) ≠ .ok (some Order.rank)
  simp

end Compiler

end BoardSearch
