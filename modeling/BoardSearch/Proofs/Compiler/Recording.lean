import BoardSearch.Log.Timing
import BoardSearch.Proofs.Compiler.Refusal

/-!
# What a build writes to the log

A build is timed, so the last thing it writes says how it ended. Of its stages only the
comparison with the limit writes something, and only where there are too many tags. So the
log of a build and the way in which it ended can be told from each other, unless the build was
broken off or the limit cannot be written out.

## Main definitions

* `Silent`: an operation writes nothing;
* `Compiler.rejected`, `Compiler.completed`, `Compiler.failed`: the records of a build;
* `Compiler.Accounted`: the records of a build tell how it ended;
* `Compiler.Unaccounted`: the ways in which a build ends that its records do not tell.

## Main statements

* `Compiler.build_timed`: the record at the end is that of a timed method;
* `Compiler.compile_events`: what a compilation writes before its end;
* `Compiler.build_accounted_iff`: when the records of a build tell how it ended.
-/

namespace BoardSearch

variable {α β : Type}

/-! ## Failures -/

/-- The reading of a request, of whatever value, fails by faults alone. -/
theorem Request.onlyFaults_ofValue (value : Value) : OnlyFaults (ofValue value) := by
  cases value with
  | mapping entries =>
    refine onlyFaults_bind (onlyFaults_mapM (fun entry => ?_) entries) fun _ => onlyFaults_ok _
    refine onlyFaults_bind (onlyFaults_written entry.1) fun _ => ?_
    exact onlyFaults_bind (failsIff_readMetatag entry.2).isFault fun _ => onlyFaults_ok _
  | request metatags => exact onlyFaults_ok _
  | _ => exact onlyFaults_error rfl

/-- What did not break an operation off is named by its kind. -/
theorem Ending.ofResult_error {failure : Failure} (h : ∀ kind, failure ≠ .interrupted kind) :
    Ending.ofResult (.error failure : Except Failure α) = .failed failure.kind := by
  unfold ofResult
  split
  · rename_i heq
    exact absurd heq nofun
  · rename_i kind heq
    exact absurd (Except.error.inj heq) (h kind)
  · rename_i heq
    rw [Except.error.inj heq]

/-! ## Operations that write nothing -/

/-- The operation writes nothing to the log. -/
def Silent (report : Report α) : Prop := report.events = []

/-- Where the next operation writes nothing, the log stays as it is. -/
theorem Report.events_andThen {report : Report α} {next : Compiler → α → Report β}
    (h : ∀ c a, Silent (next c a)) : (report.andThen next).events = report.events := by
  unfold Report.andThen
  cases report.result with
  | error failure => rfl
  | ok a =>
    show report.events ++ (next report.compiler a).events = report.events
    rw [h, List.append_nil]

namespace Compiler

variable {c : Compiler} {clock : Clock} {base : Option Search}

/-- Of the steps of a compilation only the comparison with the limit writes something. -/
theorem silent_runStage (c : Compiler) (now : Moment) (request : Request) {stage : Stage}
    (h : stage ≠ .tagCount) : Silent (c.runStage now request stage) := by
  cases stage with
  | tagCount => exact absurd rfl h
  | order =>
    show (c.collectOrder now request).events = []
    unfold collectOrder
    cases request.resolveOrder now <;> rfl
  | filters | source | votes | locks | array | single | wildcard => rfl

theorem silent_assemble (c : Compiler) (base : Option Search) : Silent (c.assemble base) := rfl

/-- What splits the query fails in the given way. -/
def SplittingFails (c : Compiler) (failure : Failure) : Prop :=
  ∃ text split, c.query.asText? = some text ∧ c.tokenizer = some split ∧
    split text = .error failure

theorem SplittingFails.parse {failure : Failure} (h : c.SplittingFails failure) :
    c.parse = .error failure := by
  obtain ⟨text, split, htext, hsplit, hfails⟩ := h
  simp only [Compiler.parse, htext, hsplit, hfails, bind, Except.bind]

/-- A request cannot be read where what splits the query fails or is missing, or by a fault. -/
theorem parse_eq_error {failure : Failure} (h : c.parse = .error failure) :
    c.SplittingFails failure ∨ failure = .noTokenizer ∨ failure.isFault = true := by
  unfold parse at h
  split at h
  · exact .inr (.inr (Request.onlyFaults_ofValue _ failure h))
  · rename_i text htext
    split at h
    · exact .inr (.inl (Except.error.inj h).symm)
    · rename_i split hsplit
      obtain hfails | ⟨value, -, h⟩ := bind_eq_error.mp h
      · exact .inl ⟨text, split, htext, hsplit, hfails⟩
      · exact .inr (.inr (Request.onlyFaults_ofValue value failure h))

/-! ## The records -/

/-- The record of a refusal, which names the number of tags and the limit. -/
def rejected (count : Int) (limit : String) : Log.Event :=
  ⟨.compiler, .info, some ("Rejected a search for " ++ toString count ++
    (if count = 1 then " tag" else " tags") ++ ", the limit is " ++ limit ++ ".")⟩

/-- The record of a build that returned a search. -/
def completed (watch : Stopwatch) : Log.Event :=
  ⟨.compiler, .debug, some ("Compiling post search: Completed. (elapsed time: " ++
    watch.elapsedText ++ " seconds)")⟩

/-- The record of a build that failed, which names the kind of the failure. -/
def failed (watch : Stopwatch) (kind : String) : Log.Event :=
  ⟨.compiler, .debug, some ("Compiling post search: Failed (raised " ++ kind ++
    "). (elapsed time: " ++ watch.elapsedText ++ " seconds)")⟩

/-- The records of a build tell how it ended. There is one that it was completed where it
returned a search. Where it refused the search there is one with the number of tags and the
limit, and then one that it failed; where it failed in another way there is that one alone. -/
def Accounted (session : Session) (watch : Stopwatch) :
    Except Failure Search → List Log.Event → Prop
  | .ok _, events => events = [completed watch]
  | .error (.tagLimit limit count), events =>
    limit = session.tagQueryLimit ∧ ∃ text, session.limitText? = some text ∧
      events = [rejected count text, failed watch "TagQueryLimitExceeded"]
  | .error failure, events => events = [failed watch failure.kind]

/-- The request names more tags than the session allows, in a number that can be written out. -/
def TooMany (session : Session) (request : Request) (count : Int) : Prop :=
  request.integer "tag_count" 0 = .ok count ∧ session.tagQueryLimit.IsBelow count ∧
    (Value.int count).hasText = true

/-- The ways in which a build ends that its records do not tell. -/
inductive Unaccounted (c : Compiler) : Prop where
  /-- What splits the query is broken off, and the record is that of a build that returned a
  search. -/
  | interrupted {kind : String} (h : c.SplittingFails (.interrupted kind))
  /-- What splits the query refuses the search, before any limit is looked at. -/
  | refused {limit : Value} {count : Int} (h : c.SplittingFails (.tagLimit limit count))
  /-- There are too many tags, and the limit cannot be written out. -/
  | unwritable {request : Request} {count : Int} (hparse : c.parse = .ok request)
      (hcount : TooMany c.session request count) (hlimit : c.session.limitText? = none)

theorem counted_tag (count : Int) : Value.counted (.int count) "tag" none =
    toString count ++ if count = 1 then " tag" else " tags" := by
  have hone : (Value.int count == .int 1) = (count == 1) := rfl
  have hshown : (Value.int count).shown = toString count := rfl
  unfold Value.counted
  rw [hone, hshown, String.append_assoc]
  by_cases h : count = 1
  · subst h
    rfl
  · rw [if_neg h, if_neg (by simpa using h)]
    rfl

theorem rejection_eq {count : Int} {limit : String} (h : c.session.limitText? = some limit) :
    c.rejection count = rejected count limit := by
  unfold rejection rejected
  rw [h, counted_tag]
  simp only [Option.map_some, String.append_assoc]

theorem completion_completed (watch : Stopwatch) :
    completion watch .completed = completed watch := by
  unfold completion completed Stopwatch.completion
  simp only [String.append_assoc]
  rfl

theorem completion_failed (watch : Stopwatch) (kind : String) :
    completion watch (.failed kind) = failed watch kind := by
  unfold completion failed Stopwatch.completion Ending.word
  simp only [String.append_assoc]
  rfl

/-- A build that was broken off is logged like one that returned a search. -/
theorem completion_interrupted (watch : Stopwatch) (kind : String) :
    completion watch (.interrupted kind) = completed watch :=
  completion_completed watch

theorem completed_ne_failed (watch : Stopwatch) (kind : String) :
    completed watch ≠ failed watch kind := by
  intro h
  -- the two differ in the letter after the title
  have hmessage := Option.some.inj (congrArg Log.Event.message? h)
  have hletter := congrArg (fun text => text.toList[23]?) hmessage
  simp only [String.append_assoc, String.toList_append] at hletter
  rw [List.getElem?_append_left (by decide), List.getElem?_append_left (by decide)] at hletter
  exact absurd hletter (by decide)

/-- A limit that is named can be written out, as the refusal has to. -/
theorem refusal_of_limitText? {session : Session} {limit : String}
    (h : session.limitText? = some limit) {count : Int} (hshort : (Value.int count).hasText = true) :
    session.refusal count = .tagLimit session.tagQueryLimit count := by
  have hlimit : session.tagQueryLimit.hasText = true := by
    unfold Session.limitText? at h
    split at h
    · rename_i heq
      rw [heq]
      rfl
    · rename_i heq
      rw [heq]
      rfl
    · cases htext : session.tagQueryLimit.hasText with
      | true => rfl
      | false => simp [htext] at h
  rw [Session.refusal, hshort, hlimit]
  rfl

/-! ## Builds -/

/-- What a timed method writes that does not announce its beginning: how it ended. -/
theorem timed_messages (watch : Stopwatch) (level : Log.Level) (title : String)
    (method : Except Failure α) : (Log.timed watch level title true true method).messages =
      [(level, watch.completion title (.ofResult method))] := rfl

/-- A build is a compilation that is timed: at the end it writes what a timed method does, to the
log of the compiler. -/
theorem build_timed (c : Compiler) (clock : Clock) (base : Option Search) :
    (c.build clock base).events = (c.compile clock.now base).events ++
      (Log.timed clock.watch .debug "Compiling post search" true true
        (c.compile clock.now base).result).messages.map fun message =>
          ⟨.compiler, message.1, some message.2⟩ := by
  rw [timed_messages]
  rfl

theorem build_events (c : Compiler) (clock : Clock) (base : Option Search) :
    (c.build clock base).events = (c.compile clock.now base).events ++
      [completion clock.watch (.ofResult (c.compile clock.now base).result)] := by
  rw [build_timed, timed_messages]
  rfl

/-- The comparison with the limit writes a record where there are too many tags, in a number that
can be written out. Else it writes none and fails by faults alone. -/
theorem enforceTagLimit_events (c : Compiler) (request : Request) :
    (∃ count, TooMany c.session request count ∧
        (c.enforceTagLimit request).result = .error (c.session.refusal count) ∧
        (c.enforceTagLimit request).events = [c.rejection count]) ∨
      (∀ count, ¬ TooMany c.session request count) ∧
        OnlyFaults (c.enforceTagLimit request).result ∧ Silent (c.enforceTagLimit request) := by
  unfold enforceTagLimit
  split
  · next failure hfails =>
    refine .inr ⟨fun count hmany => absurd (hfails.symm.trans hmany.1) nofun, ?_, rfl⟩
    exact onlyFaults_error (request.onlyFaults_integer "tag_count" 0 failure hfails)
  · next count hcount =>
    have hexceeded : ∀ {exceeded}, c.session.exceededBy count = exceeded →
        (∃ many, TooMany c.session request many) → exceeded = .ok true := by
      rintro _ rfl ⟨many, hmany, hbelow, -⟩
      obtain rfl := Except.ok.inj (hcount.symm.trans hmany)
      exact Session.exceededBy_eq_true.mpr hbelow
    split
    · next failure hfails =>
      refine .inr ⟨fun many hmany => absurd (hexceeded hfails ⟨many, hmany⟩) nofun, ?_, rfl⟩
      exact onlyFaults_error ((c.session.failsIff_exceededBy count).isFault failure hfails)
    · next hwithin =>
      exact .inr ⟨fun many hmany => absurd (hexceeded hwithin ⟨many, hmany⟩) (by simp),
        onlyFaults_ok (), rfl⟩
    · next habove =>
      -- the record names the number of tags, so that it is written only if that can be
      cases hshort : (Value.int count).hasText with
      | true =>
        have hbelow := Session.exceededBy_eq_true.mp habove
        exact .inl ⟨count, ⟨hcount, hbelow, hshort⟩, rfl, rfl⟩
      | false =>
        have hrefusal : c.session.refusal count = .numeral .unwritable := by
          rw [Session.refusal, hshort]
          rfl
        rw [hrefusal]
        refine .inr ⟨fun many hmany => ?_, onlyFaults_error rfl, rfl⟩
        obtain rfl := Except.ok.inj (hcount.symm.trans hmany.1)
        exact absurd (hshort.symm.trans hmany.2.2) Bool.false_ne_true

/-- After the comparison with the limit a compilation writes nothing. -/
theorem compile_events (hparse : c.parse = .ok request) (now : Moment) (base : Option Search) :
    (c.compile now base).events = (c.reset.enforceTagLimit request).events := by
  have hreset : c.reset.parse = c.parse := rfl
  have hfilters : ∀ (c : Compiler) (_ : Unit), Silent (c.runStage now request .filters) :=
    fun c _ => c.silent_runStage now request nofun
  have horder : ∀ (c : Compiler) (_ : Unit), Silent (c.runStage now request .order) :=
    fun c _ => c.silent_runStage now request nofun
  unfold compile
  dsimp only
  rw [hreset, hparse]
  dsimp only
  rw [Report.events_andThen fun c _ => c.silent_assemble base, Report.events_andThen horder,
    Report.events_andThen hfilters]
  rfl

/-- Without a request a compilation fails as the reading of it did, and has written nothing. -/
theorem compile_of_parse_error {failure : Failure} (hparse : c.parse = .error failure)
    (now : Moment) (base : Option Search) :
    (c.compile now base).result = .error failure ∧ Silent (c.compile now base) := by
  have hreset : c.reset.parse = c.parse := rfl
  unfold Silent compile
  dsimp only
  rw [hreset, hparse]
  exact ⟨rfl, rfl⟩

/-- With a request a compilation has written that there are too many tags and fails for that; or
it has written nothing and fails by faults alone. -/
theorem compile_of_parse (hparse : c.parse = .ok request) (now : Moment) (base : Option Search) :
    (∃ count, TooMany c.session request count ∧
        (c.compile now base).result = .error (c.session.refusal count) ∧
        (c.compile now base).events = [c.rejection count]) ∨
      (∀ count, ¬ TooMany c.session request count) ∧
        OnlyFaults (c.compile now base).result ∧ Silent (c.compile now base) := by
  have hevents := compile_events hparse now base
  have hchecked : (c.reset.enforceTagLimit request).result = c.session.tagCheck request :=
    (enforceTagLimit_result c.reset request).2
  rw [compile_result_of_parse hparse, hchecked.symm]
  obtain ⟨count, hmany, hrefused, hrecord⟩ | ⟨hfew, hfaults, hsilent⟩ :=
    c.reset.enforceTagLimit_events request
  · exact .inl ⟨count, hmany, bind_eq_error.mpr (.inl hrefused), hevents.trans hrecord⟩
  · exact .inr ⟨hfew, onlyFaults_bind hfaults fun _ => c.onlyFaults_afterCheck now request base,
      hevents.trans hsilent⟩

/-! ## Accounts -/

section

variable {session : Session} {watch : Stopwatch} {failure : Failure}

theorem accounted_error_iff (h : ∀ limit count, failure ≠ .tagLimit limit count)
    {events : List Log.Event} :
    Accounted session watch (.error failure) events ↔ events = [failed watch failure.kind] := by
  unfold Accounted
  split
  · rename_i heq
    exact absurd heq nofun
  · rename_i limit count heq
    exact absurd (Except.error.inj heq) (h limit count)
  · rename_i heq
    rw [Except.error.inj heq]

/-- A build that failed in a way that is told apart from the others is accounted for. -/
theorem accounted_of_failure (hrefusal : ∀ limit count, failure ≠ .tagLimit limit count)
    (hinterruption : ∀ kind, failure ≠ .interrupted kind) :
    Accounted session watch (.error failure)
      [completion watch (.ofResult (.error failure : Except Failure Search))] := by
  rw [accounted_error_iff hrefusal, Ending.ofResult_error hinterruption, completion_failed]

/-- Where no request could be read, nothing is told of an interruption or of a refusal. -/
theorem accounted_of_parse_error (hparse : c.parse = .error failure) :
    Accounted c.session watch (.error failure)
      [completion watch (.ofResult (.error failure : Except Failure Search))] ↔
        ¬ c.Unaccounted := by
  constructor
  · rintro haccounted (hfails | hfails | ⟨hread, -, -⟩)
    · obtain rfl := Except.error.inj (hparse.symm.trans hfails.parse)
      have hevents := (accounted_error_iff fun _ _ => Failure.noConfusion).mp haccounted
      rw [Ending.ofResult, completion_interrupted] at hevents
      exact completed_ne_failed _ _ (List.head_eq_of_cons_eq hevents)
    · obtain rfl := Except.error.inj (hparse.symm.trans hfails.parse)
      obtain ⟨-, _, -, hevents⟩ := haccounted
      exact absurd (congrArg List.length hevents) (by simp)
    · exact absurd (hparse.symm.trans hread) nofun
  · intro hnot
    have hcause := parse_eq_error hparse
    refine accounted_of_failure ?_ ?_
    · rintro limit count rfl
      obtain hfails | hnone | hfault := hcause
      · exact hnot (.refused hfails)
      · exact absurd hnone nofun
      · exact absurd hfault Bool.false_ne_true
    · rintro kind rfl
      obtain hfails | hnone | hfault := hcause
      · exact hnot (.interrupted hfails)
      · exact absurd hnone nofun
      · exact absurd hfault Bool.false_ne_true

/-- A request that was read leaves but one way in which the records do not tell the end. -/
theorem unaccounted_iff (hparse : c.parse = .ok request) :
    c.Unaccounted ↔ (∃ count, TooMany c.session request count) ∧ c.session.limitText? = none := by
  constructor
  · rintro (hfails | hfails | ⟨hread, hmany, hlimit⟩)
    · exact absurd (hparse.symm.trans hfails.parse) nofun
    · exact absurd (hparse.symm.trans hfails.parse) nofun
    · obtain rfl := Except.ok.inj (hparse.symm.trans hread)
      exact ⟨⟨_, hmany⟩, hlimit⟩
  · rintro ⟨⟨count, hmany⟩, hlimit⟩
    exact .unwritable hparse hmany hlimit

/-- Where there are too many tags, that is told together with the limit, if it has a name. -/
theorem accounted_of_tooMany {count : Int} (hmany : TooMany session request count)
    (hsession : c.session = session) :
    Accounted session watch (.error (session.refusal count)) [c.rejection count,
      completion watch (.ofResult (.error (session.refusal count) : Except Failure Search))] ↔
        session.limitText? ≠ none := by
  subst hsession
  cases hlimit : c.session.limitText? with
  | none =>
    refine iff_of_false ?_ (fun hnot => hnot rfl)
    unfold Session.refusal
    split
    · rintro ⟨-, _, hnamed, -⟩
      exact absurd (hlimit.symm.trans hnamed) nofun
    · rw [accounted_error_iff fun _ _ => Failure.noConfusion]
      intro hevents
      exact absurd (congrArg List.length hevents) (by simp)
  | some limit =>
    refine iff_of_true ?_ nofun
    rw [refusal_of_limitText? hlimit hmany.2.2, rejection_eq hlimit]
    rw [Ending.ofResult_error fun _ => Failure.noConfusion, completion_failed]
    exact ⟨rfl, limit, hlimit, rfl⟩

end

/-- The records of a build tell how it ended unless what splits the query is broken off or
refuses the search itself, or there are too many tags for a limit that cannot be written out. A
limit that is an integer is named by its digits. -/
theorem build_accounted_iff (c : Compiler) (clock : Clock) (base : Option Search) :
    (Accounted c.session clock.watch (c.build clock base).result (c.build clock base).events ↔
      ¬ c.Unaccounted) ∧
    ∀ n, c.session.tagQueryLimit = .int n → Value.isShort n = true →
      c.session.limitText? = some (toString n) := by
  constructor
  · rw [build_events, build_result]
    cases hparse : c.parse with
    | error failure =>
      obtain ⟨hresult, hsilent⟩ := compile_of_parse_error hparse clock.now base
      rw [hresult, hsilent]
      exact accounted_of_parse_error hparse
    | ok request =>
      rw [unaccounted_iff hparse]
      obtain ⟨count, hmany, hresult, hrecord⟩ | ⟨hfew, hfaults, hsilent⟩ :=
        compile_of_parse hparse clock.now base
      · rw [hresult, hrecord, not_and]
        exact (accounted_of_tooMany hmany rfl).trans ⟨fun h _ => h, fun h => h ⟨count, hmany⟩⟩
      · rw [hsilent]
        refine iff_of_true ?_ fun h => h.1.elim hfew
        cases hresult : (c.compile clock.now base).result with
        | ok search => exact congrArg (fun event => [event]) (completion_completed clock.watch)
        | error failure =>
          have hfault := hfaults failure hresult
          refine accounted_of_failure ?_ ?_
          · rintro limit count rfl
            exact absurd hfault Bool.false_ne_true
          · rintro kind rfl
            exact absurd hfault Bool.false_ne_true
  · intro n hn hshort
    unfold Session.limitText?
    rw [hn]
    exact if_pos hshort

/-- A search for 41 tags, on top of a base with a sort that is none. The refusal comes first, so
the flaw of the base is not told. -/
theorem build_accounted_iff_refused :
    ∃ base : Search, Search.ofBody none (.record [("sort", .int 5)]) = .ok base ∧
      base.flaw = some .mistyped ∧
      let c := new (.record [("tag_count", .text "41 tags")]) .anonymous none
      Accounted c.session Clock.leapDay.watch (c.build .leapDay (some base)).result
        (c.build .leapDay (some base)).events := by
  obtain ⟨base, hbase, hflaw⟩ : ∃ base : Search,
      Search.ofBody none (.record [("sort", .int 5)]) = .ok base ∧ base.flaw = some .mistyped :=
    ⟨_, rfl, rfl⟩
  refine ⟨base, hbase, hflaw, ?_⟩
  intro c
  have hparse : c.parse = .ok ⟨[("tag_count", .text "41 tags")]⟩ := rfl
  have hlimit : c.session.tagQueryLimit = .int 40 := rfl
  have hshort : Value.isShort 40 = true := by decide +kernel
  clear_value c
  have haccount := build_accounted_iff c .leapDay (some base)
  have hnamed := haccount.2 40 hlimit hshort
  refine haccount.1.mpr fun hnot => ?_
  exact absurd (hnamed.symm.trans ((unaccounted_iff hparse).mp hnot).2) nofun

/-- A build that is broken off while the query is split is logged as completed. -/
theorem build_interrupted_completed :
    let c := new (.text "cat") .anonymous (some fun _ => .error (.interrupted "SystemExit"))
    (c.build .leapDay none).result = .error (.interrupted "SystemExit") ∧
      (c.build .leapDay none).events = [completed .still] ∧
      ¬ Accounted c.session .still (c.build .leapDay none).result
        (c.build .leapDay none).events := by
  intro c
  have hsplits : c.SplittingFails (.interrupted "SystemExit") := ⟨"cat", _, rfl, rfl, rfl⟩
  obtain ⟨hresult, hsilent⟩ := compile_of_parse_error hsplits.parse Clock.leapDay.now none
  have hevents : (c.build .leapDay none).events = [completed .still] := by
    rw [build_events, hresult, hsilent, Ending.ofResult, completion_interrupted]
    rfl
  refine ⟨hresult, hevents, ?_⟩
  rw [hevents, build_result, hresult, accounted_error_iff fun _ _ => Failure.noConfusion]
  exact fun heq => completed_ne_failed _ _ (List.head_eq_of_cons_eq heq)

end Compiler

end BoardSearch
