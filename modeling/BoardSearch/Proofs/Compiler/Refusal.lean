import BoardSearch.Compiler.Operation
import BoardSearch.Proofs.Compiler.Base
import BoardSearch.Proofs.Compiler.Breaking
import BoardSearch.Search.Body

/-!
# Refusals

A build refuses a search that names more tags than the session allows. It compares the two
numbers before anything else is made of the request, so nothing that is wrong with the
request can come before the refusal, and nothing of a refused search is left.

## Main definitions

* `Value.IsBelow`: a value is a number below an integer.

## Main statements

* `Session.exceededBy_eq_true`: what the comparison with the limit says;
* `Session.tagCheck_eq_refusal`: when that comparison refuses a search;
* `Request.onlyFaults_filterContribution`, `Request.onlyFaults_resolveOrder`: what
  comes after it refuses nothing, but fails by faults alone;
* `Compiler.build_refuses_iff`: a build refuses a search just where there are too many tags,
  and then nothing is left of it.
-/

namespace BoardSearch

variable {α β : Type}

theorem onlyFaults_written (value : Value) : OnlyFaults value.written := by
  unfold Value.written
  split
  · exact onlyFaults_ok _
  · exact onlyFaults_error rfl

/-! ## Filters -/

namespace Contribution

theorem onlyFaults_whole {c : Contribution} (h : c.failure = .none) :
    OnlyFaults c.outcome := by
  rw [outcome_eq_ok.mpr h]
  exact onlyFaults_ok ()

/-- Contributions in a row refuse nothing if none of them does. -/
theorem onlyFaults_all {cs : List Contribution} (h : ∀ c ∈ cs, OnlyFaults c.outcome) :
    OnlyFaults (all cs).outcome := by
  induction cs with
  | nil => exact onlyFaults_ok ()
  | cons c cs ih =>
    obtain ⟨hc, hcs⟩ := List.forall_mem_cons.mp h
    have hcons : all (c :: cs) = c.andThen (all cs) := rfl
    rw [hcons, outcome_andThen]
    exact onlyFaults_bind hc fun _ => ih hcs

/-- The contribution of a value refuses nothing if there is no value on which it does. -/
theorem onlyFaults_ofOption {value : Option Value} {contribution : Value → Contribution}
    {failsOn : Value → Prop} (h : ∀ a, FailsIff (contribution a).outcome (failsOn a)) :
    OnlyFaults (ofOption value contribution).outcome :=
  (failsIff_ofOption fun a _ => h a).isFault

end Contribution

namespace Request

open Contribution

variable (request : Request)

theorem onlyFaults_pair {value value' : Option Value}
    {contribution contribution' : Value → Contribution} {failsOn failsOn' : Value → Prop}
    (h : ∀ a, FailsIff (contribution a).outcome (failsOn a))
    (h' : ∀ a, FailsIff (contribution' a).outcome (failsOn' a)) :
    OnlyFaults (all [ofOption value contribution, ofOption value' contribution']).outcome := by
  refine onlyFaults_all ?_
  simp only [List.forall_mem_cons, List.mem_nil_iff, false_implies, implies_true, and_true]
  exact ⟨onlyFaults_ofOption h, onlyFaults_ofOption h'⟩

theorem onlyFaults_showsDeleted (name : String) :
    OnlyFaults (request.showsDeleted name) := by
  unfold showsDeleted
  split
  · exact onlyFaults_ok _
  · split
    · exact onlyFaults_ok _
    · exact onlyFaults_error rfl

theorem onlyFaults_visibility (adminMode : Bool) :
    OnlyFaults (request.visibilityContribution adminMode).outcome := by
  have hhides : OnlyFaults (request.hidesDeleted adminMode) := by
    unfold hidesDeleted
    cases adminMode with
    | true => exact onlyFaults_ok false
    | false =>
      refine onlyFaults_bind (request.onlyFaults_showsDeleted "status") fun shows => ?_
      cases shows with
      | true => exact onlyFaults_ok false
      | false =>
        refine onlyFaults_bind (request.onlyFaults_showsDeleted "status_neg") fun _ => ?_
        exact onlyFaults_ok _
  unfold visibilityContribution
  split
  · rename_i failure hfails
    exact onlyFaults_error (hhides failure hfails)
  · exact onlyFaults_ok ()
  · exact onlyFaults_ok ()

/-- The filters of a request, of whatever values, refuse nothing. -/
theorem onlyFaults_filterContribution (safeMode adminMode : Bool) :
    OnlyFaults (request.filterContribution safeMode adminMode).outcome := by
  have hlike := fun field pattern => failsIff_like field pattern .require fun _ => rfl
  have hnegated := fun field pattern => failsIff_like field pattern .exclude fun _ => rfl
  have hparts : ∀ part ∈ filterParts safeMode adminMode,
      OnlyFaults (part request).outcome := by
    simp only [filterParts, List.forall_mem_append, List.forall_mem_map,
      List.forall_mem_cons, List.mem_nil_iff, false_implies, implies_true, and_true]
    refine ⟨⟨⟨⟨⟨⟨⟨⟨?safety, ?ranges, ?counts⟩, ?conditions⟩, ?arrays⟩, ?singles⟩, ?others⟩,
      ?presence⟩, ?flags⟩, ?tags⟩
    case safety => exact onlyFaults_whole (failure_safety safeMode)
    case ranges => exact fun metatag _ => onlyFaults_whole (failure_range request _ _)
    case counts => exact fun metatag _ => onlyFaults_whole (failure_range request _ _)
    case conditions =>
      exact ⟨onlyFaults_whole request.failure_checksum,
        onlyFaults_whole request.failure_status, request.onlyFaults_visibility adminMode,
        onlyFaults_pair failsIff_sourceOf failsIff_negatedSourceOf⟩
    case arrays => exact fun metatag _ => onlyFaults_whole (failure_array request _ _ _)
    case singles => exact fun metatag _ => onlyFaults_whole (failure_single request _ _)
    case others =>
      exact ⟨onlyFaults_whole request.failure_vote,
        onlyFaults_pair (hlike "del_reason") (hnegated "del_reason"),
        onlyFaults_whole request.failure_identifier,
        onlyFaults_whole request.failure_child, (failsIff_lock request).isFault⟩
    case presence => exact fun metatag _ => onlyFaults_whole (failure_presence request _ _)
    case flags =>
      exact fun metatag _ => onlyFaults_whole (failure_ofOption fun _ => rfl)
    case tags => exact onlyFaults_whole request.failure_tag
  refine onlyFaults_all fun c hc => ?_
  obtain ⟨part, hpart, rfl⟩ := List.mem_map.mp hc
  exact hparts part hpart

end Request

/-! ## The order -/

namespace Request

variable (request : Request)

theorem onlyFaults_integer (name : String) (default : Int) :
    OnlyFaults (request.integer name default) := by
  have hinteger : ∀ value, OnlyFaults (integerOf? value) := by
    intro value
    unfold integerOf?
    split
    · exact onlyFaults_ok _
    · exact onlyFaults_ok _
    · refine onlyFaults_bind (onlyFaults_written _) fun text => ?_
      cases Text.Numeral.ofPrefix? text.toList with
      | none => exact onlyFaults_ok none
      | some numeral => exact numeral.failsIff_toInt.isFault
  unfold integer integer?
  refine onlyFaults_map ?_ _
  split
  · exact onlyFaults_ok none
  · exact hinteger _

/-- The order of a request, of whatever values, refuses nothing. -/
theorem onlyFaults_resolveOrder (now : Moment) : OnlyFaults (request.resolveOrder now) := by
  have htoken : OnlyFaults request.orderToken? := by
    unfold orderToken?
    split
    · exact onlyFaults_ok none
    · exact onlyFaults_map (onlyFaults_written _) some
  have hseed : OnlyFaults request.randomScoring := by
    unfold randomScoring
    split
    · exact onlyFaults_ok _
    · exact onlyFaults_map (request.onlyFaults_integer "random" 0) _
  unfold resolveOrder
  refine onlyFaults_bind htoken fun token? => ?_
  cases token? with
  | none => exact onlyFaults_ok _
  | some token =>
    refine onlyFaults_bind (failsIff_requirements now token).isFault fun _ => ?_
    split
    · exact onlyFaults_ok _
    · split
      · exact onlyFaults_bind hseed fun _ => onlyFaults_ok _
      · exact onlyFaults_ok _

end Request

/-! ## The limit -/

/-- The number is less than an integer. -/
def Binary64.IsBelow (n : Int) : Binary64 → Prop
  | .finite negative mantissa exponent =>
    let (p, q) := ratio mantissa exponent
    signed negative p < n * q
  | .infinite negative => negative = true
  | .nan => False

/-- The value is a number that is less than an integer, a truth value being 0 or 1. -/
def Value.IsBelow (n : Int) : Value → Prop
  | .bool b => (if b then 1 else 0) < n
  | .int m => m < n
  | .float x => x.IsBelow n
  | _ => False

theorem Binary64.compareInt?_eq_gt {n : Int} {x : Binary64} :
    compareInt? n x = some .gt ↔ x.IsBelow n := by
  cases x with
  | finite negative mantissa exponent =>
    unfold compareInt? IsBelow
    simp only [Option.some.injEq]
    exact Int.compare_eq_gt
  | infinite negative => cases negative <;> simp [compareInt?, IsBelow]
  | nan => simp [compareInt?, IsBelow]

namespace Session

variable {session : Session} {request : Request}

/-- A number of tags is more than the session allows where the limit is less. -/
theorem exceededBy_eq_true {count : Int} :
    session.exceededBy count = .ok true ↔ session.tagQueryLimit.IsBelow count := by
  unfold exceededBy Value.IsBelow
  cases session.tagQueryLimit with
  | bool b => simp
  | int m => simp
  | float x => simp [← Binary64.compareInt?_eq_gt]
  | _ => simp

theorem tagCheck_of_isBelow {count : Int} (hcount : request.integer "tag_count" 0 = .ok count)
    (hbelow : session.tagQueryLimit.IsBelow count) :
    session.tagCheck request = .error (session.refusal count) := by
  have hexceeded := exceededBy_eq_true.mpr hbelow
  simp only [tagCheck, hcount, hexceeded, bind, Except.bind, if_true]

/-- A limit that is less than some number of tags can be written out, unless it is a
negative integer of too many digits. -/
theorem hasText_of_isBelow {limit : Value} {count : Int} (h : limit.IsBelow count)
    (hshort : Value.isShort count = true)
    (hlimit : ∀ n, limit = .int n → n < 0 → Value.isShort n = true) : limit.hasText = true := by
  cases limit with
  | int n =>
    show Value.isShort n = true
    by_cases hneg : n < 0
    · exact hlimit n rfl hneg
    · -- between zero and a short integer
      have hbelow : n < count := h
      have hcount : count.natAbs < Nat.pow 10 Text.maxDigits := by
        simpa [Value.isShort] using hshort
      simp only [Value.isShort, decide_eq_true_eq]
      omega
  | bool | float => rfl
  | _ => exact h.elim

/-- The comparison with the limit refuses a request that names more tags than the limit,
where the refusal can be written out; and it names the two numbers. -/
theorem tagCheck_eq_refusal {limit : Value} {count : Int} :
    session.tagCheck request = .error (.tagLimit limit count) ↔
      request.integer "tag_count" 0 = .ok count ∧ limit = session.tagQueryLimit ∧
        limit.IsBelow count ∧ (Value.int count).hasText = true ∧ limit.hasText = true := by
  unfold tagCheck
  rw [bind_eq_error]
  constructor
  · rintro (hfails | ⟨count', hcount, h⟩)
    · exact absurd hfails ((request.onlyFaults_integer "tag_count" 0).ne_refusal limit count)
    obtain hfails | ⟨exceeded, hexceeded, h⟩ := bind_eq_error.mp h
    · exact absurd hfails ((failsIff_exceededBy session count').not_refusal limit count)
    cases exceeded with
    | false => simp [pure, Except.pure] at h
    | true =>
      rw [if_pos rfl, refusal] at h
      split at h
      · rename_i htext
        obtain ⟨hlimit, rfl⟩ := Failure.tagLimit.inj (Except.error.inj h)
        obtain ⟨hcountText, hlimitText⟩ := Bool.and_eq_true_iff.mp htext
        subst hlimit
        exact ⟨hcount, rfl, exceededBy_eq_true.mp hexceeded, hcountText, hlimitText⟩
      · simp at h
  · rintro ⟨hcount, rfl, hbelow, hcountText, hlimitText⟩
    refine .inr ⟨count, hcount, bind_eq_error.mpr (.inr ⟨true, ?_, ?_⟩)⟩
    · exact exceededBy_eq_true.mpr hbelow
    · rw [if_pos rfl, refusal, hcountText, hlimitText]
      rfl

end Session

namespace Search

/-- The flaw of a search is one of its form. -/
theorem isFault_of_flaw {search : Search} {failure : Failure} (h : search.flaw = some failure) :
    failure.isFault = true := by
  obtain ⟨flaw, -, rfl⟩ := Option.map_eq_some_iff.mp h
  cases flaw <;> rfl

end Search

namespace Compiler

variable {c : Compiler} {now : Moment} {request : Request} {base : Option Search}

/-- What comes of a compilation after the comparison with the limit. -/
def afterCheck (c : Compiler) (now : Moment) (request : Request) (base : Option Search) :
    Except Failure Search :=
  (c.filters request).outcome >>= fun _ => request.resolveOrder now >>= fun resolution =>
    ((c.filled request resolution).assemble base).result

theorem compile_result_of_parse (hparse : c.parse = .ok request) :
    (c.compile now base).result =
      c.session.tagCheck request >>= fun _ => c.afterCheck now request base := by
  rw [compile_result, hparse]
  rfl

theorem onlyFaults_afterCheck (c : Compiler) (now : Moment) (request : Request)
    (base : Option Search) : OnlyFaults (c.afterCheck now request base) := by
  refine onlyFaults_bind (request.onlyFaults_filterContribution _ _) fun _ =>
    onlyFaults_bind (request.onlyFaults_resolveOrder now) fun resolution => ?_
  intro failure h
  obtain hflaw | ⟨_, _, rfl⟩ := assemble_eq_error.mp h
  · obtain ⟨search, -, hflaw⟩ := Option.bind_eq_some_iff.mp hflaw
    exact Search.isFault_of_flaw hflaw
  · rfl

/-- A search that is refused is refused in the comparison with the limit. -/
theorem compile_eq_refusal (hparse : c.parse = .ok request) {limit : Value} {count : Int} :
    (c.compile now base).result = .error (.tagLimit limit count) ↔
      c.session.tagCheck request = .error (.tagLimit limit count) := by
  rw [compile_result_of_parse hparse, bind_eq_error]
  constructor
  · rintro (hrefused | ⟨_, _, h⟩)
    · exact hrefused
    · exact absurd h ((c.onlyFaults_afterCheck now request base).ne_refusal limit count)
  · exact .inl

/-- What is left where an operation has failed before the next one. -/
theorem andThen_of_error {report : Report α} {failure : Failure}
    (h : report.result = .error failure) (next : Compiler → α → Report β) :
    (report.andThen next).result = .error failure ∧
      (report.andThen next).compiler = report.compiler := by
  unfold Report.andThen
  rw [h]
  exact ⟨rfl, rfl⟩

/-- A request that fails in the comparison with the limit leaves nothing behind. -/
theorem compiler_of_tagCheck (hparse : c.parse = .ok request) {failure : Failure}
    (h : c.session.tagCheck request = .error failure) :
    (c.compile now base).compiler = c.reset := by
  have hreset : c.reset.parse = c.parse := rfl
  obtain ⟨hcompiler, hresult⟩ := enforceTagLimit_result c.reset request
  have hfirst : (c.reset.runStage now request .tagCount).result = .error failure := hresult.trans h
  obtain ⟨hsecond, hcompiler₂⟩ := andThen_of_error hfirst fun c _ =>
    c.runStage now request .filters
  obtain ⟨hthird, hcompiler₃⟩ := andThen_of_error hsecond fun c _ =>
    c.runStage now request .order
  obtain ⟨_, hcompiler₄⟩ := andThen_of_error hthird fun c _ => c.assemble base
  unfold compile
  dsimp only
  rw [hreset, hparse]
  exact hcompiler₄.trans (hcompiler₃.trans (hcompiler₂.trans hcompiler))

/-- After any history, where the number of tags of a request can be read and has few enough
digits, a build refuses the request just where that number is greater than the limit of the
session, whatever else is wrong with the request. The refusal names the limit and the
number, and nothing that was collected before or for the request is left. A refusal has to
be written out, so a limit is no negative integer of more than 4300 digits. -/
theorem build_refuses_iff (query : Value) (session : Session)
    (tokenizer : Option Tokenizer) (history : List (Clock × Operation)) (clock : Clock)
    (base : Option Search) (count : Int)
    (hparse : ((new query session tokenizer).runAll history).parse = .ok request)
    (hcount : request.integer "tag_count" 0 = .ok count) (hshort : Value.isShort count = true)
    (hlimit : ∀ n, ((new query session tokenizer).runAll history).session.tagQueryLimit = .int n →
      n < 0 → Value.isShort n = true) :
    let c := (new query session tokenizer).runAll history
    let report := c.build clock base
    ((∃ limit named, report.result = .error (.tagLimit limit named)) ↔
      c.session.tagQueryLimit.IsBelow count) ∧
    ∀ limit named, report.result = .error (.tagLimit limit named) →
      limit = c.session.tagQueryLimit ∧ named = count ∧
        report.compiler.must = [] ∧ report.compiler.mustNot = [] ∧
        report.compiler.order = [] ∧ report.compiler.scoring = none := by
  intro c report
  have hresult : ∀ limit named, report.result = .error (.tagLimit limit named) ↔
      c.session.tagCheck request = .error (.tagLimit limit named) :=
    fun limit named => compile_eq_refusal hparse
  constructor
  · constructor
    · rintro ⟨limit, named, hrefused⟩
      obtain ⟨hnamed, rfl, hbelow, _⟩ := Session.tagCheck_eq_refusal.mp
        ((hresult limit named).mp hrefused)
      obtain rfl := Except.ok.inj (hcount.symm.trans hnamed)
      exact hbelow
    · intro hbelow
      refine ⟨c.session.tagQueryLimit, count, (hresult _ _).mpr ?_⟩
      have htext := Session.hasText_of_isBelow hbelow hshort hlimit
      exact Session.tagCheck_eq_refusal.mpr ⟨hcount, rfl, hbelow, hshort, htext⟩
  · intro limit named hrefused
    have hchecked := (hresult limit named).mp hrefused
    obtain ⟨hnamed, hlimitEq, _⟩ := Session.tagCheck_eq_refusal.mp hchecked
    obtain rfl := Except.ok.inj (hcount.symm.trans hnamed)
    have hleft : report.compiler = c.reset := compiler_of_tagCheck hparse hchecked
    rw [hleft]
    exact ⟨hlimitEq, rfl, rfl, rfl, rfl, rfl⟩

/-- A search for 41 tags with a lock that is no lock, on top of a base with a sort that is
none, after tags were collected in a single step. -/
theorem build_refuses_iff_lock :
    ∃ (c : Compiler) (base : Search), c = (new .null .anonymous none).runAll
      [(.leapDay, .addTags ⟨[], [], [.text "cat"]⟩ false),
        (.leapDay, .setQuery (.record [("tag_count", .text "41 tags"),
          ("locked", .list [.list []])]))] ∧
      Search.ofBody none (.record [("sort", .int 5)]) = .ok base ∧ base.flaw = some .mistyped ∧
      c.must.length = 1 ∧ (c.build .leapDay (some base)).compiler.must = [] ∧
        ∃ limit named, (c.build .leapDay (some base)).result = .error (.tagLimit limit named) := by
  have hparse : ((new .null .anonymous none).runAll
      [(.leapDay, .addTags ⟨[], [], [.text "cat"]⟩ false),
        (.leapDay, .setQuery (.record [("tag_count", .text "41 tags"),
          ("locked", .list [.list []])]))]).parse =
      .ok ⟨[("tag_count", .text "41 tags"), ("locked", .list [.list []])]⟩ := rfl
  have hlimit : ∀ n, Session.anonymous.tagQueryLimit = .int n → n < 0 →
      Value.isShort n = true := by
    intro n hn hneg
    obtain rfl : (40 : Int) = n := Value.int.inj hn
    omega
  have hbelow : Session.anonymous.tagQueryLimit.IsBelow 41 := show (40 : Int) < 41 by decide
  obtain ⟨base, hbase, hflaw⟩ : ∃ base : Search,
      Search.ofBody none (.record [("sort", .int 5)]) = .ok base ∧ base.flaw = some .mistyped :=
    ⟨_, rfl, rfl⟩
  obtain ⟨hiff, hleft⟩ := build_refuses_iff _ _ none _ .leapDay (some base) 41 hparse rfl
    (by decide +kernel) hlimit
  obtain ⟨limit, named, hrefused⟩ := hiff.mpr hbelow
  exact ⟨_, base, rfl, hbase, hflaw, rfl, (hleft limit named hrefused).2.2.1, limit, named,
    hrefused⟩

/-- A limit that is too long to be written out is less than five tags, and still a search with
five tags is not refused. -/
theorem build_limit_unwritable :
    let limit : Int := -(Nat.pow 10 Text.maxDigits)
    let session : Session := { Session.anonymous with tagQueryLimit := .int limit }
    Request.integer ⟨[("tag_count", .int 5)]⟩ "tag_count" 0 = .ok 5 ∧ limit < 5 ∧
      ((new (.record [("tag_count", .int 5)]) session none).build .leapDay none).result =
        .error (.numeral .unwritable) := by
  intro limit session
  have hbelow : limit < 5 :=
    Int.lt_of_le_of_lt (Int.neg_nonpos_of_nonneg (Int.natCast_nonneg _)) (by decide)
  have hlimit : (Value.int limit).hasText = false := by
    show Value.isShort limit = false
    simp only [limit, Value.isShort, Int.natAbs_neg, Int.natAbs_natCast, Nat.lt_irrefl,
      decide_false]
  have hsession : session.tagQueryLimit = .int limit := rfl
  have hcount : Request.integer ⟨[("tag_count", .int 5)]⟩ "tag_count" 0 = .ok 5 := rfl
  -- how great the limit is does not matter any more
  clear_value session limit
  have hrefused := Session.tagCheck_of_isBelow hcount (by rwa [hsession])
  have hrefusal : session.refusal 5 = .numeral .unwritable := by
    rw [Session.refusal, hsession, hlimit, Bool.and_false]
    rfl
  refine ⟨hcount, hbelow, ?_⟩
  have hparse : (new (.record [("tag_count", .int 5)]) session none).parse =
      .ok ⟨[("tag_count", .int 5)]⟩ := rfl
  rw [build_result, compile_result_of_parse hparse]
  show (session.tagCheck _ >>= _) = _
  rw [hrefused, hrefusal]
  rfl

end Compiler

end BoardSearch
