import BoardSearch.Log.Event
import BoardSearch.Log.Timing
import BoardSearch.Order.Resolution
import BoardSearch.Relation.Filter
import BoardSearch.Request.Reading
import BoardSearch.Search
import BoardSearch.Session
import BoardSearch.Value.Counted

/-!
# The compiler

A compiler turns what is searched for into a request to the search engine. It
keeps what it has collected, so that a caller can look at it or can go on from
there in single steps.

## Main definitions

* `Tokenizer`: what splits a text into metatags;
* `Compiler`: the state;
* `Report`: the state after an operation, its messages, and how it ended;
* `Stage`, `Compiler.perform`: the single steps of a compilation;
* `Compiler.assemble`: the request for what has been collected;
* `Compiler.build`: a compilation from the beginning to the end.

## Design notes

An operation that fails keeps what it had collected until then. What a build
depends on from outside, the time and the stopwatch, is passed to it.
-/

namespace BoardSearch

/-- What a build reads off the clocks. -/
structure Clock where
  now : Moment
  watch : Stopwatch

/-- What splits a text into metatags. It can fail in ways of its own. -/
abbrev Tokenizer := String → Except Failure Value

/-- The state of a compiler. -/
structure Compiler where
  /-- The metatags to search for, or a text to be split into metatags. -/
  query : Value
  session : Session
  /-- What splits a text into metatags, if there is anything that does. -/
  tokenizer : Option Tokenizer
  /-- What must match. -/
  must : List Query
  /-- What must not match. -/
  mustNot : List Query
  /-- The sort keys, the most significant one first. -/
  order : List SortKey
  /-- The score that replaces that of the engine. -/
  scoring : Option Scoring

/-- How an operation left the compiler. -/
structure Report (α : Type) where
  compiler : Compiler
  events : List Log.Event
  result : Except Failure α

namespace Report

/-- An operation that goes on from a result; after a failure it does not take place. -/
def andThen {α β : Type} (report : Report α) (next : Compiler → α → Report β) : Report β :=
  match report.result with
  | .error failure => ⟨report.compiler, report.events, .error failure⟩
  | .ok a =>
    let rest := next report.compiler a
    ⟨rest.compiler, report.events ++ rest.events, rest.result⟩

end Report

/-- A single step of a compilation. -/
inductive Stage where
  /-- The number of tags is compared with the limit. -/
  | tagCount
  /-- Every metatag that filters. -/
  | filters
  | order
  | source
  | votes
  | locks
  | array (name field : String) (toggle : Option String)
  | single (name field : String) (analyzed : Bool)
  | wildcard (name field : String)

namespace Compiler

/-- A compiler that has collected nothing. -/
def new (query : Value) (session : Session) (tokenizer : Option Tokenizer) : Compiler :=
  ⟨query, session, tokenizer, [], [], [], none⟩

/-- A compiler that forgets what it has collected. -/
def reset (c : Compiler) : Compiler :=
  { c with must := [], mustNot := [], order := [], scoring := none }

/-- The request to compile. A text is split into metatags first. -/
def parse (c : Compiler) : Except Failure Request :=
  match c.query.asText? with
  | none => Request.ofValue c.query
  | some text =>
    match c.tokenizer with
    | none => .error .noTokenizer
    | some split => split text >>= Request.ofValue

/-- The compiler with a contribution at the end of what it has collected. -/
def collect (c : Compiler) (contribution : Contribution) : Report Unit :=
  let c := { c with
    must := c.must ++ contribution.must
    mustNot := c.mustNot ++ contribution.mustNot }
  ⟨c, [], match contribution.failure with
    | some failure => .error failure
    | none => .ok ()⟩

/-- The message for a search that names too many tags. -/
def rejection (c : Compiler) (count : Int) : Log.Event :=
  ⟨.compiler, .info, c.session.limitText?.map fun limit =>
    "Rejected a search for " ++ Value.counted (.int count) "tag" none ++ ", the limit is "
      ++ limit ++ "."⟩

/-- A search that names more tags than the session allows is refused. A message that can name
the number of tags comes before the refusal. -/
def enforceTagLimit (c : Compiler) (request : Request) : Report Unit :=
  match request.integer "tag_count" 0 with
  | .error failure => ⟨c, [], .error failure⟩
  | .ok count =>
    match c.session.exceededBy count with
    | .error failure => ⟨c, [], .error failure⟩
    | .ok false => ⟨c, [], .ok ()⟩
    | .ok true =>
      ⟨c, if (Value.int count).hasText then [c.rejection count] else [],
        .error (c.session.refusal count)⟩

/-- The order of a request, with the clauses that it needs. -/
def collectOrder (c : Compiler) (now : Moment) (request : Request) : Report Unit :=
  match request.resolveOrder now with
  | .error failure => ⟨c, [], .error failure⟩
  | .ok resolution =>
    ⟨{ c with
      must := c.must ++ resolution.must
      order := resolution.sort
      scoring := resolution.scoring }, [], .ok ()⟩

/-- A step for a request that has been read. -/
def runStage (c : Compiler) (now : Moment) (request : Request) : Stage → Report Unit
  | .tagCount => c.enforceTagLimit request
  | .filters =>
    c.collect (request.filterContribution c.session.safeMode.truthy c.session.adminMode.truthy)
  | .order => c.collectOrder now request
  | .source => c.collect request.sourceContribution
  | .votes => c.collect request.voteContribution
  | .locks => c.collect request.lockContribution
  | .array name field toggle =>
    c.collect ((request.arrayContribution name field toggle).admitted field)
  | .single name field analyzed =>
    c.collect ((request.singleContribution name
      (if analyzed then .matching field else .term field)).admitted field)
  | .wildcard name field => c.collect ((request.wildcardContribution name field).admitted field)

/-- A step, for which the request is read first. -/
def perform (c : Compiler) (now : Moment) (stage : Stage) : Report Unit :=
  match c.parse with
  | .error failure => ⟨c, [], .error failure⟩
  | .ok request => c.runStage now request stage

/-- The query for what has been collected. -/
def collected (c : Compiler) : Query :=
  let query := Query.bool [] c.must c.mustNot [] none .usual
  match c.scoring with
  | some scoring => scoring.wrap query
  | none => query

/-- The compiler in which something is required: every post, if nothing else is. -/
def withRequirement (c : Compiler) : Compiler :=
  if c.must.isEmpty then { c with must := [.matchAll []] } else c

/-- The request for what has been collected. It narrows down `base`, and asks for
the posts' identifiers alone, which come back with every post anyway. -/
def assemble (c : Compiler) (base : Option Search) : Report Search :=
  let c := c.withRequirement
  let base := base.getD .empty
  let search := ((base.withQuery c.collected).withSort
    (c.order.map (·.toValue))).withSource (.bool false)
  ⟨c, [], match base.flaw with
    | some failure => .error failure
    | none =>
      if c.session.milliseconds.hasText then
        .ok (search.withExtra "timeout" (.text c.session.timeout))
      else .error (.numeral .unwritable)⟩

/-- A compilation without the message at its end. -/
def compile (c : Compiler) (now : Moment) (base : Option Search) : Report Search :=
  let c := c.reset
  match c.parse with
  | .error failure => ⟨c, [], .error failure⟩
  | .ok request =>
    ((((c.runStage now request .tagCount).andThen fun c _ =>
      c.runStage now request .filters).andThen fun c _ =>
        c.runStage now request .order).andThen fun c _ => c.assemble base)

/-- The message at the end of a compilation. -/
def completion (watch : Stopwatch) (ending : Ending) : Log.Event :=
  ⟨.compiler, .debug, some (watch.completion "Compiling post search" ending)⟩

/-- A compilation from the beginning to the end, with the message at its end. -/
def build (c : Compiler) (clock : Clock) (base : Option Search) : Report Search :=
  let report := c.compile clock.now base
  { report with events := report.events ++ [completion clock.watch (.ofResult report.result)] }

end Compiler

end BoardSearch
