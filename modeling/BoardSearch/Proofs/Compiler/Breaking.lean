import BoardSearch.Proofs.Compiler.Result
import BoardSearch.Proofs.Relation.Breaking

/-!
# Builds that break

A build returns a search or refuses to, for the number of tags that it names. A metatag
that makes no sense is ignored, but not every one: there are a few ways in which a build
for values of JSON breaks, and these are all of them.

## Main definitions

* `Session.Accepts`: a request names no more tags than the session allows;
* `Request.Breakage`: the ways in which a request that was read breaks.

## Main statements

* `Request.failsIff_resolveOrder`: what makes the order of a request fail;
* `Session.breaks_tagCheck`: what makes the comparison with the limit break;
* `Compiler.build_settles_iff`: a build returns or refuses but for the ways to break.
-/

namespace BoardSearch

/-! ## The order -/

namespace Request

variable {request : Request}

theorem failsIff_orderToken? (hplain : request.Plain) :
    FailsIff request.orderToken? (request.IsLong "order") := by
  unfold orderToken? IsLong
  cases hscalar : request.scalar? "order" with
  | none => exact (FailsIff.ok none).congr (by simp)
  | some value =>
    have hwritten : FailsIff value.written (value.hasText = false) := by
      unfold Value.written
      cases value.hasText with
      | true => exact (FailsIff.ok _).congr (by simp)
      | false => exact (FailsIff.error (by simp)).congr (by simp)
    refine (hwritten.map some).congr ?_
    constructor
    · intro hlong
      obtain ⟨n, rfl, hn⟩ := Value.eq_int_of_isAtom (hplain "order" value hscalar) hlong
      exact ⟨n, rfl, hn⟩
    · rintro ⟨n, heq, hn⟩
      rw [Option.some.inj heq]
      exact hn

theorem failsIff_requirements (now : Moment) (token : String) :
    FailsIff (Order.requirements now token)
      (token = Order.rank ∧ Order.twoDaysBefore? now = none) := by
  unfold Order.requirements
  by_cases hrank : token = Order.rank
  · rw [if_pos hrank]
    cases Order.twoDaysBefore? now with
    | none => exact (FailsIff.error (by simp)).congr (by simp [hrank])
    | some start => exact (FailsIff.ok _).congr (by simp)
  · rw [if_neg hrank]
    split
    · exact (FailsIff.ok _).congr (by simp [hrank])
    · split <;> exact (FailsIff.ok _).congr (by simp [hrank])

theorem failsIff_randomScoring (hplain : request.Plain) :
    FailsIff request.randomScoring (request.RefusesNumeral "random") := by
  unfold randomScoring
  cases hscalar : request.scalar? "random" with
  | none => exact (FailsIff.ok _).congr (by simp [RefusesNumeral, hscalar])
  | some value => exact (failsIff_integer hplain "random" 0).map _

/-- The order of a plain request fails where it is an integer that is too long, where
the last two days are outside of the calendar, or where the seed is refused. -/
theorem failsIff_resolveOrder (hplain : request.Plain) (now : Moment) :
    FailsIff (request.resolveOrder now) (request.IsLong "order" ∨
      (request.orderToken? = .ok (some Order.rank) ∧ Order.twoDaysBefore? now = none) ∨
      (request.orderToken? = .ok (some Order.random) ∧ request.RefusesNumeral "random")) := by
  have htoken : ∀ token, FailsIff (do
      let requirements ← Order.requirements now token
      if token = Order.rank then
        return ⟨Order.byScore, requirements ++ [.ranked], none⟩
      else if token = Order.random then
        return ⟨Order.byScore, requirements, some (← request.randomScoring)⟩
      else
        return ⟨Order.keys token, requirements, none⟩ : Except Failure Resolution)
      ((token = Order.rank ∧ Order.twoDaysBefore? now = none) ∨
        (token = Order.random ∧ request.RefusesNumeral "random")) := by
    intro token
    refine (failsIff_requirements now token).bind fun requirements _ => ?_
    by_cases hrank : token = Order.rank
    · have hrandom : ¬ token = Order.random := by
        rw [hrank]
        decide
      rw [if_pos hrank]
      exact (FailsIff.ok _).congr (by simp [hrandom])
    · rw [if_neg hrank]
      by_cases hrandom : token = Order.random
      · rw [if_pos hrandom]
        refine ((failsIff_randomScoring hplain).bind fun _ _ => .ok _).congr ?_
        simp [hrandom]
      · rw [if_neg hrandom]
        exact (FailsIff.ok _).congr (by simp [hrandom])
  unfold resolveOrder
  refine ((failsIff_orderToken? hplain).bind_of (fun token? => ∃ token, token? = some token ∧
    ((token = Order.rank ∧ Order.twoDaysBefore? now = none) ∨
      (token = Order.random ∧ request.RefusesNumeral "random"))) ?_).congr (or_congr_right ?_)
  · intro token? _
    cases token? with
    | none => exact (FailsIff.ok _).congr (by simp)
    | some token => exact (htoken token).congr (by simp)
  constructor
  · rintro ⟨_, horder, token, rfl, ⟨rfl, hcalendar⟩ | ⟨rfl, hseed⟩⟩
    · exact .inl ⟨horder, hcalendar⟩
    · exact .inr ⟨horder, hseed⟩
  · rintro (⟨horder, hcalendar⟩ | ⟨horder, hseed⟩)
    · exact ⟨_, horder, _, rfl, .inl ⟨rfl, hcalendar⟩⟩
    · exact ⟨_, horder, _, rfl, .inr ⟨rfl, hseed⟩⟩

end Request

/-! ## The limit -/

/-- A truth value or a number. -/
def Value.isNumber : Value → Bool
  | .bool _ | .int _ | .float _ => true
  | _ => false

namespace Session

variable {session : Session} {request : Request}

/-- A number of tags can be compared with the limit unless that is no number. -/
theorem failsIff_exceededBy (session : Session) (count : Int) :
    FailsIff (session.exceededBy count) (session.tagQueryLimit.isNumber = false) := by
  unfold exceededBy
  cases session.tagQueryLimit with
  | bool | int | float => exact (FailsIff.ok _).congr (by simp [Value.isNumber])
  | _ => exact (FailsIff.error (by simp)).congr (by simp [Value.isNumber])

/-- The request names no more tags than the session allows. -/
def Accepts (session : Session) (request : Request) : Prop :=
  ∃ count, request.integer "tag_count" 0 = .ok count ∧ session.exceededBy count = .ok false

/-- A request is let through where it names no more tags than the session allows. -/
theorem tagCheck_eq_ok : session.tagCheck request = .ok () ↔ session.Accepts request := by
  unfold tagCheck Accepts
  rw [bind_eq_ok]
  refine exists_congr fun count => and_congr_right fun _ => ?_
  rw [bind_eq_ok]
  constructor
  · rintro ⟨exceeded, hexceeded, h⟩
    cases exceeded with
    | false => exact hexceeded
    | true =>
      -- neither of the two ways to go on lets the request through
      simp at h
  · intro hexceeded
    exact ⟨false, hexceeded, rfl⟩

/-- The ways in which the comparison of the number of tags with the limit breaks: by the
number, by the limit, or by a refusal in which one of the two cannot be written out. -/
theorem breaks_tagCheck (hplain : request.Plain) :
    Breaks (session.tagCheck request) ↔ request.RefusesNumeral "tag_count" ∨
      ∃ count, request.integer "tag_count" 0 = .ok count ∧
        (session.tagQueryLimit.isNumber = false ∨ (session.exceededBy count = .ok true ∧
          ((Value.int count).hasText = false ∨ session.tagQueryLimit.hasText = false))) := by
  unfold tagCheck
  rw [breaks_bind, (Request.failsIff_integer hplain "tag_count" 0).breaks_iff]
  refine or_congr_right (exists_congr fun count => and_congr_right fun _ => ?_)
  rw [breaks_bind, (failsIff_exceededBy session count).breaks_iff]
  refine or_congr_right ?_
  constructor
  · rintro ⟨exceeded, hexceeded, failure, hfails, hbreaks⟩
    cases exceeded with
    | false => simp [pure, Except.pure] at hfails
    | true =>
      refine ⟨hexceeded, ?_⟩
      rw [if_pos rfl] at hfails
      unfold refusal at hfails
      split at hfails
      · exact absurd (Except.error.inj hfails).symm (hbreaks _ _)
      · rename_i htext
        exact Bool.and_eq_false_iff.mp (Bool.eq_false_iff.mpr htext)
  · rintro ⟨hexceeded, htext⟩
    refine ⟨true, hexceeded, .numeral .unwritable, ?_, by simp⟩
    have hnot : ((Value.int count).hasText && session.tagQueryLimit.hasText) = false :=
      Bool.and_eq_false_iff.mpr htext
    rw [if_pos rfl, refusal, hnot]
    rfl

/-- The comparison of the number of tags with the limit refuses the search, or it fails by a
fault. -/
theorem isFault_of_tagCheck (hplain : request.Plain) {failure : Failure}
    (h : session.tagCheck request = .error failure)
    (hnot : ∀ limit count, failure ≠ .tagLimit limit count) : failure.isFault = true := by
  unfold tagCheck at h
  obtain hcount | ⟨count, -, h⟩ := bind_eq_error.mp h
  · exact (Request.failsIff_integer hplain "tag_count" 0).isFault failure hcount
  · obtain hexceeded | ⟨exceeded, -, h⟩ := bind_eq_error.mp h
    · exact (failsIff_exceededBy session count).isFault failure hexceeded
    · split at h
      · unfold refusal at h
        split at h
        · exact absurd (Except.error.inj h).symm (hnot _ _)
        · obtain rfl := Except.error.inj h
          rfl
      · simp [pure, Except.pure] at h

end Session

/-! ## Builds -/

/-- The ways in which a request breaks that could be read. The later ones come about
only where the request names no more tags than the session allows. -/
inductive Request.Breakage (request : Request) (session : Session) (now : Moment) : Prop where
  /-- The number of tags begins with a numeral that is refused. -/
  | count (h : request.RefusesNumeral "tag_count")
  /-- The limit is no number. -/
  | limit {count : Int} (hcount : request.integer "tag_count" 0 = .ok count)
    (h : session.tagQueryLimit.isNumber = false)
  /-- There are too many tags, and the message that says so cannot be written out. -/
  | refusal {count : Int} (hcount : request.integer "tag_count" 0 = .ok count)
    (hexceeded : session.exceededBy count = .ok true)
    (h : (Value.int count).hasText = false ∨ session.tagQueryLimit.hasText = false)
  /-- A pattern or the order is an integer that cannot be written out. -/
  | pattern (haccepts : session.Accepts request) {name : String}
    (hname : name ∈ ["source", "source_neg", "delreason", "delreason_neg", "order"])
    (h : request.IsLong name)
  /-- A lock is a list or an object. -/
  | lock (haccepts : session.Accepts request) {name : String}
    (hname : name ∈ ["locked", "locked_neg"]) {lock : Value}
    (hlock : lock ∈ request.values name) (h : lock.hashable = false)
  /-- The order looks at days before the first one of the calendar. -/
  | rank (haccepts : session.Accepts request)
    (horder : request.orderToken? = .ok (some Order.rank))
    (h : Order.twoDaysBefore? now = none)
  /-- The seed of a random order begins with a numeral that is refused. -/
  | seed (haccepts : session.Accepts request)
    (horder : request.orderToken? = .ok (some Order.random))
    (h : request.RefusesNumeral "random")
  /-- The timeout cannot be written out. -/
  | timeout (haccepts : session.Accepts request) (h : session.milliseconds.hasText = false)

namespace Compiler

variable {session : Session} {now : Moment}

/-- Putting together without a base fails where the timeout cannot be written out. -/
theorem failsIff_assemble (c : Compiler) :
    FailsIff (c.assemble none).result (c.session.milliseconds.hasText = false) := by
  unfold assemble
  dsimp only [Option.getD, Search.empty]
  rw [withRequirement_session]
  cases c.session.milliseconds.hasText with
  | true => exact (FailsIff.ok _).congr (by simp)
  | false => exact (FailsIff.error (by simp)).congr (by simp)

/-- What makes a build fail after the number of tags was compared with the limit. -/
theorem failsIff_accepted {c : Compiler} {request : Request} (hplain : request.Plain)
    (haccepts : c.session.Accepts request) :
    FailsIff ((c.filters request).outcome >>= fun _ =>
      request.resolveOrder now >>= fun resolution =>
        ((c.filled request resolution).assemble none).result)
      (request.Breakage c.session now) := by
  have hfilters := Request.failsIff_filterContribution hplain c.session.safeMode.truthy
    c.session.adminMode.truthy
  have hassemble : ∀ resolution, FailsIff ((c.filled request resolution).assemble none).result
      (c.session.milliseconds.hasText = false) :=
    fun resolution => failsIff_assemble (c.filled request resolution)
  refine (hfilters.bind fun _ _ => (Request.failsIff_resolveOrder hplain now).bind
    fun resolution _ => hassemble resolution).congr ?_
  constructor
  · rintro ((⟨name, hname, hlong⟩ | ⟨name, hname, lock, hlock, hkey⟩) |
      (hlong | ⟨horder, hcalendar⟩ | ⟨horder, hseed⟩) | htext)
    · exact .pattern haccepts (List.mem_append_left ["order"] hname) hlong
    · exact .lock haccepts hname hlock hkey
    · exact .pattern haccepts (by decide) hlong
    · exact .rank haccepts horder hcalendar
    · exact .seed haccepts horder hseed
    · exact .timeout haccepts htext
  · obtain ⟨accepted, haccepted, hwithin⟩ := haccepts
    rintro (hcount | ⟨_, hlimit⟩ | ⟨hcount, hexceeded, _⟩ | ⟨_, hname, hlong⟩ |
      ⟨_, hname, hlock, hkey⟩ | ⟨_, horder, hcalendar⟩ | ⟨_, horder, hseed⟩ | ⟨_, htext⟩)
    · -- the number of tags was read, so its numeral was not refused
      have hfails := (Request.failsIff_integer hplain "tag_count" 0).fails_iff.mpr hcount
      simp [haccepted] at hfails
    · have hfails := (Session.failsIff_exceededBy c.session accepted).fails_iff.mpr hlimit
      simp [hwithin] at hfails
    · obtain rfl := Except.ok.inj (haccepted.symm.trans hcount)
      simp [hwithin] at hexceeded
    · obtain hname | hname := List.mem_append.mp (show _ ∈ ["source", "source_neg", "delreason",
        "delreason_neg"] ++ ["order"] from hname)
      · exact .inl (.inl ⟨_, hname, hlong⟩)
      · exact .inr (.inl (.inl (List.mem_singleton.mp hname ▸ hlong)))
    · exact .inl (.inr ⟨_, hname, _, hlock, hkey⟩)
    · exact .inr (.inl (.inr (.inl ⟨horder, hcalendar⟩)))
    · exact .inr (.inl (.inr (.inr ⟨horder, hseed⟩)))
    · exact .inr (.inr htext)

/-- A request that was read breaks in the comparison with the limit, or after it. -/
theorem breaks_request {c : Compiler} {request : Request} (hplain : request.Plain) :
    Breaks (c.session.tagCheck request >>= fun _ => (c.filters request).outcome >>= fun _ =>
      request.resolveOrder now >>= fun resolution =>
        ((c.filled request resolution).assemble none).result) ↔
      request.Breakage c.session now := by
  rw [breaks_bind, Session.breaks_tagCheck hplain]
  constructor
  · rintro ((hcount | ⟨count, hcount, hlimit | ⟨hexceeded, htext⟩⟩) | ⟨_, hchecked, hbreaks⟩)
    · exact .count hcount
    · exact .limit hcount hlimit
    · exact .refusal hcount hexceeded htext
    · have haccepts := Session.tagCheck_eq_ok.mp hchecked
      exact (failsIff_accepted hplain haccepts).breaks_iff.mp hbreaks
  · intro hbreakage
    by_cases haccepts : c.session.Accepts request
    · exact .inr ⟨(), Session.tagCheck_eq_ok.mpr haccepts,
        (failsIff_accepted hplain haccepts).breaks_iff.mpr hbreakage⟩
    · refine .inl ?_
      cases hbreakage with
      | count hcount => exact .inl hcount
      | limit hcount hlimit => exact .inr ⟨_, hcount, .inl hlimit⟩
      | refusal hcount hexceeded htext => exact .inr ⟨_, hcount, .inr ⟨hexceeded, htext⟩⟩
      | pattern h | lock h | rank h | seed h | timeout h => exact absurd h haccepts

/-- A build for plain values breaks where one of the values is a misspelled grouping of tags or
the request that they are read as breaks. -/
theorem breaks_build_iff {entries : List (String × Value)}
    (hplain : ∀ entry ∈ entries, entry.2.isPlain = true) (session : Session)
    (tokenizer : Option Tokenizer) (clock : Clock) :
    Breaks ((new (.record entries) session tokenizer).build clock none).result ↔
      (∃ entry ∈ entries, ∃ groups, entry.2 = .mapping groups ∧
        TagGrouping.Misspelled groups) ∨
      ∃ request, Request.ofValue (.record entries) = .ok request ∧
        request.Breakage session clock.now := by
  rw [build_result, compile_result, breaks_bind]
  have hparse : (new (.record entries) session tokenizer).parse =
      Request.ofValue (.record entries) := rfl
  rw [hparse, (Request.failsIff_ofValue entries).breaks_iff]
  refine or_congr_right (exists_congr fun request => and_congr_right fun hread => ?_)
  exact breaks_request (Request.plain_of_isPlain hplain hread)

/-- A build for plain values that does not refuse the search fails by a fault. -/
theorem isFault_of_build {entries : List (String × Value)}
    (hplain : ∀ entry ∈ entries, entry.2.isPlain = true) {session : Session}
    {tokenizer : Option Tokenizer} {clock : Clock} {failure : Failure}
    (h : ((new (.record entries) session tokenizer).build clock none).result = .error failure)
    (hnot : ∀ limit count, failure ≠ .tagLimit limit count) : failure.isFault = true := by
  rw [build_result, compile_result] at h
  obtain hparse | ⟨request, hparse, h⟩ := bind_eq_error.mp h
  · exact (Request.failsIff_ofValue entries).isFault failure hparse
  · have hrequest := Request.plain_of_isPlain hplain hparse
    obtain hchecked | ⟨_, hchecked, h⟩ := bind_eq_error.mp h
    · exact Session.isFault_of_tagCheck hrequest hchecked hnot
    · have haccepts := Session.tagCheck_eq_ok.mp hchecked
      exact (failsIff_accepted hrequest haccepts).isFault failure h

/-- A build for values of JSON returns a search or refuses to, unless one of the values is
a misspelled grouping of tags or the request that they are read as breaks. -/
theorem build_settles_iff {entries : List (String × Value)}
    (hjson : ∀ entry ∈ entries, entry.2.isJson = true) (session : Session)
    (tokenizer : Option Tokenizer) (clock : Clock) :
    ((∃ search, ((new (.record entries) session tokenizer).build clock none).result =
        .ok search) ∨
      ∃ limit count, ((new (.record entries) session tokenizer).build clock none).result =
        .error (.tagLimit limit count)) ↔
      ¬ ((∃ entry ∈ entries, ∃ groups, entry.2 = .mapping groups ∧
          TagGrouping.Misspelled groups) ∨
        ∃ request, Request.ofValue (.record entries) = .ok request ∧
          request.Breakage session clock.now) := by
  have hplain : ∀ entry ∈ entries, entry.2.isPlain = true :=
    fun entry hentry => Value.isPlain_of_isJson (hjson entry hentry)
  rw [← not_breaks_iff, breaks_build_iff hplain]

/-- A number for a group of tags: the build neither returns a search nor refuses to. -/
theorem not_build_settles_group :
    ¬ ((∃ search, ((new (.record [("tags", .mapping [(.text "include", .int 5)])])
          .administrator none).build .leapDay none).result = .ok search) ∨
      ∃ limit count, ((new (.record [("tags", .mapping [(.text "include", .int 5)])])
          .administrator none).build .leapDay none).result = .error (.tagLimit limit count)) := by
  have hmisspelled : TagGrouping.Misspelled [(.text "include", .int 5)] :=
    ⟨by decide, "include", by decide, .int 5, rfl, by decide, rfl⟩
  rw [build_settles_iff (by decide)]
  exact not_not_intro (.inl ⟨_, List.mem_singleton.mpr rfl, _, rfl, hmisspelled⟩)

/-- A list for a lock is a value of JSON and breaks the build of an administrator. -/
theorem build_lock_list_breaks :
    (∀ entry ∈ [("locked", Value.list [.list [.text "rating"]])], entry.2.isJson = true) ∧
      ((new (.record [("locked", .list [.list [.text "rating"]])]) .administrator none).build
        .leapDay none).result = .error .mistyped :=
  ⟨by decide, rfl⟩

end Compiler

end BoardSearch
