import BoardSearch.Proofs.Compiler.Result
import BoardSearch.Proofs.Relation.Reading

/-!
# Searches for requests that look the same

Compiling reads every metatag with one accessor. Two requests that look the same to all
of these accessors have the same search, or the same failure. So it makes no difference
in which order the metatags come, what stands under a name that nothing reads, and what
stands under another name in a shape that nothing asks for.

## Main definitions

* `Request.knownMetatags`: the metatags that are read, each with its accessor;
* `Request.Agrees`: two requests look the same to these accessors.

## Main statements

* `Request.resolveOrder_congr`: the order of a request depends on two metatags;
* `Compiler.build_result_congr`: a build depends on what the accessors see;
* `Compiler.build_result_of_agrees`: the order of metatags, unknown ones and values of the
  wrong shape make no difference.
-/

namespace BoardSearch

namespace Request

/-- The metatags that are read in a compilation, each with the accessor that reads it:
those of the filters, the number of tags, and the order with its seed. -/
def knownMetatags : List (String × Accessor) :=
  (readers false false).flatMap (·.reads)
    ++ [("tag_count", .scalar), ("order", .scalar), ("random", .scalar)]

/-- Two requests look the same to everything that reads metatags. -/
def Agrees (request request' : Request) : Prop := request.AgreesOn knownMetatags request'

variable {request request' : Request}

/-- Whatever the session is, the filters read known metatags only. -/
theorem reads_subset_knownMetatags (safeMode adminMode : Bool) :
    ∀ reader ∈ readers safeMode adminMode, ∀ entry ∈ reader.reads, entry ∈ knownMetatags := by
  -- only the part that hides deleted posts reads something else in another session
  have hsafe : (readers safeMode adminMode).map (·.reads) =
      (readers false adminMode).map (·.reads) := rfl
  have hknown : ∀ reads ∈ (readers false adminMode).map (·.reads), reads ⊆ knownMetatags := by
    cases adminMode with
    | true => decide +kernel
    | false =>
      intro reads hreads entry hentry
      obtain ⟨reader, hreader, rfl⟩ := List.mem_map.mp hreads
      exact List.mem_append_left _ (List.mem_flatMap.mpr ⟨reader, hreader, hentry⟩)
  intro reader hreader
  exact hknown reader.reads (hsafe ▸ List.mem_map.mpr ⟨reader, hreader, rfl⟩)

theorem Agrees.filterContribution_eq (h : request.Agrees request') (safeMode adminMode : Bool) :
    request.filterContribution safeMode adminMode =
      request'.filterContribution safeMode adminMode :=
  filterContribution_congr fun reader hreader =>
    h.mono (reads_subset_knownMetatags safeMode adminMode reader hreader)

theorem Agrees.scalar?_eq (h : request.Agrees request') {name : String}
    (hname : (name, Accessor.scalar) ∈ knownMetatags) :
    request.scalar? name = request'.scalar? name :=
  h (name, .scalar) hname

theorem integer_congr {name : String} (h : request.scalar? name = request'.scalar? name)
    (default : Int) : request.integer name default = request'.integer name default := by
  simp only [integer, integer?, h]

/-- The order of a request depends on its token and its seed. -/
theorem resolveOrder_congr (horder : request.scalar? "order" = request'.scalar? "order")
    (hseed : request.scalar? "random" = request'.scalar? "random") (now : Moment) :
    request.resolveOrder now = request'.resolveOrder now := by
  have htoken : request.orderToken? = request'.orderToken? := by
    simp only [orderToken?, horder]
  have hscoring : request.randomScoring = request'.randomScoring := by
    simp only [randomScoring, integer_congr hseed, hseed]
  simp only [resolveOrder, htoken, hscoring]

end Request

/-- The comparison with the limit depends on the number of tags alone. -/
theorem Session.tagCheck_congr {request request' : Request} (session : Session)
    (h : request.scalar? "tag_count" = request'.scalar? "tag_count") :
    session.tagCheck request = session.tagCheck request' := by
  simp only [tagCheck, Request.integer_congr h]

namespace Compiler

variable {c c' : Compiler} {request request' : Request}

/-- What is put together depends on the session and on what was collected, and not on
what the search was made from. -/
theorem assemble_filled_congr (hsession : c.session = c'.session)
    (hfilters : c.filters request = c'.filters request') (resolution : Resolution)
    (base : Option Search) :
    ((c.filled request resolution).assemble base).result =
      ((c'.filled request' resolution).assemble base).result := by
  have hcollected : (c.filled request resolution).withRequirement.collected =
      (c'.filled request' resolution).withRequirement.collected := by
    unfold withRequirement filled collected
    rw [hfilters]
    split <;> rfl
  have horder : (c.filled request resolution).withRequirement.order =
      (c'.filled request' resolution).withRequirement.order := by
    unfold withRequirement
    split <;> split <;> rfl
  have hkept : (c.filled request resolution).withRequirement.session =
      (c'.filled request' resolution).withRequirement.session := by
    rw [withRequirement_session, withRequirement_session]
    exact hsession
  unfold assemble
  dsimp only
  rw [hcollected, horder, hkept]

theorem build_result_congr (hsession : c.session = c'.session)
    (hparse : c.parse = .ok request) (hparse' : c'.parse = .ok request')
    (hagrees : request.Agrees request') (clock : Clock) (base : Option Search) :
    (c.build clock base).result = (c'.build clock base).result := by
  have hcheck : c.session.tagCheck request = c'.session.tagCheck request' := by
    rw [← hsession]
    exact c.session.tagCheck_congr (hagrees.scalar?_eq (by decide +kernel))
  have hfilters : c.filters request = c'.filters request' := by
    unfold filters
    rw [← hsession]
    exact hagrees.filterContribution_eq _ _
  have horder : request.resolveOrder clock.now = request'.resolveOrder clock.now :=
    Request.resolveOrder_congr (hagrees.scalar?_eq (by decide +kernel))
      (hagrees.scalar?_eq (by decide +kernel)) clock.now
  rw [build_result, build_result, compile_result, compile_result, hparse, hparse']
  show (c.session.tagCheck request >>= fun _ => (c.filters request).outcome >>= fun _ =>
      request.resolveOrder clock.now >>= fun resolution =>
        ((c.filled request resolution).assemble base).result) =
    (c'.session.tagCheck request' >>= fun _ => (c'.filters request').outcome >>= fun _ =>
      request'.resolveOrder clock.now >>= fun resolution =>
        ((c'.filled request' resolution).assemble base).result)
  have hassemble : (fun resolution => ((c.filled request resolution).assemble base).result) =
      fun resolution => ((c'.filled request' resolution).assemble base).result := by
    funext resolution
    exact assemble_filled_congr hsession hfilters resolution base
  rw [hcheck, horder, hassemble, hfilters]

/-- Two compilers in the same session, with requests that look the same to everything that
reads metatags, build the same search or fail in the same way. So do those with requests
that differ in the order of their metatags, in metatags that nothing reads, and in values
that do not have the shape that is asked for. -/
theorem build_result_of_agrees (hsession : c.session = c'.session)
    (hparse : c.parse = .ok request) (hparse' : c'.parse = .ok request')
    (clock : Clock) (base : Option Search) :
    (request.Agrees request' → (c.build clock base).result = (c'.build clock base).result) ∧
    (request.names.Nodup → request'.names.Nodup →
      (request.metatags.filter (Request.isSeen Request.knownMetatags)).Perm
        (request'.metatags.filter (Request.isSeen Request.knownMetatags)) →
      (c.build clock base).result = (c'.build clock base).result) := by
  have hcongr : request.Agrees request' →
      (c.build clock base).result = (c'.build clock base).result :=
    fun hagrees => build_result_congr hsession hparse hparse' hagrees clock base
  refine ⟨hcongr, fun hnodup hnodup' hperm => hcongr ?_⟩
  exact Request.agreesOn_of_perm hnodup hnodup' hperm

/-- The metatags of a search in the other order, one of them spelled in another way, with
one that nothing reads and one that is no range between them. -/
theorem build_result_of_agrees_reversed :
    Request.Agrees
      ⟨[("rating", .text "s"), ("score", .range .gt (.int 5) .null), ("order", .text "rank")]⟩
      ⟨[("order", .text "rank"), ("color", .text "red"), ("width", .text "wide"),
        ("score", .range .gt (.int 5) .null), ("rating", .text "s")]⟩ ∧
    ((new (.record [("rating", .text "s"), ("score", .tuple [.text "gt", .int 5]),
        ("order", .text "rank")]) .administrator none).build .leapDay none).result =
      ((new (.record [("order", .text "rank"), ("color", .text "red"), ("width", .text "wide"),
        ("score", .record [("operator", .text "gt"), ("value", .int 5)]),
        ("rating", .text "s")]) .administrator none).build .leapDay none).result := by
  have hagrees : Request.Agrees
      ⟨[("rating", .text "s"), ("score", .range .gt (.int 5) .null), ("order", .text "rank")]⟩
      ⟨[("order", .text "rank"), ("color", .text "red"), ("width", .text "wide"),
        ("score", .range .gt (.int 5) .null), ("rating", .text "s")]⟩ := by
    refine Request.agreesOn_of_perm (by decide) (by decide) ?_
    -- what is seen of the second request is what is seen of the first one, from behind
    have hreversed := List.reverse_perm [("rating", Value.text "s"),
      ("score", .range .gt (.int 5) .null), ("order", .text "rank")]
    exact hreversed.symm
  refine ⟨hagrees, (build_result_of_agrees ?session ?parse ?parse' .leapDay none).1 hagrees⟩
  case session => rfl
  case parse => rfl
  case parse' => rfl

end Compiler

end BoardSearch
