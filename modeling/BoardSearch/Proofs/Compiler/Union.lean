import BoardSearch.Proofs.Compiler.Result
import BoardSearch.Proofs.Relation.Splitting
import BoardSearch.Proofs.Request.Reading

/-!
# Searches for two mappings at once

The metatags of two mappings taken together are a search for what both of them are a
search for. No metatag of the one takes anything back that the other one asks for.

## Main statements

* `Request.isUnion_of_read`: two mappings one after another are read as the union of
  what both are read as;
* `Request.meets_order_of_isUnion`: the order of a union needs what both orders need;
* `Compiler.build_append`: the query for both is met where the query for each is.

## Design notes

No metatag is in both of the mappings. Since the metatags for the status are looked at
together, they are all in the same mapping.
-/

namespace BoardSearch

namespace Request

variable {now : Moment}

/-- The posts that an order needs depend on the token alone; there is none without it. -/
theorem must_of_resolveOrder {request : Request} {resolution : Resolution}
    (h : request.resolveOrder now = .ok resolution) :
    (request.orderToken? = .ok none ∧ resolution.must = []) ∨
      ∃ token requirements, request.orderToken? = .ok (some token) ∧
        Order.requirements now token = .ok requirements ∧
        resolution.must = requirements ++ if token = Order.rank then [.ranked] else [] := by
  unfold resolveOrder at h
  obtain ⟨token?, htoken, h⟩ := bind_eq_ok.mp h
  cases token? with
  | none =>
    obtain rfl := Except.ok.inj h
    exact .inl ⟨htoken, rfl⟩
  | some token =>
    obtain ⟨requirements, hrequirements, h⟩ := bind_eq_ok.mp h
    refine .inr ⟨token, requirements, htoken, hrequirements, ?_⟩
    by_cases hrank : token = Order.rank
    · rw [if_pos hrank] at h ⊢
      obtain rfl := Except.ok.inj h
      rfl
    · rw [if_neg hrank] at h ⊢
      rw [List.append_nil]
      split at h
      · obtain ⟨scoring, _, h⟩ := bind_eq_ok.mp h
        obtain rfl := Except.ok.inj h
        rfl
      · obtain rfl := Except.ok.inj h
        rfl

/-- Two requests with the same order need the same posts. -/
theorem must_congr {request request' : Request} {resolution resolution' : Resolution}
    (hname : request.get? "order" = request'.get? "order")
    (h : request.resolveOrder now = .ok resolution)
    (h' : request'.resolveOrder now = .ok resolution') : resolution.must = resolution'.must := by
  have htoken : request.orderToken? = request'.orderToken? := by
    simp only [orderToken?, scalar?, hname]
  obtain ⟨hnone, hmust⟩ | ⟨token, needs, hsome, hneeds, hmust⟩ := must_of_resolveOrder h
  · obtain ⟨_, hmust'⟩ | ⟨_, _, hsome', _⟩ := must_of_resolveOrder h'
    · rw [hmust, hmust']
    · simp [htoken, hsome'] at hnone
  · obtain ⟨hnone', _⟩ | ⟨token', needs', hsome', hneeds', hmust'⟩ := must_of_resolveOrder h'
    · simp [htoken, hnone'] at hsome
    · obtain rfl : token' = token := by simpa [htoken, hsome'] using hsome
      obtain rfl : needs' = needs := by simpa [hneeds'] using hneeds
      rw [hmust, hmust']

/-- Without an order no posts are needed. -/
theorem must_of_no_order {request : Request} {resolution : Resolution}
    (hname : request.get? "order" = none)
    (h : request.resolveOrder now = .ok resolution) : resolution.must = [] := by
  have htoken : request.orderToken? = .ok none := by simp [orderToken?, scalar?, hname]
  obtain ⟨_, hmust⟩ | ⟨token, _, hsome, _⟩ := must_of_resolveOrder h
  · exact hmust
  · simp [htoken] at hsome

/-- The order of a union needs what the orders of both requests need. -/
theorem meets_order_of_isUnion {τ : Truth} {whole left right : Request}
    {ofWhole ofLeft ofRight : Resolution} (hunion : whole.IsUnion left right)
    (hwhole : whole.resolveOrder now = .ok ofWhole) (hleft : left.resolveOrder now = .ok ofLeft)
    (hright : right.resolveOrder now = .ok ofRight) :
    (∀ q ∈ ofWhole.must, τ.meets q = true) ↔
      (∀ q ∈ ofLeft.must, τ.meets q = true) ∧ ∀ q ∈ ofRight.must, τ.meets q = true := by
  obtain ⟨hname, hnone⟩ | ⟨hname, hnone⟩ := hunion.of_name "order"
  · rw [must_congr hname hwhole hleft, must_of_no_order hnone hright]
    simp
  · rw [must_congr hname hwhole hright, must_of_no_order hnone hleft]
    simp

/-- Two mappings without a common name are read one after another as the union of what
both are read as. -/
theorem isUnion_of_read {A B metatags metatags' : List (String × Value)}
    (hA : A.mapM readField = .ok metatags) (hB : B.mapM readField = .ok metatags')
    (hdisjoint : ∀ name ∈ A.map Prod.fst, name ∉ B.map Prod.fst)
    (hstatus : (∀ name ∈ statusNames, name ∉ B.map Prod.fst) ∨
      ∀ name ∈ statusNames, name ∉ A.map Prod.fst) :
    IsUnion ⟨Keyed.ofEntries (metatags ++ metatags')⟩ ⟨Keyed.ofEntries metatags⟩
      ⟨Keyed.ofEntries metatags'⟩ := by
  constructor
  · intro name
    rw [get?_append]
    by_cases hname : name ∈ A.map Prod.fst
    · have hnone := get?_eq_none_of_read hB (hdisjoint name hname)
      rw [hnone]
      exact .inl ⟨Option.none_or, rfl⟩
    · have hnone := get?_eq_none_of_read hA hname
      rw [hnone]
      exact .inr ⟨Option.or_none, rfl⟩
  · obtain hnames | hnames := hstatus
    · exact .inl fun name hname => get?_eq_none_of_read hB (hnames name hname)
    · exact .inr fun name hname => get?_eq_none_of_read hA (hnames name hname)

end Request

namespace Compiler

variable {session : Session} {tokenizer : Option Tokenizer} {clock : Clock}

/-- A search for a mapping has read the mapping entry by entry; and it is met by what the
filters of the request admit, if it also meets what the order needs. -/
theorem meets_of_build_record {entries : List (String × Value)} {search : Search}
    (h : ((new (.record entries) session tokenizer).build clock none).result = .ok search) :
    ∃ metatags resolution query, entries.mapM Request.readField = .ok metatags ∧
      Request.resolveOrder ⟨Keyed.ofEntries metatags⟩ clock.now = .ok resolution ∧
      search.query = some query ∧
      ∀ τ : Truth, τ.meets query = true ↔
        (Request.filterContribution ⟨Keyed.ofEntries metatags⟩ session.safeMode.truthy
          session.adminMode.truthy).Admits τ ∧ ∀ q ∈ resolution.must, τ.meets q = true := by
  obtain ⟨request, resolution, hparse, hfilters, horder, hquery⟩ := stages_of_build h
  have hread : Request.ofValue (.record entries) = .ok request := hparse
  obtain ⟨metatags, hmetatags, rfl⟩ := Request.exists_read_of_ofValue hread
  exact ⟨metatags, resolution, _, hmetatags, horder, hquery, fun τ => meets_filled hfilters⟩

/-- In admin mode the metatags of two mappings combine as a conjunction: a post meets the
query for both mappings together where it meets the query for each of them. -/
theorem build_append {A B : List (String × Value)} {whole left right : Search}
    (hadmin : session.adminMode.truthy = true)
    (hdisjoint : ∀ name ∈ A.map Prod.fst, name ∉ B.map Prod.fst)
    (hstatus : (∀ name ∈ Request.statusNames, name ∉ B.map Prod.fst) ∨
      ∀ name ∈ Request.statusNames, name ∉ A.map Prod.fst)
    (hwhole : ((new (.record (A ++ B)) session tokenizer).build clock none).result = .ok whole)
    (hleft : ((new (.record A) session tokenizer).build clock none).result = .ok left)
    (hright : ((new (.record B) session tokenizer).build clock none).result = .ok right) :
    ∃ ofWhole ofLeft ofRight, whole.query = some ofWhole ∧ left.query = some ofLeft ∧
      right.query = some ofRight ∧ ∀ τ : Truth, τ.meets ofWhole = true ↔
        τ.meets ofLeft = true ∧ τ.meets ofRight = true := by
  obtain ⟨metatags, ra, qa, hA, hra, hqa, hmeetsA⟩ := meets_of_build_record hleft
  obtain ⟨metatags', rb, qb, hB, hrb, hqb, hmeetsB⟩ := meets_of_build_record hright
  obtain ⟨all, ru, qu, hU, hru, hqu, hmeets⟩ := meets_of_build_record hwhole
  obtain rfl : metatags ++ metatags' = all := by
    rw [List.mapM_append, hA, hB] at hU
    exact Except.ok.inj hU
  -- all three queries ask for their filters and for what their orders need, and both split
  have hunion := Request.isUnion_of_read hA hB hdisjoint hstatus
  refine ⟨qu, qa, qb, hqu, hqa, hqb, fun τ => ?_⟩
  rw [hmeets τ, hmeetsA τ, hmeetsB τ, hadmin, Contribution.splits_filterContribution hunion,
    Request.meets_order_of_isUnion hunion hru hra hrb]
  exact and_and_and_comm

/-- Deleted posts by their rank, under a lock and with a tag. -/
theorem build_append_rank_lock :
    ∃ whole left right ofWhole ofLeft ofRight,
      ((new (.record ([("status", .text "deleted"), ("order", .text "rank")] ++
        [("locked", .list [.text "notes"]), ("tags", .tags [] [.text "dog"] [.text "cat"])]))
          .administrator none).build .leapDay none).result = .ok whole ∧
      ((new (.record [("status", .text "deleted"), ("order", .text "rank")])
          .administrator none).build .leapDay none).result = .ok left ∧
      ((new (.record
        [("locked", .list [.text "notes"]), ("tags", .tags [] [.text "dog"] [.text "cat"])])
          .administrator none).build .leapDay none).result = .ok right ∧
      whole.query = some ofWhole ∧ left.query = some ofLeft ∧ right.query = some ofRight ∧
      ∀ τ : Truth, τ.meets ofWhole = true ↔ τ.meets ofLeft = true ∧ τ.meets ofRight = true := by
  obtain ⟨whole, hwhole⟩ := exists_eq_ok (x := ((new (.record
    ([("status", .text "deleted"), ("order", .text "rank")] ++
      [("locked", .list [.text "notes"]), ("tags", .tags [] [.text "dog"] [.text "cat"])]))
    .administrator none).build .leapDay none).result) (by decide +kernel)
  obtain ⟨left, hleft⟩ := exists_eq_ok (x := ((new (.record
    [("status", .text "deleted"), ("order", .text "rank")])
    .administrator none).build .leapDay none).result) (by decide +kernel)
  obtain ⟨right, hright⟩ := exists_eq_ok (x := ((new (.record
    [("locked", .list [.text "notes"]), ("tags", .tags [] [.text "dog"] [.text "cat"])])
    .administrator none).build .leapDay none).result) (by decide +kernel)
  obtain ⟨ofWhole, ofLeft, ofRight, hqueries⟩ :=
    build_append rfl (by decide) (.inl (by decide)) hwhole hleft hright
  exact ⟨whole, left, right, ofWhole, ofLeft, ofRight, hwhole, hleft, hright, hqueries⟩

end Compiler

end BoardSearch
