import BoardSearch.Proofs.Compiler.Union
import BoardSearch.Proofs.Relation.Comparison

/-!
# What compiled queries compare with

A compiled query compares with truth values, texts, numbers and moments of its own, and
with values of the request. A scalar is a single value, but an accessor does not look
into a list, a range condition or a grouping of tags, nor does it look at a flag at all.
So those reach the query even where they are no single values.

## Main definitions

* `Value.isSingle`: a value that a field can be compared with.

## Main statements

* `Compiler.build_compares_iff`: what the query of a build compares with;
* `Compiler.build_compares_singles_iff`: when those are single values.
-/

namespace BoardSearch

/-- A text, a truth value, a number, a date or a moment. An operator counts as its word. -/
def Value.isSingle : Value → Bool
  | .bool _ | .int _ | .float _ | .text _ | .operator _ | .date _ | .moment _ => true
  | _ => false

theorem Value.isSingle_of_isAtom {value : Value} (h : value.isAtom = true) :
    value.isSingle = true := by
  cases value <;> simp_all [isAtom, isSingle]

variable {R : Query → Prop} {P : Value → Prop}

/-! ## The order -/

/-- What an order needs comes down to a zero and a moment at most. -/
theorem Request.keeps_resolveOrder (h : Query.ComesDownTo R P) (hzero : P (.int 0))
    (hmoment : ∀ m, P (.moment m)) {request : Request} {now : Moment} {resolution : Resolution}
    (horder : request.resolveOrder now = .ok resolution) : ∀ q ∈ resolution.must, R q := by
  have hneeds : ∀ token requirements, Order.requirements now token = .ok requirements →
      ∀ q ∈ requirements, R q := by
    intro token requirements hrequirements
    unfold Order.requirements at hrequirements
    split at hrequirements
    · split at hrequirements
      · obtain rfl := Except.ok.inj hrequirements
        simp [h.range, hzero, hmoment]
      · simp at hrequirements
    · split at hrequirements
      · obtain rfl := Except.ok.inj hrequirements
        simp [h.present]
      · split at hrequirements <;>
        · obtain rfl := Except.ok.inj hrequirements
          simp [h.present]
  obtain ⟨-, hmust⟩ | ⟨token, requirements, -, hrequirements, hmust⟩ :=
    must_of_resolveOrder horder
  · simp [hmust]
  · rw [hmust, List.forall_mem_append]
    refine ⟨hneeds token requirements hrequirements, ?_⟩
    split
    · exact List.forall_mem_singleton.mpr h.ranked
    · simp

namespace Compiler

/-! ## The query -/

/-- The query of what was collected comes down to what was collected, if a score around it
changes nothing. -/
theorem keeps_collected (h : Query.ComesDownTo R P) {c : Compiler}
    (hwrap : ∀ scoring, c.scoring = some scoring → ∀ q, R (scoring.wrap q) ↔ R q) :
    R c.collected ↔ (∀ q ∈ c.must, R q) ∧ ∀ q ∈ c.mustNot, R q := by
  have hbool : R (.bool [] c.must c.mustNot [] none .usual) ↔
      (∀ q ∈ c.must, R q) ∧ ∀ q ∈ c.mustNot, R q := by
    simp [h.bool]
  unfold collected
  cases hscoring : c.scoring with
  | none => exact hbool
  | some scoring => exact (hwrap scoring hscoring _).trans hbool

/-- That every post is required where nothing else is adds nothing. -/
theorem keeps_withRequirement (h : Query.ComesDownTo R P) {c : Compiler}
    (hwrap : ∀ scoring, c.scoring = some scoring → ∀ q, R (scoring.wrap q) ↔ R q) :
    R c.withRequirement.collected ↔ (∀ q ∈ c.must, R q) ∧ ∀ q ∈ c.mustNot, R q := by
  unfold withRequirement
  cases hmust : c.must with
  | nil =>
    have hcollected := keeps_collected h (c := { c with must := [.matchAll []] }) hwrap
    simpa [h.everything] using hcollected
  | cons q rest =>
    have hcollected := keeps_collected h hwrap
    simpa [hmust] using hcollected

/-- The query of a build without a query to narrow down comes down to scalars of the request,
and to what the request supplies. -/
theorem build_keeps_iff (h : Query.ComesDownTo R P) (htext : ∀ s, P (.text s))
    (hbool : ∀ b, P (.bool b)) (hzero : P (.int 0)) (hmoment : ∀ m, P (.moment m))
    {c : Compiler} {clock : Clock} {base : Option Search} {search : Search}
    (hwrap : ∀ request resolution scoring, c.parse = .ok request →
      request.resolveOrder clock.now = .ok resolution → resolution.scoring = some scoring →
        ∀ q, R (scoring.wrap q) ↔ R q)
    (hbase : base.bind (·.query) = none) (hbuild : (c.build clock base).result = .ok search) :
    ∃ request query, c.parse = .ok request ∧ search.query = some query ∧ (R query ↔
      (∀ name ∈ Request.scalarNames, ∀ value, request.scalar? name = some value → P value) ∧
        request.Supplies P) := by
  obtain ⟨request, resolution, hparse, hfilters, horder, hquery⟩ := stages_of_build hbuild
  rw [hbase] at hquery
  refine ⟨request, _, hparse, hquery, ?_⟩
  have hneeds := Request.keeps_resolveOrder h hzero hmoment horder
  rw [keeps_withRequirement h (hwrap request resolution · hparse horder),
    ← Request.keeps_filterContribution request h htext hbool hfilters]
  show (∀ q ∈ (c.filters request).must ++ resolution.must, R q) ∧
    (∀ q ∈ (c.filters request).mustNot, R q) ↔ (c.filters request).Keeps R
  rw [List.forall_mem_append, and_iff_left hneeds]
  rfl

/-- The query of a build without a query to narrow down compares with scalars of the
request, and with what the request supplies. -/
theorem build_compares_iff (htext : ∀ s, P (.text s)) (hbool : ∀ b, P (.bool b))
    (hzero : P (.int 0)) (hmoment : ∀ m, P (.moment m)) {c : Compiler} {clock : Clock}
    {base : Option Search} {search : Search} (hbase : base.bind (·.query) = none)
    (h : (c.build clock base).result = .ok search) :
    ∃ request query, c.parse = .ok request ∧ search.query = some query ∧ (query.Compares P ↔
      (∀ name ∈ Request.scalarNames, ∀ value, request.scalar? name = some value → P value) ∧
        request.Supplies P) :=
  build_keeps_iff Query.comesDownTo_compares htext hbool hzero hmoment
    (fun _ _ _ _ _ _ _ => Query.compares_functionScore) hbase h

/-- The query of a build for plain values compares its fields with single values just where
the members of the lists, the bounds of the range conditions, the flags and the tags of the
request are single values. -/
theorem build_compares_singles_iff {entries : List (String × Value)}
    (hplain : ∀ entry ∈ entries, entry.2.isPlain = true) {c : Compiler} {clock : Clock}
    {base : Option Search} {search : Search} (hentries : c.query = .record entries)
    (hbase : base.bind (·.query) = none) (h : (c.build clock base).result = .ok search) :
    ∃ request query, Request.ofValue (.record entries) = .ok request ∧
      search.query = some query ∧
      ((∀ single ∈ query.clauses, ∀ value ∈ single.values, value.isSingle = true) ↔
        request.Supplies fun value => value.isSingle = true) := by
  obtain ⟨request, query, hparse, hquery, hcompares⟩ :=
    build_compares_iff (P := fun value => value.isSingle = true) (fun _ => rfl) (fun _ => rfl) rfl
      (fun _ => rfl) hbase h
  have hread : Request.ofValue (.record entries) = .ok request := by
    rw [← hparse, parse, hentries]
    rfl
  refine ⟨request, query, hread, hquery, hcompares.trans (and_iff_right ?_)⟩
  intro name _ value hvalue
  exact Value.isSingle_of_isAtom (Request.plain_of_isPlain hplain hread name value hvalue)

/-- A list in a list of identifiers: the query compares with something else than single
values. -/
theorem not_build_compares_singles_list :
    ∃ search query, ((new (.record [("uploader_ids", .list [.list [.int 1]])]) .administrator
        none).build .leapDay none).result = .ok search ∧ search.query = some query ∧
      ¬ ∀ single ∈ query.clauses, ∀ value ∈ single.values, value.isSingle = true := by
  obtain ⟨search, hsearch⟩ := exists_eq_ok (x := ((new (.record
    [("uploader_ids", .list [.list [.int 1]])]) .administrator none).build .leapDay none).result)
    (by decide +kernel)
  have hread : Request.ofValue (.record [("uploader_ids", .list [.list [.int 1]])]) =
      .ok ⟨[("uploader_ids", .list [.list [.int 1]])]⟩ := rfl
  obtain ⟨request, query, hrequest, hquery, hiff⟩ :=
    build_compares_singles_iff (by decide) rfl rfl hsearch
  refine ⟨search, query, hsearch, hquery, fun hsingles => ?_⟩
  obtain rfl := Except.ok.inj (hread.symm.trans hrequest)
  have hmember := (hiff.mp hsingles).members "uploader_ids" (by decide) (.list [.int 1])
    (List.mem_singleton.mpr rfl)
  exact Bool.false_ne_true hmember

/-- Nothing for a flag is a value of JSON, and a clause compares with it. -/
theorem build_flag_null_compares :
    (∀ entry ∈ [("isparent", Value.null)], entry.2.isJson = true) ∧
      ∃ search query, ((new (.record [("isparent", .null)]) .administrator none).build .leapDay
          none).result = .ok search ∧ search.query = some query ∧
        ¬ ∀ single ∈ query.clauses, ∀ value ∈ single.values, value.isSingle = true := by
  refine ⟨by decide, ?_⟩
  obtain ⟨search, hsearch⟩ := exists_eq_ok (x := ((new (.record [("isparent", .null)])
    .administrator none).build .leapDay none).result) (by decide +kernel)
  obtain ⟨request, query, hrequest, hquery, hiff⟩ :=
    build_compares_iff (P := fun value => value.isSingle = true) (fun _ => rfl) (fun _ => rfl) rfl
      (fun _ => rfl) rfl hsearch
  refine ⟨search, query, hsearch, hquery, fun hsingles => ?_⟩
  obtain rfl : ⟨[("isparent", .null)]⟩ = request := Except.ok.inj hrequest
  exact Bool.false_ne_true ((hiff.mp hsingles).2.flags "isparent" (by decide) .null rfl)

end Compiler

end BoardSearch
