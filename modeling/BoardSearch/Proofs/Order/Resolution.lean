import BoardSearch.Proofs.Compiler.Breaking
import BoardSearch.Proofs.Order.Grammar

/-!
# What orders resolve to

A request without an order shows the newest posts first, and so does one whose order is
no token of the grammar. The rank and the random order go by a score, all other orders by
the keys that spell them. Some orders mean nothing for some posts, and ask for the others.

An order gives no result in two cases: the rank where the calendar does not reach back two
days, and the random order where its seed begins with a numeral that is refused.

## Main definitions

* `Order.prefilters`: what the posts need that a token is to put in order;
* `Order.Resolves`: what a token resolves to, rule by rule.

## Main statements

* `Request.resolveOrder_of_resolves`, `Request.resolves_of_resolveOrder`: the order of a
  request resolves by these rules alone;
* `Request.exists_resolveOrder_iff`: when it resolves;
* `Request.order_resolves_by_grammar`: both, with what each part of a result tells about
  the token.
-/

namespace BoardSearch

namespace Order

/-- The clauses for posts that a token can put in order, the rank aside. -/
def prefilters (token : String) : List Query :=
  if token ∈ needsDimensions then [.present "width", .present "height"]
  else if token ∈ needsBump then [.present "comment_bumped_at"]
  else []

/-- What the order of a request resolves to, by the token that it is. -/
inductive Resolves (request : Request) (now : Moment) : Option String → Resolution → Prop
  /-- Without an order the newest posts come first. -/
  | unordered : Resolves request now none ⟨[.desc "id"], [], none⟩
  /-- The rank is a score for posts of the last two days that have been voted up. -/
  | ranked {start : Moment} (h : twoDaysBefore? now = some start) :
      Resolves request now (some "rank") ⟨[.desc "_score"],
        [.range "score" "gt" (.int 0), .range "created_at" "gte" (.moment start), .ranked], none⟩
  /-- Without a seed the random order is another one for every search. -/
  | shuffled (h : request.scalar? "random" = none) :
      Resolves request now (some "random") ⟨[.desc "_score"], [], some (.random none)⟩
  /-- With a seed, which is an integer, the random order can be repeated. -/
  | seeded {seed : Int} (hgiven : request.scalar? "random" ≠ none)
      (h : request.integer "random" 0 = .ok seed) :
      Resolves request now (some "random")
        ⟨[.desc "_score"], [], some (.random (some (.int seed)))⟩
  /-- A token of the grammar has keys and goes with what the posts need for it. -/
  | spelled {token : String} {keys : List SortKey} (h : Spells token keys) :
      Resolves request now (some token) ⟨keys, prefilters token, none⟩
  /-- Any other token counts for nothing. -/
  | unknown {token : String} (hrank : token ≠ "rank") (hrandom : token ≠ "random")
      (h : ∀ keys, ¬Spells token keys) :
      Resolves request now (some token) ⟨[.desc "id"], [], none⟩

/-- Only tokens of the table need anything. -/
theorem exists_spells_of_needs :
    ∀ token ∈ needsDimensions ++ needsBump, ∃ keys, Spells token keys := by
  have hlisted : ∀ token ∈ needsDimensions ++ needsBump, ∃ entry ∈ table, entry.1 = token := by
    decide +kernel
  intro token htoken
  obtain ⟨⟨_, keys⟩, hentry, rfl⟩ := hlisted token htoken
  exact ⟨keys, .listed hentry⟩

theorem prefilters_ne_nil {token : String} :
    prefilters token ≠ [] ↔ token ∈ needsDimensions ++ needsBump := by
  unfold prefilters
  rw [List.mem_append]
  split
  · next h => simp [h]
  · next h => split <;> simp_all

theorem prefilters_of_not_spells {token : String} (h : ∀ keys, ¬Spells token keys) :
    prefilters token = [] := by
  refine Classical.byContradiction fun hne => ?_
  obtain ⟨keys, hspells⟩ := exists_spells_of_needs token (prefilters_ne_nil.mp hne)
  exact h keys hspells

theorem requirements_of_ne_rank {token : String} (h : token ≠ rank) (now : Moment) :
    requirements now token = .ok (prefilters token) := by
  unfold requirements prefilters
  rw [if_neg h]
  simp only [List.contains_iff_mem]
  split
  · rfl
  · split <;> rfl

/-- The rank looks at the posts of the last two days that have been voted up. -/
theorem requirements_rank {now start : Moment} (h : twoDaysBefore? now = some start) :
    requirements now rank =
      .ok [.range "score" "gt" (.int 0), .range "created_at" "gte" (.moment start)] := by
  unfold requirements
  rw [if_pos rfl, h]

theorem exists_of_requirements_rank {now : Moment} {clauses : List Query}
    (h : requirements now rank = .ok clauses) :
    ∃ start, twoDaysBefore? now = some start ∧
      clauses = [.range "score" "gt" (.int 0), .range "created_at" "gte" (.moment start)] := by
  unfold requirements at h
  rw [if_pos rfl] at h
  cases hstart : twoDaysBefore? now with
  | none => simp [hstart] at h
  | some start =>
    rw [hstart] at h
    exact ⟨start, rfl, (Except.ok.inj h).symm⟩

/-! ## What the parts of a result tell -/

variable {request : Request} {now : Moment} {token : Option String} {resolution : Resolution}

/-- Every order sorts by something. -/
theorem Resolves.sort_ne_nil (h : Resolves request now token resolution) :
    resolution.sort ≠ [] := by
  cases h with
  | spelled hspells => exact ne_nil_of_spells hspells
  | _ => exact List.cons_ne_nil _ _

/-- The random order alone makes a score of its own. -/
theorem Resolves.scoring_isSome_iff (h : Resolves request now token resolution) :
    resolution.scoring.isSome = true ↔ token = some random := by
  cases h with
  | shuffled _ => exact iff_of_true rfl rfl
  | seeded _ _ => exact iff_of_true rfl rfl
  | unordered => exact iff_of_false nofun nofun
  | ranked _ => exact iff_of_false nofun (by decide)
  | spelled hspells =>
    refine iff_of_false nofun fun hrandom => ?_
    rw [Option.some.inj hrandom] at hspells
    exact (unread_byScore random (by decide)).not_spells _ hspells
  | unknown _ hrandom _ => exact iff_of_false nofun fun heq => hrandom (Option.some.inj heq)

/-- The rank asks for something, and so do the orders that need something. -/
theorem Resolves.must_ne_nil_iff (h : Resolves request now token resolution) :
    resolution.must ≠ [] ↔ ∃ word ∈ rank :: (needsDimensions ++ needsBump), token = some word := by
  cases h with
  | unordered => simp
  | ranked _ => simp [rank]
  | shuffled _ => simp [rank, needsDimensions, needsBump]
  | seeded _ _ => simp [rank, needsDimensions, needsBump]
  | @spelled token keys hspells =>
    have hrank : token ≠ rank := by
      rintro rfl
      exact (unread_byScore rank (by decide)).not_spells _ hspells
    simp [prefilters_ne_nil, hrank]
  | @unknown token hrank _ hspells =>
    have hfree : token ∉ needsDimensions ++ needsBump := by
      intro hmem
      obtain ⟨keys, hkeys⟩ := exists_spells_of_needs token hmem
      exact hspells keys hkeys
    refine iff_of_false (fun hne => hne rfl) ?_
    rintro ⟨word, hword, heq⟩
    obtain rfl := Option.some.inj heq
    obtain rfl | hmem := List.mem_cons.mp hword
    · exact hrank rfl
    · exact hfree hmem

end Order

namespace Request

variable {request : Request} {now : Moment} {token : Option String} {resolution : Resolution}

/-- The random score has the seed of the request, if it has one. -/
theorem randomScoring_eq_ok_iff {scoring : Scoring} :
    request.randomScoring = .ok scoring ↔
      request.scalar? "random" = none ∧ .random none = scoring ∨
      request.scalar? "random" ≠ none ∧ ∃ seed, request.integer "random" 0 = .ok seed ∧
        .random (some (.int seed)) = scoring := by
  unfold randomScoring
  cases request.scalar? "random" with
  | none => simp
  | some value => simp [map_eq_ok]

theorem resolveOrder_unordered (htoken : request.orderToken? = .ok none) :
    request.resolveOrder now = .ok ⟨Order.fallback, [], none⟩ := by
  unfold resolveOrder
  rw [htoken]
  rfl

theorem resolveOrder_rank (htoken : request.orderToken? = .ok (some Order.rank)) :
    request.resolveOrder now =
      (Order.requirements now Order.rank).map fun requirements =>
        ⟨Order.byScore, requirements ++ [.ranked], none⟩ := by
  unfold resolveOrder
  rw [htoken]
  show (Order.requirements now Order.rank >>= fun requirements =>
    (.ok ⟨Order.byScore, requirements ++ [.ranked], none⟩ : Except Failure Resolution)) = _
  cases Order.requirements now Order.rank <;> rfl

theorem resolveOrder_random (htoken : request.orderToken? = .ok (some Order.random)) :
    request.resolveOrder now =
      request.randomScoring.map fun scoring => ⟨Order.byScore, [], some scoring⟩ := by
  unfold resolveOrder
  rw [htoken]
  show (Order.requirements now Order.random >>= fun requirements => request.randomScoring >>=
    fun scoring => (.ok ⟨Order.byScore, requirements, some scoring⟩ : Except Failure Resolution)) = _
  rw [Order.requirements_of_ne_rank (by decide)]
  show (request.randomScoring >>= fun scoring =>
    (.ok ⟨Order.byScore, [], some scoring⟩ : Except Failure Resolution)) = _
  cases request.randomScoring <;> rfl

theorem resolveOrder_keys {word : String} (htoken : request.orderToken? = .ok (some word))
    (hrank : word ≠ Order.rank) (hrandom : word ≠ Order.random) :
    request.resolveOrder now = .ok ⟨Order.keys word, Order.prefilters word, none⟩ := by
  unfold resolveOrder
  rw [htoken]
  show (Order.requirements now word >>= fun requirements => if word = Order.rank
    then _ else if word = Order.random then _ else _) = _
  rw [Order.requirements_of_ne_rank hrank]
  show (if word = Order.rank then _ else _) = _
  rw [if_neg hrank, if_neg hrandom]
  rfl

/-- What the rules say is what the order resolves to. -/
theorem resolveOrder_of_resolves (htoken : request.orderToken? = .ok token)
    (h : Order.Resolves request now token resolution) :
    request.resolveOrder now = .ok resolution := by
  cases h with
  | unordered => exact resolveOrder_unordered htoken
  | ranked hstart =>
    rw [resolveOrder_rank htoken, Order.requirements_rank hstart]
    rfl
  | shuffled hmissing =>
    have hscoring := randomScoring_eq_ok_iff.mpr (.inl ⟨hmissing, rfl⟩)
    rw [resolveOrder_random htoken, hscoring]
    rfl
  | seeded hgiven hseed =>
    have hscoring := randomScoring_eq_ok_iff.mpr (.inr ⟨hgiven, _, hseed, rfl⟩)
    rw [resolveOrder_random htoken, hscoring]
    rfl
  | spelled hspells =>
    -- the orders by a score are looked for first, but no rule spells them
    rw [resolveOrder_keys htoken ?_ ?_, Order.keys_of_spells hspells]
    · rintro rfl
      exact (Order.unread_byScore Order.rank (by decide)).not_spells _ hspells
    · rintro rfl
      exact (Order.unread_byScore Order.random (by decide)).not_spells _ hspells
  | unknown hrank hrandom hspells =>
    obtain hfound | ⟨hfallback, _⟩ := Order.spells_or_fallback _
    · exact absurd hfound (hspells _)
    · rw [resolveOrder_keys htoken hrank hrandom, hfallback,
        Order.prefilters_of_not_spells hspells]
      rfl

/-- What the order resolves to is what one of the rules says. -/
theorem resolves_of_resolveOrder (htoken : request.orderToken? = .ok token)
    (h : request.resolveOrder now = .ok resolution) :
    Order.Resolves request now token resolution := by
  cases token with
  | none =>
    rw [resolveOrder_unordered htoken] at h
    rw [← Except.ok.inj h]
    exact .unordered
  | some word =>
    by_cases hrank : word = Order.rank
    · subst hrank
      rw [resolveOrder_rank htoken] at h
      obtain ⟨requirements, hrequirements, rfl⟩ := map_eq_ok.mp h
      obtain ⟨start, hstart, rfl⟩ := Order.exists_of_requirements_rank hrequirements
      exact .ranked hstart
    · by_cases hrandom : word = Order.random
      · subst hrandom
        rw [resolveOrder_random htoken] at h
        obtain ⟨scoring, hscoring, rfl⟩ := map_eq_ok.mp h
        obtain ⟨hmissing, rfl⟩ | ⟨hgiven, seed, hseed, rfl⟩ := randomScoring_eq_ok_iff.mp hscoring
        · exact .shuffled hmissing
        · exact .seeded hgiven hseed
      · rw [resolveOrder_keys htoken hrank hrandom] at h
        rw [← Except.ok.inj h]
        obtain hspells | ⟨hfallback, hspells⟩ := Order.spells_or_fallback word
        · exact .spelled hspells
        · rw [hfallback, Order.prefilters_of_not_spells hspells]
          exact .unknown hrank hrandom hspells

/-- The order of a request resolves but for a rank that is out of the calendar and a seed
that cannot be read. -/
theorem exists_resolveOrder_iff (htoken : request.orderToken? = .ok token) :
    (∃ resolution, request.resolveOrder now = .ok resolution) ↔
      (token = some Order.rank → Order.twoDaysBefore? now ≠ none) ∧
      (token = some Order.random → ∃ scoring, request.randomScoring = .ok scoring) := by
  constructor
  · rintro ⟨resolution, hresolution⟩
    refine ⟨?_, ?_⟩
    · rintro rfl
      rw [resolveOrder_rank htoken] at hresolution
      obtain ⟨requirements, hrequirements, -⟩ := map_eq_ok.mp hresolution
      obtain ⟨start, hstart, -⟩ := Order.exists_of_requirements_rank hrequirements
      rw [hstart]
      exact nofun
    · rintro rfl
      rw [resolveOrder_random htoken] at hresolution
      obtain ⟨scoring, hscoring, -⟩ := map_eq_ok.mp hresolution
      exact ⟨scoring, hscoring⟩
  · rintro ⟨hrank, hrandom⟩
    cases token with
    | none => exact ⟨_, resolveOrder_unordered htoken⟩
    | some word =>
      by_cases hword : word = Order.rank
      · subst hword
        obtain ⟨start, hstart⟩ := Option.ne_none_iff_exists'.mp (hrank rfl)
        exact ⟨_, resolveOrder_of_resolves htoken (.ranked hstart)⟩
      · by_cases hword' : word = Order.random
        · subst hword'
          obtain ⟨scoring, hscoring⟩ := hrandom rfl
          refine ⟨⟨Order.byScore, [], some scoring⟩, ?_⟩
          rw [resolveOrder_random htoken, hscoring]
          rfl
        · exact ⟨_, resolveOrder_keys htoken hword hword'⟩

/-- The order of a request resolves by the rules of the grammar alone. Clauses come with
the rank and with the orders that need something of the posts, a score with the random
order, and sort keys with every order. It resolves unless it is the rank and the calendar
does not reach back, or random and the seed begins with a numeral that is refused. -/
theorem order_resolves_by_grammar (request : Request) (now : Moment) (token : Option String)
    (htoken : request.orderToken? = .ok token) :
    (∀ resolution, request.resolveOrder now = .ok resolution ↔
      Order.Resolves request now token resolution) ∧
    (∀ resolution, request.resolveOrder now = .ok resolution →
      (resolution.must ≠ [] ↔
        ∃ word ∈ Order.rank :: (Order.needsDimensions ++ Order.needsBump), token = some word) ∧
      (resolution.scoring.isSome = true ↔ token = some Order.random) ∧
      resolution.sort ≠ []) ∧
    ((∃ resolution, request.resolveOrder now = .ok resolution) ↔
      (token = some Order.rank → Order.twoDaysBefore? now ≠ none) ∧
      (token = some Order.random → ∃ scoring, request.randomScoring = .ok scoring)) ∧
    (request.Plain →
      ((∃ scoring, request.randomScoring = .ok scoring) ↔ ¬request.RefusesNumeral "random")) := by
  refine ⟨fun resolution => ?_, fun resolution hresolution => ?_, ?_, fun hplain => ?_⟩
  · exact ⟨resolves_of_resolveOrder htoken, resolveOrder_of_resolves htoken⟩
  · have hresolves := resolves_of_resolveOrder htoken hresolution
    exact ⟨hresolves.must_ne_nil_iff, hresolves.scoring_isSome_iff, hresolves.sort_ne_nil⟩
  · exact exists_resolveOrder_iff htoken
  · exact (failsIff_randomScoring hplain).exists_ok_iff

/-- A count in letters of either case, with a direction behind it. -/
theorem order_resolves_by_grammar_count :
    orderToken? ⟨[("order", .text "Comment_Count_ASC")]⟩ = .ok (some "Comment_Count_ASC") ∧
    resolveOrder ⟨[("order", .text "Comment_Count_ASC")]⟩ Clock.leapDay.now =
      .ok ⟨[.asc "comment_count", .asc "id"], [], none⟩ := by
  have htoken : orderToken? ⟨[("order", .text "Comment_Count_ASC")]⟩ =
      .ok (some "Comment_Count_ASC") := rfl
  have hspells : Order.Spells "Comment_Count_ASC" [.asc "comment_count", .asc "id"] :=
    .count (some .asc) (List.mem_singleton.mpr rfl) (by decide +kernel)
  have hgrammar := order_resolves_by_grammar _ Clock.leapDay.now _ htoken
  exact ⟨htoken, (hgrammar.1 _).mpr (.spelled hspells)⟩

/-- A seed that begins with a separator of information is read as a numeral, and refused. -/
theorem not_order_resolves_separator :
    orderToken? ⟨[("order", .text "random"), ("random", .text "\x1c5")]⟩ = .ok (some "random") ∧
    ¬∃ resolution, resolveOrder ⟨[("order", .text "random"), ("random", .text "\x1c5")]⟩
      Clock.leapDay.now = .ok resolution := by
  refine ⟨rfl, ?_⟩
  rintro ⟨resolution, hresolution⟩
  have hfails : (resolveOrder ⟨[("order", .text "random"), ("random", .text "\x1c5")]⟩
      Clock.leapDay.now).toBool = false := by
    decide +kernel
  rw [hresolution] at hfails
  exact absurd hfails nofun

end Request

end BoardSearch
