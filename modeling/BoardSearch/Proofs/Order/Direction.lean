import BoardSearch.Proofs.Order.Resolution

/-!
# Directions that are spelled out

Most orders are descending where no direction is stated, and then the direction may as well be
spelled out. Seven tokens of the table are not in it with their direction, and lose their order
when it is spelled out. So does a count that has a direction already, in letters of either case:
a token has one direction.

## Main definitions

* `Order.descending`: a token with the descending direction behind it;
* `Order.withoutDescending`: the tokens that are not in the table with their direction.

## Main statements

* `Order.spells_descending`, `Order.unread_withoutDescending`, `Order.not_spells_of_endsDirected`:
  which tokens may have their direction spelled out;
* `Request.descending_resolves_alike_iff`: the same for what the order of a request resolves to.
-/

namespace BoardSearch

namespace Order

/-- The token with the descending direction behind it. -/
def descending (token : String) : String := OrderToken.text ⟨token, some .desc⟩

/-- The text ends in a direction. -/
def endsDirected (text : String) : Bool :=
  SortDirection.all.any fun direction => direction.ending.isSuffixOf text.toList

/-- The first key of a row is descending. -/
def startsDescending (keys : List SortKey) : Bool :=
  keys.head?.any fun key => key.direction == .desc

/-- The descending tokens of the table that are not in it with their direction. -/
def withoutDescending : List String :=
  ["md5", "favcount", "comment", "comm", "comment_bumped", "note", "landscape"]

variable {token : String} {found : List SortKey}

/-- The direction of a token is in small letters. -/
theorem lowerCase_text (base : String) (direction : Option SortDirection) :
    Text.lowerCase (OrderToken.text ⟨base, direction⟩) =
      OrderToken.text ⟨Text.lowerCase base, direction⟩ := by
  cases direction with
  | none => rfl
  | some direction => cases direction <;> simp [Text.lowerCase, OrderToken.text] <;> decide

theorem endsDirected_text (base : String) (direction : SortDirection) :
    endsDirected (OrderToken.text ⟨base, some direction⟩) = true := by
  refine List.any_eq_true.mpr ⟨direction, by cases direction <;> decide, ?_⟩
  rw [OrderToken.toList_text_directed, List.isSuffixOf_iff_suffix]
  exact List.suffix_append base.toList direction.ending

/-! ## The three rules -/

/-- The rest of the table has its tokens with their direction, which need the same. -/
theorem descending_of_mem_table :
    ∀ entry ∈ table, endsDirected (Text.lowerCase entry.1) = false →
      startsDescending entry.2 = true → entry.1 ∉ withoutDescending →
        (descending entry.1, entry.2) ∈ table ∧
        (descending entry.1 ∈ needsDimensions ↔ entry.1 ∈ needsDimensions) ∧
        (descending entry.1 ∈ needsBump ↔ entry.1 ∈ needsBump) := by
  decide +kernel

/-- No rule reads the seven tokens with their direction. -/
theorem unread_withoutDescending : ∀ token ∈ withoutDescending, Unread (descending token) := by
  decide +kernel

/-- A count or a category needs nothing of the posts. -/
theorem prefilters_of_parametric
    (h : countKeys? token = some found ∨ categoryKeys? token = some found) :
    prefilters token = [] := by
  have hunread : ∀ word ∈ needsDimensions ++ needsBump,
      countKeys? word = none ∧ categoryKeys? word = none := by
    decide +kernel
  refine Classical.byContradiction fun hne => ?_
  obtain ⟨hcount, hcategory⟩ := hunread token (prefilters_ne_nil.mp hne)
  rw [hcount, hcategory] at h
  exact h.elim nofun nofun

/-- What an order is without its direction has no other direction. -/
theorem endsDirected_base_of_spells (h : Spells token found) :
    endsDirected (OrderToken.split (Text.lowerCase token)).base = false := by
  have hlisted : ∀ entry ∈ table,
      endsDirected (OrderToken.split (Text.lowerCase entry.1)).base = false := by
    decide +kernel
  have hcounts : ∀ name ∈ countMetatags,
      OrderToken.split name = ⟨name, none⟩ ∧ name ≠ "" ∧ endsDirected name = false := by
    decide
  have hcategories : ∀ category ∈ TagCategory.all,
      let base := Text.lowerCase (category.shortName ++ "tags")
      OrderToken.split base = ⟨base, none⟩ ∧ base ≠ "" ∧ endsDirected base = false := by
    decide +kernel
  cases h with
  | @listed token found hentry => exact hlisted (token, found) hentry
  | @count _ name direction hname htoken =>
    obtain ⟨hsplit, hne, hbare⟩ := hcounts name hname
    rw [htoken, OrderToken.split_text hsplit hne]
    exact hbare
  | category category direction =>
    obtain ⟨hsplit, hne, hbare⟩ := hcategories category category.mem_all
    rw [lowerCase_text, OrderToken.split_text hsplit hne]
    exact hbare

/-- A token with a direction, in letters of either case, is no order with another one. -/
theorem not_spells_of_endsDirected (h : endsDirected (Text.lowerCase token) = true) :
    ∀ found, ¬Spells (descending token) found := by
  intro found hspells
  have hne : Text.lowerCase token ≠ "" := by
    intro hempty
    rw [hempty] at h
    exact absurd h (by decide)
  have hbase := endsDirected_base_of_spells hspells
  rw [descending, lowerCase_text, OrderToken.split_directed hne] at hbase
  exact absurd (h.symm.trans hbase) nofun

/-- Any other descending order is the same order with its direction. -/
theorem spells_descending (h : Spells token found) (hdesc : startsDescending found = true)
    (hkept : token ∉ withoutDescending) (hbare : endsDirected (Text.lowerCase token) = false) :
    Spells (descending token) found ∧ prefilters (descending token) = prefilters token := by
  cases h with
  | listed hentry =>
    obtain ⟨hlisted, hdimensions, hbump⟩ :=
      descending_of_mem_table (token, found) hentry hbare hdesc hkept
    refine ⟨.listed hlisted, ?_⟩
    simp only [prefilters, hdimensions, hbump]
  | @count _ name direction hname htoken =>
    cases direction with
    | some direction =>
      rw [htoken, endsDirected_text] at hbare
      exact absurd hbare nofun
    | none =>
      have hdirected : Text.lowerCase (descending token) = OrderToken.text ⟨name, some .desc⟩ := by
        rw [descending, lowerCase_text, htoken]
        rfl
      have hkeys := countKeys?_eq_some.mpr ⟨name, hname, none, htoken, rfl⟩
      have hkeys' := countKeys?_eq_some.mpr ⟨name, hname, some .desc, hdirected, rfl⟩
      refine ⟨.count (some .desc) hname hdirected, ?_⟩
      rw [prefilters_of_parametric (.inl hkeys), prefilters_of_parametric (.inl hkeys')]
  | category category direction =>
    cases direction with
    | some direction =>
      rw [lowerCase_text, endsDirected_text] at hbare
      exact absurd hbare nofun
    | none =>
      have hkeys := categoryKeys?_eq_some.mpr ⟨category, none, rfl, rfl⟩
      have hkeys' := categoryKeys?_eq_some.mpr ⟨category, some .desc, rfl, rfl⟩
      refine ⟨.category category (some .desc), ?_⟩
      rw [prefilters_of_parametric (.inr hkeys)]
      exact prefilters_of_parametric (.inr hkeys')

end Order

namespace Request

variable {request stated : Request} {now now' : Moment} {token : String} {resolution : Resolution}

/-- Where a descending order has its direction spelled out, it resolves alike but for the seven
tokens of the table and for a count with a direction already. These count for nothing with another
direction behind them. -/
theorem descending_resolves_alike_iff (htoken : request.orderToken? = .ok (some token))
    (hstated : stated.orderToken? = .ok (some (Order.descending token)))
    (hplain : token ∉ [Order.rank, Order.random])
    (hresolution : request.resolveOrder now = .ok resolution)
    (hsort : resolution.sort ≠ Order.fallback)
    (hdesc : Order.startsDescending resolution.sort = true) :
    ∃ resolution', stated.resolveOrder now' = .ok resolution' ∧
      (resolution'.sort = resolution.sort ∧ resolution'.must = resolution.must ↔
        token ∉ Order.withoutDescending ∧
          Order.endsDirected (Text.lowerCase token) = false) ∧
      (resolution'.sort ≠ resolution.sort → resolution' = ⟨Order.fallback, [], none⟩) := by
  have hplain' : ∀ word ∈ [Order.rank, Order.random],
      token ≠ word ∧ Order.descending token ≠ word := by
    intro word hword
    refine ⟨fun heq => hplain (heq ▸ hword), ?_⟩
    rintro rfl
    have hbare : ∀ word ∈ [Order.rank, Order.random], Order.endsDirected word = false := by decide
    exact absurd ((hbare _ hword).symm.trans (Order.endsDirected_text token .desc)) nofun
  obtain ⟨hrank, hrank'⟩ := hplain' Order.rank (by decide)
  obtain ⟨hrandom, hrandom'⟩ := hplain' Order.random (by decide)
  have hstated' := @resolveOrder_keys stated now' _ hstated hrank' hrandom'
  rw [resolveOrder_keys htoken hrank hrandom] at hresolution
  obtain rfl := Except.ok.inj hresolution
  have hspells : Order.Spells token (Order.keys token) :=
    (Order.spells_or_fallback token).resolve_right fun hfallback => hsort hfallback.1
  refine ⟨_, hstated', ?_⟩
  by_cases hkept : token ∉ Order.withoutDescending ∧
      Order.endsDirected (Text.lowerCase token) = false
  · obtain ⟨hspells', hmust⟩ := Order.spells_descending hspells hdesc hkept.1 hkept.2
    have hkeys := Order.keys_of_spells hspells'
    exact ⟨iff_of_true ⟨hkeys, hmust⟩ hkept, fun hne => absurd hkeys hne⟩
  · have hlost : ∀ found, ¬Order.Spells (Order.descending token) found := by
      rw [Decidable.not_and_iff_not_or_not, Decidable.not_not, Bool.not_eq_false] at hkept
      obtain hlisted | htwice := hkept
      · exact (Order.unread_withoutDescending token hlisted).not_spells
      · exact Order.not_spells_of_endsDirected htwice
    obtain ⟨hkeys, -⟩ := (Order.spells_or_fallback _).resolve_left (hlost _)
    refine ⟨iff_of_false ?_ hkept, fun _ => ?_⟩
    · rintro ⟨hsame, -⟩
      exact hsort (hsame.symm.trans hkeys)
    · rw [hkeys, Order.prefilters_of_not_spells hlost]

/-- The pixels of a post are looked at either way, and so are width and height. -/
theorem descending_resolves_alike_mpixels :
    ∃ resolution, resolveOrder ⟨[("order", .text "mpixels_desc")]⟩ Clock.leapDay.now =
        .ok resolution ∧
      resolution.sort = [.desc "mpixels"] ∧
      resolution.must = [.present "width", .present "height"] := by
  have hresolution : resolveOrder ⟨[("order", .text "mpixels")]⟩ Clock.leapDay.now =
      .ok ⟨[.desc "mpixels"], [.present "width", .present "height"], none⟩ :=
    @resolveOrder_keys _ _ "mpixels" rfl (by decide) (by decide)
  have hdescending : "mpixels_desc" = Order.descending "mpixels" := by decide
  have htoken : orderToken? ⟨[("order", .text "mpixels_desc")]⟩ =
      .ok (some (Order.descending "mpixels")) :=
    congrArg (fun word => Except.ok (some word)) hdescending
  obtain ⟨resolution, hstated, halike, -⟩ := @descending_resolves_alike_iff _ _ _ Clock.leapDay.now
    _ _ rfl htoken (by decide) hresolution (by decide) (by decide)
  exact ⟨resolution, hstated, halike.mpr (by decide +kernel)⟩

/-- Favourites count where the direction is left out, and not where it is spelled out. -/
theorem descending_lost_favcount :
    Order.endsDirected "favcount" = false ∧
    resolveOrder ⟨[("order", .text "favcount")]⟩ Clock.leapDay.now =
      .ok ⟨SortKey.tiesById "fav_count" .desc, [], none⟩ ∧
    resolveOrder ⟨[("order", .text "favcount_desc")]⟩ Clock.leapDay.now =
      .ok ⟨Order.fallback, [], none⟩ := by
  have hkeys : Order.keys "favcount_desc" = Order.fallback := by decide +kernel
  refine ⟨by decide, @resolveOrder_keys _ _ "favcount" rfl (by decide) (by decide), ?_⟩
  rw [@resolveOrder_keys _ _ "favcount_desc" rfl (by decide) (by decide), hkeys]
  rfl

end Request

end BoardSearch
