import BoardSearch.Order.Resolution
import BoardSearch.Proofs.Order.Token
import BoardSearch.Proofs.Outcome

/-!
# The grammar of orders

An order is a token of the table, a count that is a metatag, or the tags of a category
under its short name. A count and the tags of a category may have a direction behind them.
No token is an order in two ways, and the sort keys that a token gets are those of the way
in which it is one.

## Main definitions

* `Order.Spells`: a token with its sort keys, by one of the three rules;
* `Order.Unread`: a token that none of the rules reads, as can be computed.

## Main statements

* `Order.keys_of_spells`: a token that is spelled by a rule gets the keys of that rule;
* `Order.spells_or_fallback`: any other token gets the keys of a search without an order.
-/

namespace BoardSearch

theorem TagCategory.ofShortName?_eq_some {word : String} {category : TagCategory} :
    ofShortName? word = some category ↔ category.shortName = word := by
  constructor
  · intro h
    have hfound := List.find?_some h
    exact eq_of_beq hfound
  · rintro rfl
    cases category <;> rfl

/-- A name that has no direction by itself splits off the one that is put behind it. -/
theorem OrderToken.split_text {name : String} (hname : split name = ⟨name, none⟩) (hne : name ≠ "")
    (direction : Option SortDirection) : split (text ⟨name, direction⟩) = ⟨name, direction⟩ := by
  cases direction with
  | none => exact hname
  | some direction => exact split_directed hne direction

namespace Order

/-- A token with its sort keys, by one of three rules. Where no direction is stated it
is descending. -/
inductive Spells : String → List SortKey → Prop
  /-- The token is in the table. -/
  | listed {token : String} {keys : List SortKey} (h : (token, keys) ∈ table) : Spells token keys
  /-- A count, in letters of either case. -/
  | count {token name : String} (direction : Option SortDirection) (hname : name ∈ countMetatags)
      (h : Text.lowerCase token = OrderToken.text ⟨name, direction⟩) :
      Spells token (SortKey.tiesById name (direction.getD .desc))
  /-- The tags of a category. -/
  | category (category : TagCategory) (direction : Option SortDirection) :
      Spells (OrderToken.text ⟨category.shortName ++ "tags", direction⟩)
        [⟨tagCountField category.name, direction.getD .desc, none⟩]

/-- The token is not in the table, no count and no category. -/
def Unread (token : String) : Prop :=
  (∀ entry ∈ table, entry.1 ≠ token) ∧ countKeys? token = none ∧ categoryKeys? token = none

instance : DecidablePred Unread := fun _ => inferInstanceAs (Decidable (_ ∧ _))

theorem countKeys?_eq_some {token : String} {keys : List SortKey} :
    countKeys? token = some keys ↔ ∃ name ∈ countMetatags, ∃ direction,
      Text.lowerCase token = OrderToken.text ⟨name, direction⟩ ∧
        keys = SortKey.tiesById name (direction.getD .desc) := by
  have hplain : ∀ name ∈ countMetatags, OrderToken.split name = ⟨name, none⟩ ∧ name ≠ "" := by
    decide
  unfold countKeys?
  constructor
  · intro h
    have hspelled := OrderToken.text_split (Text.lowerCase token)
    generalize OrderToken.split (Text.lowerCase token) = parts at h hspelled
    dsimp only at h
    split at h
    · next hbase =>
      exact ⟨parts.base, List.contains_iff_mem.mp hbase, parts.direction, hspelled.symm,
        (Option.some.inj h).symm⟩
    · exact absurd h nofun
  · rintro ⟨name, hname, direction, htoken, rfl⟩
    have hsplit : OrderToken.split (Text.lowerCase token) = ⟨name, direction⟩ := by
      rw [htoken]
      exact OrderToken.split_text (hplain name hname).1 (hplain name hname).2 direction
    have hcounts : countMetatags.contains name = true := List.contains_iff_mem.mpr hname
    dsimp only
    rw [hsplit, if_pos hcounts]

theorem categoryKeys?_eq_some {token : String} {keys : List SortKey} :
    categoryKeys? token = some keys ↔ ∃ (category : TagCategory) (direction : Option SortDirection),
      token = OrderToken.text ⟨category.shortName ++ "tags", direction⟩ ∧
        keys = [⟨tagCountField category.name, direction.getD .desc, none⟩] := by
  have hplain : ∀ category ∈ TagCategory.all,
      OrderToken.split (category.shortName ++ "tags") = ⟨category.shortName ++ "tags", none⟩ ∧
        category.shortName ++ "tags" ≠ "" := by
    decide
  have htags : "tags".toList = ['t', 'a', 'g', 's'] := by decide
  unfold categoryKeys?
  constructor
  · intro h
    obtain ⟨shortName, hshort, h⟩ := Option.bind_eq_some_iff.mp h
    obtain ⟨category, hcategory, h⟩ := Option.bind_eq_some_iff.mp h
    refine ⟨category, (OrderToken.split token).direction, ?_, (Option.some.inj h).symm⟩
    have hbase : (OrderToken.split token).base = category.shortName ++ "tags" := by
      rw [TagCategory.ofShortName?_eq_some.mp hcategory, ← String.toList_inj, String.toList_append,
        String.toList_ofList, htags]
      exact withoutEnding?_eq_some.mp hshort
    rw [← hbase]
    exact (OrderToken.text_split token).symm
  · rintro ⟨category, direction, rfl, rfl⟩
    obtain ⟨hsplit, hne⟩ := hplain category category.mem_all
    have hshort : withoutEnding? ['t', 'a', 'g', 's'] (category.shortName ++ "tags").toList =
        some category.shortName.toList := by
      rw [String.toList_append, htags]
      exact withoutEnding?_eq_some.mpr rfl
    have hcategory : TagCategory.ofShortName? (String.ofList category.shortName.toList) =
        some category := by
      rw [String.ofList_toList]
      exact TagCategory.ofShortName?_eq_some.mpr rfl
    rw [OrderToken.split_text hsplit hne]
    simp only [hshort, hcategory, Option.bind_eq_bind, Option.bind_some, Option.pure_def]

/-! ## The rules exclude each other -/

/-- No token is in the table twice. -/
theorem find?_table : ∀ entry ∈ table, (table.find? fun other => other.1 == entry.1) = some entry := by
  decide +kernel

/-- The table has no count and no category. -/
theorem parametric_of_mem_table :
    ∀ entry ∈ table, countKeys? entry.1 = none ∧ categoryKeys? entry.1 = none := by
  decide +kernel

/-- A category is no count. -/
theorem countKeys?_category (category : TagCategory) (direction : Option SortDirection) :
    countKeys? (OrderToken.text ⟨category.shortName ++ "tags", direction⟩) = none := by
  have hall : ∀ direction ∈ [none, some SortDirection.asc, some .desc],
      ∀ category ∈ TagCategory.all,
        countKeys? (OrderToken.text ⟨category.shortName ++ "tags", direction⟩) = none := by
    decide +kernel
  have hdirection : direction ∈ [none, some SortDirection.asc, some .desc] := by
    cases direction with
    | none => simp
    | some direction => cases direction <;> simp
  exact hall direction hdirection category category.mem_all

/-- The keys of a token that is not in the table. -/
theorem keys_of_notMem {token : String} (h : ∀ entry ∈ table, entry.1 ≠ token) :
    keys token = ((countKeys? token).or (categoryKeys? token)).getD fallback := by
  have hmissing : (table.find? fun entry => entry.1 == token) = none := by
    refine List.find?_eq_none.mpr fun entry hentry => ?_
    simpa using h entry hentry
  unfold keys
  rw [hmissing]

theorem keys_of_spells {token : String} {found : List SortKey} (h : Spells token found) :
    keys token = found := by
  cases h with
  | listed hmem =>
    have hfound := find?_table _ hmem
    unfold keys
    rw [hfound]
  | count direction hname htoken =>
    -- the table is looked up first, and has no such token
    have hcount : countKeys? token = some (SortKey.tiesById _ (direction.getD .desc)) :=
      countKeys?_eq_some.mpr ⟨_, hname, direction, htoken, rfl⟩
    have hnew : ∀ entry ∈ table, entry.1 ≠ token := by
      rintro entry hentry rfl
      rw [(parametric_of_mem_table entry hentry).1] at hcount
      exact absurd hcount nofun
    rw [keys_of_notMem hnew, hcount]
    rfl
  | category category direction =>
    have hcategory := categoryKeys?_eq_some.mpr ⟨category, direction, rfl, rfl⟩
    have hnew : ∀ entry ∈ table,
        entry.1 ≠ OrderToken.text ⟨category.shortName ++ "tags", direction⟩ := by
      intro entry hentry heq
      rw [← heq, (parametric_of_mem_table entry hentry).2] at hcategory
      exact absurd hcategory nofun
    rw [keys_of_notMem hnew, countKeys?_category, hcategory]
    rfl

/-- A token that no rule reads is spelled by none. -/
theorem Unread.not_spells {token : String} (h : Unread token) (found : List SortKey) :
    ¬Spells token found := by
  obtain ⟨hnew, hcount, hcategory⟩ := h
  intro hspells
  cases hspells with
  | listed hentry => exact hnew _ hentry rfl
  | count direction hname htoken =>
    have hfound := countKeys?_eq_some.mpr ⟨_, hname, direction, htoken, rfl⟩
    rw [hcount] at hfound
    exact absurd hfound nofun
  | category category direction =>
    have hfound := categoryKeys?_eq_some.mpr ⟨category, direction, rfl, rfl⟩
    rw [hcategory] at hfound
    exact absurd hfound nofun

/-- Every token is spelled by a rule, with its keys, or by none. -/
theorem spells_or_fallback (token : String) :
    Spells token (keys token) ∨ keys token = fallback ∧ ∀ found, ¬Spells token found := by
  by_cases hmem : ∃ entry ∈ table, entry.1 = token
  · obtain ⟨⟨_, found⟩, hentry, rfl⟩ := hmem
    have hspells : Spells _ found := .listed hentry
    left
    rw [keys_of_spells hspells]
    exact hspells
  · have hnew : ∀ entry ∈ table, entry.1 ≠ token := fun entry hentry heq => hmem ⟨entry, hentry, heq⟩
    cases hcount : countKeys? token with
    | some found =>
      obtain ⟨name, hname, direction, htoken, rfl⟩ := countKeys?_eq_some.mp hcount
      have hspells := Spells.count direction hname htoken
      left
      rw [keys_of_spells hspells]
      exact hspells
    | none =>
      cases hcategory : categoryKeys? token with
      | some found =>
        obtain ⟨category, direction, rfl, rfl⟩ := categoryKeys?_eq_some.mp hcategory
        have hspells := Spells.category category direction
        left
        rw [keys_of_spells hspells]
        exact hspells
      | none =>
        refine .inr ⟨?_, Unread.not_spells ⟨hnew, hcount, hcategory⟩⟩
        rw [keys_of_notMem hnew, hcount, hcategory]
        rfl

-- one direction is taken off, and what is left is no category
example : keys "arttags_asc_desc" = fallback := by decide +kernel

/-- A token that is spelled by a rule has sort keys. -/
theorem ne_nil_of_spells {token : String} {found : List SortKey} (h : Spells token found) :
    found ≠ [] := by
  have hlisted : ∀ entry ∈ table, entry.2 ≠ [] := by decide
  cases h with
  | listed hentry => exact hlisted _ hentry
  | count direction _ _ => exact List.cons_ne_nil _ _
  | category category direction => exact List.cons_ne_nil _ _

/-- No rule reads the two orders by a score. -/
theorem unread_byScore : ∀ token ∈ [rank, random], Unread token := by
  decide +kernel

end Order
end BoardSearch
