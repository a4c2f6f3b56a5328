import BoardSearch.Proofs.Query.Meaning
import BoardSearch.Query.Conjunction

/-!
# Conjunctions as intersections

A conjunction is met where both of its queries are. That holds if their optional parts
come with no number, or with one that is an integer between nothing and all of them. What
is implied where no number is stated becomes stated, since it changes with the required
parts that are added.

## Main definitions

* `Query.Counted`: the number that a query states is in its bounds;
* `Truth.MeetsMerged`: a post meets the parts of a merged query.

## Main statements

* `Query.Merged.join_cases`: what can become of optional parts that join a merged query;
* `Truth.meetsMerged_join`: they are asked for just as much as before;
* `Truth.meets_and`: a conjunction asks for what both of its queries do.
-/

namespace BoardSearch

/-- The number of optional parts that have to match is not stated, or is an integer
between nothing and all of them. -/
def Query.Counted : Query → Prop
  | .bool should _ _ _ minimum _ =>
    ∀ stated, minimum = some stated → ∃ n : Nat, stated = .int n ∧ n ≤ should.length
  | _ => True

theorem Value.beq_int (m n : Int) : (Value.int m == Value.int n) = (m == n) := rfl

namespace Truth

variable {τ : Truth}

theorem countMet_le (queries : List Query) : τ.countMet queries ≤ queries.length := by
  induction queries with
  | nil => exact Nat.le_refl 0
  | cons q rest ih =>
    have hfirst : (if τ.meets q then 1 else 0) ≤ 1 := by split <;> omega
    show (if τ.meets q then 1 else 0) + τ.countMet rest ≤ rest.length + 1
    omega

/-- As many queries as there are have to be met just where all of them have to be. -/
theorem length_le_countMet {queries : List Query} :
    queries.length ≤ τ.countMet queries ↔ ∀ q ∈ queries, τ.meets q = true := by
  induction queries with
  | nil => simp
  | cons q rest ih =>
    have hrest := τ.countMet_le rest
    rw [List.forall_mem_cons, ← ih]
    show rest.length + 1 ≤ (if τ.meets q then 1 else 0) + τ.countMet rest ↔ _
    by_cases hq : τ.meets q = true
    · rw [if_pos hq]
      constructor
      · intro h
        exact ⟨hq, by omega⟩
      · rintro ⟨_, h⟩
        omega
    · rw [if_neg hq]
      constructor
      · intro h
        omega
      · rintro ⟨h, _⟩
        exact absurd h hq

/-! ## The number of optional parts -/

variable {s m n f : List Query} {c : Option Value} {d : Query.Details}

/-- The number that is kept in a conjunction is the one that has to be met. -/
theorem exists_effectiveMinimum (hcounted : (Query.bool s m n f c d).Counted) :
    ∃ k : Nat, Query.effectiveMinimum s m f c = .int k ∧ k ≤ s.length ∧
      τ.required s m f c = k := by
  cases c with
  | none =>
    cases s with
    | nil => exact ⟨0, rfl, Nat.le_refl 0, rfl⟩
    | cons q rest =>
      cases m with
      | cons _ _ => exact ⟨0, rfl, Nat.zero_le _, rfl⟩
      | nil =>
        cases f with
        | cons _ _ => exact ⟨0, rfl, Nat.zero_le _, rfl⟩
        | nil => exact ⟨1, rfl, by simp, rfl⟩
  | some stated =>
    obtain ⟨k, rfl, hk⟩ := hcounted stated rfl
    refine ⟨k, rfl, hk, ?_⟩
    show (if (k : Int) < 0 then s.length + (k : Int) else k) = k
    rw [if_neg (by omega)]

/-- A stated integer that is not negative is the number that has to be met. -/
theorem required_int (s m f : List Query) (k : Nat) : τ.required s m f (some (.int k)) = k := by
  show (if (k : Int) < 0 then s.length + (k : Int) else k) = k
  rw [if_neg (by omega)]

end Truth

/-! ## Merged queries -/

namespace Query.Merged

/-- A merged query has optional parts just where it states how many of them have to match. -/
def Counted (merged : Merged) : Prop :=
  (merged.should = [] ∧ merged.minimum = none) ∨
    (merged.should ≠ [] ∧ ∃ k : Nat, merged.minimum = some (.int k))

variable {merged : Merged} {should : List Query} {k : Nat}

/-- What becomes of optional parts that join a merged query: they become required, or its
only optional parts, or further ones that need not match, or one more required query. -/
theorem join_cases (hcounted : merged.Counted) (hk : k ≤ should.length) :
    (k = should.length ∧ merged.join should (.int k) =
      { merged with must := merged.must ++ should }) ∨
    (should ≠ [] ∧ merged.minimum = none ∧ merged.join should (.int k) =
      { merged with should, minimum := some (.int k) }) ∨
    (k = 0 ∧ merged.minimum = some (.int 0) ∧ merged.join should (.int k) =
      { merged with should := merged.should ++ should }) ∨
    merged.join should (.int k) =
      { merged with must := merged.must ++ [.bool should [] [] [] (some (.int k)) .usual] } := by
  have hall : asksForAll should (.int k) = decide (should.length ≤ k) := by
    show decide ((should.length : Int) ≤ (k : Int)) = decide (should.length ≤ k)
    simp only [Int.ofNat_le]
  unfold join
  rw [hall]
  by_cases hlength : should.length ≤ k
  · rw [if_pos (decide_eq_true hlength)]
    exact .inl ⟨by omega, rfl⟩
  · rw [if_neg (by simpa using hlength)]
    have hsome : should ≠ [] := by
      rintro rfl
      exact hlength (Nat.zero_le k)
    obtain ⟨hnil, hnone⟩ | ⟨hcons, k', hk'⟩ := hcounted
    · rw [hnil]
      exact .inr (.inl ⟨hsome, hnone, rfl⟩)
    · rw [if_neg (by simpa using hcons)]
      split
      · rename_i hzero
        rw [hk', Option.any_some, Value.beq_int, Value.beq_int] at hzero
        obtain ⟨hzero', hzero⟩ : k' = 0 ∧ k = 0 := by simpa using hzero
        refine .inr (.inr (.inl ⟨hzero, ?_, rfl⟩))
        rw [hk', hzero']
        rfl
      · exact .inr (.inr (.inr rfl))

theorem counted_join (hcounted : merged.Counted) (hk : k ≤ should.length) :
    (merged.join should (.int k)).Counted := by
  obtain ⟨-, hjoin⟩ | ⟨hsome, -, hjoin⟩ | ⟨-, hminimum, hjoin⟩ | hjoin :=
    join_cases hcounted hk
  · rw [hjoin]
    exact hcounted
  · rw [hjoin]
    exact .inr ⟨hsome, k, rfl⟩
  · rw [hjoin]
    obtain ⟨-, hnone⟩ | ⟨hcons, -⟩ := hcounted
    · simp [hnone] at hminimum
    · exact .inr ⟨by simp [hcons], 0, hminimum⟩
  · rw [hjoin]
    exact hcounted

end Query.Merged

namespace Truth

variable {τ : Truth}

/-- The post meets the required parts of a merged query, and enough of the optional ones. -/
def MeetsMerged (τ : Truth) (merged : Query.Merged) : Prop :=
  (∀ q ∈ merged.must, τ.meets q = true) ∧
    ∀ k : Nat, merged.minimum = some (.int k) → k ≤ τ.countMet merged.should

theorem meets_merged {merged : Query.Merged} (hcounted : merged.Counted)
    {mustNot filter : List Query} {details : Query.Details} :
    τ.meets (.bool merged.should merged.must mustNot filter merged.minimum details) = true ↔
      τ.MeetsMerged merged ∧ (∀ q ∈ filter, τ.meets q = true) ∧
        ∀ q ∈ mustNot, τ.meets q = false := by
  have hrequired : τ.required merged.should merged.must filter merged.minimum ≤
      τ.countMet merged.should ↔
        ∀ k : Nat, merged.minimum = some (.int k) → k ≤ τ.countMet merged.should := by
    obtain ⟨hnil, hnone⟩ | ⟨-, k, hk⟩ := hcounted
    · rw [hnil, hnone, required_nil]
      simp
    · rw [hk, required_int, Int.ofNat_le]
      simp only [Option.some.injEq, Value.int.injEq, Int.natCast_inj, forall_eq']
  rw [τ.meets_bool, hrequired]
  constructor
  · rintro ⟨hmust, hfilter, hnot, hshould⟩
    exact ⟨⟨hmust, hshould⟩, hfilter, hnot⟩
  · rintro ⟨⟨hmust, hshould⟩, hfilter, hnot⟩
    exact ⟨hmust, hfilter, hnot, hshould⟩

/-- Optional parts that join a merged query are asked for just as much as before. -/
theorem meetsMerged_join {merged : Query.Merged} {should : List Query} {k : Nat}
    (hcounted : merged.Counted) (hk : k ≤ should.length) :
    τ.MeetsMerged (merged.join should (.int k)) ↔
      τ.MeetsMerged merged ∧ k ≤ τ.countMet should := by
  obtain ⟨rfl, hjoin⟩ | ⟨-, hnone, hjoin⟩ | ⟨rfl, hminimum, hjoin⟩ | hjoin :=
    Query.Merged.join_cases hcounted hk
  · -- all of them have to match
    rw [hjoin, length_le_countMet]
    simp only [MeetsMerged, List.forall_mem_append]
    exact and_right_comm
  · rw [hjoin]
    simp only [MeetsMerged, hnone, Option.some.injEq, Value.int.injEq, Int.natCast_inj,
      forall_eq', reduceCtorEq, false_implies, implies_true, and_true]
  · -- none of them has to match
    rw [hjoin]
    have hzero : ∀ k : Nat, (0 : Int) = k ↔ k = 0 := by omega
    simp [MeetsMerged, hminimum, hzero]
  · have hquery : τ.meets (.bool should [] [] [] (some (.int k)) .usual) = true ↔
        k ≤ τ.countMet should := by
      rw [τ.meets_bool, required_int]
      simp
    rw [hjoin]
    simp only [MeetsMerged, List.forall_mem_append, List.forall_mem_singleton, hquery]
    exact and_right_comm

/-! ## Conjunctions -/

variable {s m n f : List Query} {c : Option Value} {d : Query.Details}

/-- A bool query to which a required query is added asks for that query as well. -/
theorem meets_require (hcounted : (Query.bool s m n f c d).Counted) {query : Query} :
    τ.meets (Query.require s m n f c d query) = true ↔
      τ.meets (.bool s m n f c d) = true ∧ τ.meets query = true := by
  -- the number that has to be met stays, as it is stated where it was implied
  have hrequired : τ.required s (m ++ [query]) f
      (if m.isEmpty && f.isEmpty && !s.isEmpty then some (c.getD (.int 1)) else c) =
        τ.required s m f c := by
    cases c with
    | none => cases s <;> cases m <;> cases f <;> rfl
    | some stated =>
      obtain ⟨k, rfl, -⟩ := hcounted stated rfl
      rw [Option.getD_some, ite_self, required_int, required_int]
  unfold Query.require
  rw [τ.meets_bool, τ.meets_bool, hrequired]
  simp only [List.forall_mem_append, List.forall_mem_singleton]
  exact and_right_comm

/-- Two bool queries are merged into one that asks for the parts of both. -/
theorem meets_bool_and_bool {s' m' n' f' : List Query} {c' : Option Value} {d' : Query.Details}
    (hcounted : (Query.bool s m n f c d).Counted)
    (hcounted' : (Query.bool s' m' n' f' c' d').Counted) :
    τ.meets ((Query.bool s m n f c d).and (.bool s' m' n' f' c' d')) = true ↔
      τ.meets (.bool s m n f c d) = true ∧ τ.meets (.bool s' m' n' f' c' d') = true := by
  obtain ⟨k, hk, hlength, hrequired⟩ := exists_effectiveMinimum (τ := τ) hcounted
  obtain ⟨k', hk', hlength', hrequired'⟩ := exists_effectiveMinimum (τ := τ) hcounted'
  have hstart : Query.Merged.Counted ⟨m ++ m', [], none⟩ := .inl ⟨rfl, rfl⟩
  have hjoined := Query.Merged.counted_join hstart hlength
  have hmust : τ.MeetsMerged ⟨m ++ m', [], none⟩ ↔
      (∀ q ∈ m, τ.meets q = true) ∧ ∀ q ∈ m', τ.meets q = true := by
    simp [MeetsMerged, or_imp, forall_and]
  rw [Query.and, hk, hk', meets_merged (Query.Merged.counted_join hjoined hlength'),
    meetsMerged_join hjoined hlength', meetsMerged_join hstart hlength, hmust, τ.meets_bool,
    τ.meets_bool, hrequired, hrequired']
  simp only [List.forall_mem_append, Int.ofNat_le]
  constructor
  · rintro ⟨⟨⟨⟨hm, hm'⟩, hs⟩, hs'⟩, ⟨hf, hf'⟩, hn, hn'⟩
    exact ⟨⟨hm, hf, hn, hs⟩, hm', hf', hn', hs'⟩
  · rintro ⟨⟨hm, hf, hn, hs⟩, hm', hf', hn', hs'⟩
    exact ⟨⟨⟨⟨hm, hm'⟩, hs⟩, hs'⟩, ⟨hf, hf'⟩, hn, hn'⟩

/-- A conjunction is met where both of its queries are. -/
theorem meets_and {query query' : Query} (hcounted : query.Counted)
    (hcounted' : query'.Counted) :
    τ.meets (query.and query') = true ↔ τ.meets query = true ∧ τ.meets query' = true := by
  have hpair : ∀ q q' : Query, τ.meets (.bool [] [q, q'] [] [] none .usual) = true ↔
      τ.meets q = true ∧ τ.meets q' = true := by
    intro q q'
    rw [τ.meets_conjunction]
    simp
  cases query with
  | matchAll settings => simp [Query.and, meets]
  | matchNone settings => simp [Query.and, meets]
  | bool s m n f c d =>
    cases query' with
    | bool s' m' n' f' c' d' => exact meets_bool_and_bool hcounted hcounted'
    | _ => exact meets_require hcounted
  -- a query of another kind becomes one more required part of the second query
  | clause single =>
    cases query' with
    | bool s' m' n' f' c' d' => exact (meets_require hcounted').trans and_comm
    | _ => exact hpair _ _
  | functionScore inner filter functions details =>
    cases query' with
    | bool s' m' n' f' c' d' => exact (meets_require hcounted').trans and_comm
    | _ => exact hpair _ _

end Truth

end BoardSearch
