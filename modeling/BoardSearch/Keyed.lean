/-!
# Entries in insertion order

A mapping is kept as its entries in the order in which their keys came. An entry
whose key is already there takes the place of the old one: the key stays as it
was first written, and the value is replaced.

## Main definitions

* `Keyed.find?`: the value under a key;
* `Keyed.put`: a mapping with one more entry;
* `Keyed.ofEntries`: the mapping that entries build one after another.

## Main statements

* `Keyed.find?_put`: an entry that was put is found, and every other one as before;
* `Keyed.find?_ofEntries`: of several entries under a key the last one is found;
* `Keyed.ofEntries_of_nodup`: entries under different keys stay as they are.
-/

namespace BoardSearch.Keyed

variable {κ α : Type}

/-- The value under a key. -/
def find? [BEq κ] (key : κ) : List (κ × α) → Option α
  | [] => none
  | (k, a) :: rest => if k == key then some a else find? key rest

/-- Whether a key is there. -/
def has [BEq κ] (key : κ) (entries : List (κ × α)) : Bool :=
  (find? key entries).isSome

/-- The entries with one more, which replaces the value of an equal key. -/
def put [BEq κ] (key : κ) (value : α) : List (κ × α) → List (κ × α)
  | [] => [(key, value)]
  | (k, a) :: rest => if k == key then (k, value) :: rest else (k, a) :: put key value rest

/-- The entries without those under a key. -/
def remove [BEq κ] (key : κ) (entries : List (κ × α)) : List (κ × α) :=
  entries.filter fun entry => !(entry.1 == key)

/-- The mapping that results from putting entries one after another. -/
def ofEntries [BEq κ] (entries : List (κ × α)) : List (κ × α) :=
  entries.foldl (fun built entry => put entry.1 entry.2 built) []

theorem find?_put [BEq κ] [LawfulBEq κ] (key key' : κ) (value : α) (entries : List (κ × α)) :
    find? key (put key' value entries) =
      if key' == key then some value else find? key entries := by
  induction entries with
  | nil => simp [put, find?]
  | cons entry rest ih =>
    obtain ⟨k, a⟩ := entry
    by_cases hk : k = key'
    · subst hk
      by_cases hkey : k = key <;> simp [put, find?, hkey]
    · by_cases hkey : k = key
      · subst hkey
        simp [put, find?, hk, Ne.symm hk]
      · simp [put, find?, hk, hkey, ih]

theorem find?_append [BEq κ] (key : κ) (first second : List (κ × α)) :
    find? key (first ++ second) = (find? key first).or (find? key second) := by
  induction first with
  | nil => simp [find?]
  | cons entry rest ih =>
    obtain ⟨k, a⟩ := entry
    by_cases h : (k == key) = true
    · simp [find?, h]
    · simp [find?, h, ih]

theorem find?_foldl_put [BEq κ] [LawfulBEq κ] (key : κ) (entries built : List (κ × α)) :
    find? key (entries.foldl (fun built entry => put entry.1 entry.2 built) built) =
      (find? key entries.reverse).or (find? key built) := by
  induction entries generalizing built with
  | nil => simp [find?]
  | cons entry rest ih =>
    obtain ⟨k, a⟩ := entry
    rw [List.foldl_cons, ih, find?_put, List.reverse_cons, find?_append, Option.or_assoc]
    by_cases h : (k == key) = true <;> simp [find?, h]

/-- A mapping that entries build one after another has the last value under each key. -/
theorem find?_ofEntries [BEq κ] [LawfulBEq κ] (key : κ) (entries : List (κ × α)) :
    find? key (ofEntries entries) = find? key entries.reverse := by
  unfold ofEntries
  rw [find?_foldl_put]
  simp [find?]

theorem find?_eq_none [BEq κ] [LawfulBEq κ] {key : κ} {entries : List (κ × α)} :
    find? key entries = none ↔ key ∉ entries.map Prod.fst := by
  induction entries with
  | nil => simp [find?]
  | cons entry rest ih =>
    obtain ⟨k, a⟩ := entry
    by_cases h : k = key
    · simp [find?, h]
    · simp [find?, h, Ne.symm h, ih]

theorem mem_of_find? [BEq κ] [LawfulBEq κ] {key : κ} {entries : List (κ × α)} {a : α}
    (h : find? key entries = some a) : (key, a) ∈ entries := by
  induction entries with
  | nil => simp [find?] at h
  | cons entry rest ih =>
    obtain ⟨k, b⟩ := entry
    by_cases hk : k = key
    · obtain rfl : b = a := by simpa [find?, hk] using h
      simp [hk]
    · have hrest : find? key rest = some a := by simpa [find?, hk] using h
      exact List.mem_cons_of_mem _ (ih hrest)

/-- Where no key is there twice, a key has the value of each entry under it. -/
theorem find?_eq_some_iff [BEq κ] [LawfulBEq κ] {entries : List (κ × α)}
    (hnodup : (entries.map Prod.fst).Nodup) {key : κ} {a : α} :
    find? key entries = some a ↔ (key, a) ∈ entries := by
  constructor
  · exact mem_of_find?
  · intro hmem
    induction entries with
    | nil => simp at hmem
    | cons entry rest ih =>
      obtain ⟨k, b⟩ := entry
      obtain ⟨hk, hrest⟩ := List.nodup_cons.mp hnodup
      obtain heq | hmem := List.mem_cons.mp hmem
      · obtain ⟨rfl, rfl⟩ := Prod.mk.inj heq
        simp [find?]
      · -- the key is in the rest, so the first entry has another one
        have hne : ¬ k = key := by
          rintro rfl
          exact hk (List.mem_map.mpr ⟨_, hmem, rfl⟩)
        simpa [find?, hne] using ih hrest hmem

/-! ## Different keys -/

theorem put_of_notMem [BEq κ] [LawfulBEq κ] {key : κ} (a : α) {entries : List (κ × α)}
    (h : key ∉ entries.map (·.1)) : put key a entries = entries ++ [(key, a)] := by
  induction entries with
  | nil => rfl
  | cons entry rest ih =>
    rw [List.map_cons, List.mem_cons, not_or] at h
    have hne : (entry.1 == key) = false := beq_eq_false_iff_ne.mpr (Ne.symm h.1)
    simp [put, hne, ih h.2]

/-- Putting an entry keeps the keys as they are, or adds one that is new. -/
theorem keys_put [BEq κ] [LawfulBEq κ] (key : κ) (a : α) (entries : List (κ × α)) :
    (put key a entries).map (·.1) =
      if key ∈ entries.map (·.1) then entries.map (·.1) else entries.map (·.1) ++ [key] := by
  induction entries with
  | nil => simp [put]
  | cons entry rest ih =>
    by_cases hkey : entry.1 = key
    · simp [put, hkey]
    · have hne : (entry.1 == key) = false := beq_eq_false_iff_ne.mpr hkey
      simp only [put, hne, Bool.false_eq_true, if_false, List.map_cons, ih, List.mem_cons,
        Ne.symm hkey, false_or]
      split <;> simp

theorem nodup_put [BEq κ] [LawfulBEq κ] (key : κ) (a : α) {entries : List (κ × α)}
    (h : (entries.map (·.1)).Nodup) : ((put key a entries).map (·.1)).Nodup := by
  rw [keys_put]
  split
  · exact h
  · rename_i hnew
    refine List.nodup_append.mpr ⟨h, List.pairwise_singleton _ key, fun k hk k' hk' => ?_⟩
    rintro rfl
    exact hnew (List.mem_singleton.mp hk' ▸ hk)

theorem mem_of_mem_put [BEq κ] [LawfulBEq κ] {key : κ} {a : α} {entry : κ × α}
    {entries : List (κ × α)} (h : entry ∈ put key a entries) :
    entry = (key, a) ∨ entry ∈ entries := by
  induction entries with
  | nil => exact .inl (List.mem_singleton.mp h)
  | cons first rest ih =>
    by_cases hkey : first.1 = key
    · simp only [put, hkey, BEq.rfl, if_true, List.mem_cons] at h
      exact h.imp_right (List.mem_cons_of_mem first)
    · simp only [put, beq_eq_false_iff_ne.mpr hkey, Bool.false_eq_true, if_false,
        List.mem_cons] at h
      obtain rfl | h := h
      · exact .inr List.mem_cons_self
      · exact (ih h).imp_right (List.mem_cons_of_mem first)

/-- What entries build one after another has no key twice and no entry of its own. -/
theorem nodup_foldl_put [BEq κ] [LawfulBEq κ] (entries built : List (κ × α))
    (h : (built.map (·.1)).Nodup) :
    let mapping := entries.foldl (fun built entry => put entry.1 entry.2 built) built
    (mapping.map (·.1)).Nodup ∧ ∀ entry ∈ mapping, entry ∈ built ∨ entry ∈ entries := by
  induction entries generalizing built with
  | nil => exact ⟨h, fun entry hentry => .inl hentry⟩
  | cons first rest ih =>
    obtain ⟨hnodup, hmem⟩ := ih (put first.1 first.2 built) (nodup_put first.1 first.2 h)
    refine ⟨hnodup, fun entry hentry => ?_⟩
    obtain hput | hrest := hmem entry hentry
    · obtain rfl | hbuilt := mem_of_mem_put hput
      · exact .inr List.mem_cons_self
      · exact .inl hbuilt
    · exact .inr (List.mem_cons_of_mem first hrest)

theorem nodup_ofEntries [BEq κ] [LawfulBEq κ] (entries : List (κ × α)) :
    ((ofEntries entries).map (·.1)).Nodup :=
  (nodup_foldl_put entries [] List.Pairwise.nil).1

theorem mem_of_mem_ofEntries [BEq κ] [LawfulBEq κ] {entry : κ × α} {entries : List (κ × α)}
    (h : entry ∈ ofEntries entries) : entry ∈ entries :=
  ((nodup_foldl_put entries [] List.Pairwise.nil).2 entry h).resolve_left
    List.not_mem_nil

/-- Entries under different keys stay as they are. -/
theorem ofEntries_of_nodup [BEq κ] [LawfulBEq κ] {entries : List (κ × α)}
    (h : (entries.map (·.1)).Nodup) : ofEntries entries = entries := by
  have hfold : ∀ rest built : List (κ × α), ((built ++ rest).map (·.1)).Nodup →
      rest.foldl (fun built entry => put entry.1 entry.2 built) built = built ++ rest := by
    intro rest
    induction rest with
    | nil => simp
    | cons entry rest ih =>
      intro built hbuilt
      have hnew : entry.1 ∉ built.map (·.1) := by
        intro hmem
        rw [List.map_append, List.map_cons] at hbuilt
        exact (List.nodup_append.mp hbuilt).2.2 _ hmem _ List.mem_cons_self rfl
      have happend : built ++ [entry] ++ rest = built ++ entry :: rest := by simp
      rw [List.foldl_cons, put_of_notMem _ hnew, ih (built ++ [entry]) (happend ▸ hbuilt),
        happend]
  exact hfold entries [] h

end BoardSearch.Keyed
