import BoardSearch.Proofs.Wildcard.Canonical

/-!
# Escaping

Escaping can be said in two ways besides that of the pass itself. A search from left to
right puts a backslash in front of each wildcard that it finds behind pairs of
backslashes, where no other backslash stands in front of them. And a scan puts one in
front of each wildcard that it reads while a flag is off, which a backslash sets and the
next character clears. All three are the same, so escaping can be done over and over, and
takes nothing away but the meaning of wildcards.

## Main definitions

* `Finds`: what the search finds at a place;
* `Replaced`: what the search makes of a text;
* `scanned`: what the scan makes of a text;
* `resolved`: the characters of a pattern without the backslashes that escape.

## Main statements

* `replaced_iff`: the search makes of a pattern what the pass does;
* `escape_scans`: so does the scan, and what follows from it.
-/

namespace BoardSearch.Wildcard

/-! ## The search -/

/-- At the beginning of a text, behind `previous`, stand pairs of backslashes and a wildcard
of the engine, and no backslash stands in front of them. -/
structure Finds (previous : Option Char) (pairs : List Char) (c : Char)
    (rest text : List Char) : Prop where
  lookbehind : previous ≠ some '\\'
  paired : ∃ n, pairs = List.replicate (2 * n) '\\'
  wildcard : isEngineWildcard c = true
  text_eq : text = pairs ++ c :: rest

/-- A search through a text from left to right, from behind `previous`. Where it finds
something it puts a backslash in front of the wildcard, and goes on behind it; any other
character stays. -/
inductive Replaced : Option Char → List Char → List Char → Prop
  | done {previous : Option Char} : Replaced previous [] []
  | found {previous : Option Char} {pairs : List Char} {c : Char} {rest text result : List Char}
    (h : Finds previous pairs c rest text) (hrest : Replaced (some c) rest result) :
    Replaced previous text (pairs ++ '\\' :: c :: result)
  | kept {previous : Option Char} {c : Char} {rest result : List Char}
    (h : ∀ pairs w behind, ¬Finds previous pairs w behind (c :: rest))
    (hrest : Replaced (some c) rest result) : Replaced previous (c :: rest) (c :: result)

theorem isEngineWildcard_ne_backslash {c : Char} (h : isEngineWildcard c = true) : c ≠ '\\' := by
  rintro rfl
  exact absurd h (by decide)

/-- A run of backslashes with another character behind it can be told from the rest. -/
theorem run_unique {n m : Nat} {c d : Char} {rest behind : List Char} (hc : c ≠ '\\')
    (hd : d ≠ '\\')
    (h : List.replicate n '\\' ++ c :: rest = List.replicate m '\\' ++ d :: behind) :
    n = m ∧ c = d ∧ rest = behind := by
  induction n generalizing m with
  | zero =>
    cases m with
    | zero =>
      obtain ⟨rfl, rfl⟩ := List.cons.inj h
      exact ⟨rfl, rfl, rfl⟩
    | succ m => exact absurd (List.cons.inj h).1 hc
  | succ n ih =>
    cases m with
    | zero => exact absurd (List.cons.inj h).1.symm hd
    | succ m =>
      obtain ⟨rfl, hrest⟩ := ih (List.cons.inj h).2
      exact ⟨rfl, hrest⟩

/-- What is found at a place is found in one way: with fewer pairs a backslash would stand
where the wildcard has to. -/
theorem Finds.unique {previous : Option Char} {pairs pairs' rest rest' text : List Char}
    {c c' : Char} (h : Finds previous pairs c rest text) (h' : Finds previous pairs' c' rest' text) :
    pairs = pairs' ∧ c = c' ∧ rest = rest' := by
  obtain ⟨n, hn⟩ := h.paired
  obtain ⟨m, hm⟩ := h'.paired
  have htext : List.replicate (2 * n) '\\' ++ c :: rest =
      List.replicate (2 * m) '\\' ++ c' :: rest' := by
    rw [← hn, ← hm, ← h.text_eq, ← h'.text_eq]
  obtain ⟨hlength, hc, hrest⟩ := run_unique (isEngineWildcard_ne_backslash h.wildcard)
    (isEngineWildcard_ne_backslash h'.wildcard) htext
  exact ⟨by rw [hn, hm, hlength], hc, hrest⟩

/-- A search has one result. -/
theorem Replaced.unique {previous : Option Char} {text result result' : List Char}
    (h : Replaced previous text result) (h' : Replaced previous text result') :
    result = result' := by
  induction h generalizing result' with
  | done =>
    cases h' with
    | done => rfl
    | found hfinds =>
      obtain ⟨_, _, _, hempty⟩ := hfinds
      simp at hempty
  | found hfinds hrest ih =>
    cases h' with
    | done =>
      obtain ⟨_, _, _, hempty⟩ := hfinds
      simp at hempty
    | found hfinds' hrest' =>
      obtain ⟨rfl, rfl, rfl⟩ := hfinds.unique hfinds'
      rw [ih hrest']
    | kept hnone => exact absurd hfinds (hnone _ _ _)
  | kept hnone hrest ih =>
    cases h' with
    | found hfinds => exact absurd hfinds (hnone _ _ _)
    | kept _ hrest' => rw [ih hrest']

/-- Within a run of backslashes nothing is found, once its beginning has been passed. -/
theorem replaced_run {rest result : List Char} (hrest : Replaced (some '\\') rest result) (n : Nat) :
    Replaced (some '\\') (List.replicate n '\\' ++ rest) (List.replicate n '\\' ++ result) := by
  induction n with
  | zero => exact hrest
  | succ n ih => exact .kept (fun _ _ _ h => h.lookbehind rfl) ih

/-! ## The pass -/

/-- A pass leaves a run of backslashes as it is and counts it. -/
theorem passFrom_run (rewrite : Bool → Char → List Char) (n run : Nat) (rest : List Char) :
    passFrom rewrite run false (List.replicate n '\\' ++ rest) =
      List.replicate n '\\' ++ passFrom rewrite (run + n) false rest := by
  induction n generalizing run with
  | zero => rfl
  | succ n ih =>
    have hrun : run + 1 + n = run + (n + 1) := by omega
    rw [List.replicate_succ, List.cons_append, passFrom, if_pos rfl, ih, hrun]
    rfl

/-- Behind a run of backslashes the pass escapes a wildcard if the run has even length. -/
theorem escape_run {c : Char} (hc : c ≠ '\\') (n : Nat) (rest : List Char) :
    escape (List.replicate n '\\' ++ c :: rest) = List.replicate n '\\' ++
      if isEngineWildcard c && isLive n then '\\' :: c :: escape rest else c :: escape rest := by
  rw [escape, passFrom_run, passFrom, if_neg hc, Nat.zero_add, passFrom_behind escaping rfl,
    escaping, escape]
  cases isEngineWildcard c <;> cases isLive n <;> rfl

theorem escape_backslashes (n : Nat) :
    escape (List.replicate n '\\') = List.replicate n '\\' := by
  have hrun := passFrom_run escaping n 0 []
  rw [List.append_nil] at hrun
  exact hrun.trans (List.append_nil _)

/-- Every text is a run of backslashes with nothing behind it, or with another character. -/
theorem exists_run (text : List Char) :
    ∃ n, text = List.replicate n '\\' ∨
      ∃ c rest, c ≠ '\\' ∧ text = List.replicate n '\\' ++ c :: rest := by
  induction text with
  | nil => exact ⟨0, .inl rfl⟩
  | cons c text ih =>
    by_cases hc : c = '\\'
    · subst hc
      obtain ⟨n, rfl | ⟨d, rest, hd, rfl⟩⟩ := ih
      · exact ⟨n + 1, .inl rfl⟩
      · exact ⟨n + 1, .inr ⟨d, rest, hd, rfl⟩⟩
    · exact ⟨0, .inr ⟨c, text, hc, rfl⟩⟩

/-- At a run of backslashes the search finds a wildcard directly behind it or nothing, and it
does so if the run has even length. -/
theorem Finds.run {previous : Option Char} {pairs rest behind : List Char} {c w : Char} {n : Nat}
    (hc : c ≠ '\\') (h : Finds previous pairs w behind (List.replicate n '\\' ++ c :: rest)) :
    (isEngineWildcard c && isLive n) = true := by
  obtain ⟨m, hm⟩ := h.paired
  have htext := h.text_eq
  rw [hm] at htext
  obtain ⟨rfl, rfl, -⟩ := run_unique hc (isEngineWildcard_ne_backslash h.wildcard) htext
  rw [h.wildcard, isLive, Nat.mul_mod_right]
  rfl

theorem not_finds_backslashes {previous : Option Char} {pairs rest : List Char} {c : Char} {n : Nat} :
    ¬Finds previous pairs c rest (List.replicate n '\\') := by
  intro h
  have hmem : c ∈ List.replicate n '\\' := by
    rw [h.text_eq]
    exact List.mem_append_right pairs List.mem_cons_self
  exact isEngineWildcard_ne_backslash h.wildcard (List.eq_of_mem_replicate hmem)

/-- The search makes of a pattern what the pass does. -/
theorem replaced_escape (p : List Char) {previous : Option Char} (h : previous ≠ some '\\') :
    Replaced previous p (escape p) := by
  -- by runs of backslashes, each with the character behind it
  induction hlength : p.length using Nat.strongRecOn generalizing p previous with
  | ind length ih =>
    obtain ⟨n, rfl | ⟨c, rest, hc, rfl⟩⟩ := exists_run p
    · have hnone : ∀ pairs w behind, ¬Finds previous pairs w behind (List.replicate n '\\') :=
        fun _ _ _ => not_finds_backslashes
      rw [escape_backslashes]
      cases n with
      | zero => exact .done
      | succ n =>
        have hrun := replaced_run .done n
        rw [List.append_nil] at hrun
        exact .kept hnone hrun
    · have hshorter : rest.length < length := by
        rw [← hlength, List.length_append, List.length_cons]
        omega
      have hrest : Replaced (some c) rest (escape rest) :=
        ih rest.length hshorter rest (fun heq => hc (Option.some.inj heq)) rfl
      rw [escape_run hc]
      split
      · next hlive =>
        obtain ⟨hwildcard, heven⟩ := Bool.and_eq_true_iff.mp hlive
        have hpairs : ∃ m, List.replicate n '\\' = List.replicate (2 * m) '\\' :=
          ⟨n / 2, by rw [Nat.mul_div_cancel' (Nat.dvd_of_mod_eq_zero (beq_iff_eq.mp heven))]⟩
        exact .found ⟨h, hpairs, hwildcard, rfl⟩ hrest
      · next hlive =>
        have hnone : ∀ pairs w behind,
            ¬Finds previous pairs w behind (List.replicate n '\\' ++ c :: rest) :=
          fun _ _ _ hfinds => hlive (hfinds.run hc)
        cases n with
        | zero => exact .kept hnone hrest
        | succ n =>
          exact .kept hnone (replaced_run (.kept (fun _ _ _ hf => hf.lookbehind rfl) hrest) n)

/-- The search makes of a pattern what the pass does, and nothing else. -/
theorem replaced_iff (p q : List Char) : Replaced none p q ↔ q = escape p := by
  have hpass : Replaced none p (escape p) := replaced_escape p nofun
  constructor
  · exact fun h => h.unique hpass
  · rintro rfl
    exact hpass

/-! ## The scan -/

/-- A scan from left to right with a flag. A backslash that is read while the flag is off sets
it, and any character that is read while it is on clears it. A wildcard of the engine that is
read while the flag is off gets a backslash in front of it. -/
def scanned (escaped : Bool) : List Char → List Char
  | [] => []
  | c :: rest =>
    let onward := c :: scanned (!escaped && c == '\\') rest
    if !escaped && isEngineWildcard c then '\\' :: onward else onward

/-- The scan makes of a pattern what the pass does. -/
theorem escape_eq_scanned (p : List Char) : escape p = scanned false p := by
  induction p using pattern_induction with
  | nil => rfl
  | lone => rfl
  | escaped c rest ih =>
    rw [escape_escaped, ih]
    rfl
  | plain c rest hc ih =>
    have hflag : (!false && c == '\\') = false := by simp [hc]
    rw [escape_plain hc, ih, scanned, hflag]
    rfl

/-! ## Characters without escapes -/

/-- The characters of a pattern without the backslashes that escape others. A backslash with
nothing behind it is a character itself. -/
def resolved : List Char → List Char
  | '\\' :: c :: rest => c :: resolved rest
  | c :: rest => c :: resolved rest
  | [] => []

theorem resolved_plain {c : Char} (hc : c ≠ '\\') (rest : List Char) :
    resolved (c :: rest) = c :: resolved rest := by
  rw [resolved]
  intro _ _ h _
  exact hc h

/-- Escaping keeps the characters of a pattern. -/
theorem resolved_escape (p : List Char) : resolved (escape p) = resolved p := by
  induction p using pattern_induction with
  | nil => rfl
  | lone => rfl
  | escaped c rest ih => rw [escape_escaped, resolved, resolved, ih]
  | plain c rest hc ih =>
    rw [escape_plain hc, resolved_plain hc]
    split
    · rw [resolved, ih]
    · rw [resolved_plain hc, ih]

/-- Escaping is what a search makes of a pattern that puts a backslash in front of each wildcard
behind pairs of backslashes, and what a scan does with a flag. So to escape again changes
nothing, no wildcard is live afterwards, a pattern stays as it is just where none was before,
and the characters are the same. -/
theorem escape_scans (p : List Char) :
    (∀ q, Replaced none p q ↔ q = escape p) ∧ escape p = scanned false p ∧
      escape (escape p) = escape p ∧ (∀ m ∈ marks (escape p), m.isWildcard = false) ∧
      (escape p = p ↔ ∀ m ∈ marks p, m.isWildcard = false) ∧
      resolved (escape p) = resolved p :=
  ⟨replaced_iff p, escape_eq_scanned p, escape_escape p, fun _ => isWildcard_of_mem_escape,
    escape_eq_self_iff p, resolved_escape p⟩

-- a run of odd length escapes the wildcard itself, one of even length does not
example : escape "\\*\\\\*?\\".toList = "\\*\\\\\\*\\?\\".toList := by decide

end BoardSearch.Wildcard
