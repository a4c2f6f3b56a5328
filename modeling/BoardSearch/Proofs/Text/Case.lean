import BoardSearch.Text.Case
import Mathlib.Data.List.Basic

/-!
# Letters in either case

Capital letters stay as they are in capital letters, and a text of ASCII characters is the same
in small letters when it is put in capital letters before.

## Main statements

* `Text.Run.holds_apply_of_avoids`: the images of a run are not in one that it avoids;
* `Text.toUpper_toUpper`, `Text.toUpper_append`: capital letters;
* `Text.toLower_toUpper`: small letters of capital letters.
-/

namespace BoardSearch.Text

/-- What holds of each ASCII character holds of a character that is one. -/
theorem of_ascii {p : Char → Bool} (hall : (List.range 128).all (fun n => p (Char.ofNat n)) = true)
    {c : Char} (h : c.toNat < 128) : p c = true := by
  simpa using List.all_eq_true.mp hall c.toNat (List.mem_range.mpr h)

/-! ## Capital letters -/

namespace Run

/-- The last image of the run. -/
def lastImage (run : Run) : Nat := run.image + (run.last - run.first)

/-- The images of the run are not in the other one: they lie before or behind it, or the two take
turns. -/
def avoids (run other : Run) : Bool :=
  other.last.blt run.image || run.lastImage.blt other.first ||
    ((run.step == 2 || run.first == run.last) && other.step == 2 &&
      (run.image + other.first) % 2 == 1)

theorem holds_apply_of_avoids {run other : Run} (h : run.avoids other = true) {code : Nat}
    (hcode : run.holds code = true) : other.holds (run.apply code) = false := by
  obtain ⟨first, last, step, image⟩ := run
  obtain ⟨first', last', step', image'⟩ := other
  refine Bool.eq_false_iff.mpr fun hother => ?_
  unfold apply at hother
  simp only [avoids, lastImage, holds, Bool.or_eq_true, Bool.and_eq_true, Nat.blt_eq, beq_iff_eq,
    decide_eq_true_eq] at h hcode hother
  obtain ⟨⟨hfirst, hlast⟩, hstep⟩ := hcode
  obtain ⟨⟨hfirst', hlast'⟩, hstep'⟩ := hother
  obtain (hbehind | hbefore) | ⟨⟨hturn, rfl⟩, hodd⟩ := h
  · omega
  · omega
  · -- both runs have every second code point, and the image of the one has the parity that
    -- the other lacks
    obtain rfl | rfl := hturn
    · omega
    · omega

theorem apply_bounds {run : Run} {code : Nat} (h : run.holds code = true) :
    run.image ≤ run.apply code ∧ run.apply code ≤ run.lastImage := by
  simp only [holds, Bool.and_eq_true, decide_eq_true_eq] at h
  obtain ⟨⟨hfirst, hlast⟩, -⟩ := h
  unfold apply lastImage
  omega

/-- The images of the run are characters beyond ASCII that no run and no spelling is for. -/
def staysCapital (run : Run) : Bool :=
  Nat.blt 127 run.image && (run.lastImage.blt 0xD800 || Nat.blt 0xDFFF run.image) &&
    run.lastImage.blt 0x110000 && capitalRuns.all run.avoids &&
    capitalSpellings.all fun entry => entry.1.blt run.image || run.lastImage.blt entry.1

end Run

/-- The capital form of the character is the character. -/
def isCapital (c : Char) : Bool := capitalsOf c == [c]

/-- The runs have capital letters for images. Two of them are for a single letter, and have an
ASCII letter. -/
theorem all_capitalRuns : (capitalRuns.all fun run =>
    run.staysCapital || run.first == run.last && isCapital (Char.ofNat run.image)) = true := by
  decide +kernel

theorem all_capitalSpellings :
    (capitalSpellings.all fun entry => entry.2.all fun code => isCapital (Char.ofNat code)) =
      true := by
  decide +kernel

theorem isCapital_of_staysCapital {run : Run} (h : run.staysCapital = true) {code : Nat}
    (hcode : run.holds code = true) : isCapital (Char.ofNat (run.apply code)) = true := by
  obtain ⟨himage, hlast⟩ := Run.apply_bounds hcode
  simp only [Run.staysCapital, Bool.and_eq_true, Bool.or_eq_true, Nat.blt_eq, List.all_eq_true]
    at h
  obtain ⟨⟨⟨⟨hbeyond, hhalves⟩, hmax⟩, hruns⟩, hspellings⟩ := h
  have hvalid : (run.apply code).isValidChar := by
    unfold Nat.isValidChar
    omega
  have htoNat : (Char.ofNat (run.apply code)).toNat = run.apply code := by
    rw [Char.ofNat, dif_pos hvalid]
    rfl
  have hunspelled : capitalSpellings.find? (fun entry => entry.1 == run.apply code) = none := by
    refine List.find?_eq_none.mpr fun entry hentry heq => ?_
    have hcode := beq_iff_eq.mp heq
    have houtside := hspellings entry hentry
    omega
  have hunmapped : capitalRuns.find? (·.holds (run.apply code)) = none := by
    refine List.find?_eq_none.mpr fun other hother hholds => ?_
    rw [Run.holds_apply_of_avoids (hruns other hother) hcode] at hholds
    exact Bool.false_ne_true hholds
  have hascii : ¬ run.apply code < 128 := by omega
  rw [isCapital, capitalsOf, mapped, htoNat, if_neg hascii, hunspelled, hunmapped]
  exact beq_self_eq_true _

/-- A run gives capital letters. -/
theorem isCapital_apply {run : Run} (hrun : run ∈ capitalRuns) {code : Nat}
    (hcode : run.holds code = true) : isCapital (Char.ofNat (run.apply code)) = true := by
  obtain hstays | hsingle := (Bool.or_eq_true _ _).mp (List.all_eq_true.mp all_capitalRuns run hrun)
  · exact isCapital_of_staysCapital hstays hcode
  · obtain ⟨hfirst, hcapital⟩ := (Bool.and_eq_true _ _).mp hsingle
    obtain ⟨hle, hge⟩ := Run.apply_bounds hcode
    rw [Run.lastImage, beq_iff_eq.mp hfirst, Nat.sub_self, Nat.add_zero] at hge
    rwa [Nat.le_antisymm hge hle]

theorem capitalsOf_of_mem {c d : Char} (h : d ∈ capitalsOf c) : capitalsOf d = [d] := by
  suffices hcapital : isCapital d = true from beq_iff_eq.mp hcapital
  by_cases hascii : c.toNat < 128
  · have hcapitals : (capitalsOf c).all isCapital = true :=
      @of_ascii (fun c => (capitalsOf c).all isCapital) (by decide +kernel) c hascii
    exact List.all_eq_true.mp hcapitals d h
  · rw [capitalsOf, if_neg hascii] at h
    cases hspelled : capitalSpellings.find? (fun entry => entry.1 == c.toNat) with
    | some entry =>
      rw [hspelled] at h
      obtain ⟨code, hcode, rfl⟩ := List.mem_map.mp h
      have hentry := List.all_eq_true.mp all_capitalSpellings entry
        (List.mem_of_find?_eq_some hspelled)
      exact List.all_eq_true.mp hentry code hcode
    | none =>
      rw [hspelled] at h
      obtain rfl := List.mem_singleton.mp h
      cases hrun : capitalRuns.find? (·.holds c.toNat) with
      | none =>
        -- the character has no capital form but itself
        have hself : mapped capitalRuns c = c := by rw [mapped, hrun]
        rw [hself, isCapital, capitalsOf, if_neg hascii, hspelled]
        simp [hself]
      | some run =>
        have hholds : run.holds c.toNat = true := by simpa using List.find?_some hrun
        rw [mapped, hrun]
        exact isCapital_apply (List.mem_of_find?_eq_some hrun) hholds

theorem toUpper_toUpper (text : String) : toUpper (toUpper text) = toUpper text := by
  unfold toUpper
  rw [String.toList_ofList, List.flatMap_assoc]
  have hcapitals : ∀ c : Char, (capitalsOf c).flatMap capitalsOf = capitalsOf c := fun c => by
    rw [List.flatMap_congr fun d => capitalsOf_of_mem, List.flatMap_singleton']
  simp only [hcapitals]

theorem toUpper_append (first second : String) :
    toUpper (first ++ second) = toUpper first ++ toUpper second := by
  simp [toUpper, String.ofList_append]

/-! ## Small letters of capital letters -/

theorem smallsBehind_of_ascii {before chars : List Char} (h : ∀ c ∈ chars, c.toNat < 128) :
    smallsBehind before chars = chars.flatMap smallsOf := by
  induction chars generalizing before with
  | nil => rfl
  | cons c rest ih =>
    obtain ⟨hc, hrest⟩ := List.forall_mem_cons.mp h
    have hsigma : c ≠ '\u03a3' := by
      rintro rfl
      exact absurd hc (by decide)
    rw [smallsBehind, if_neg hsigma, ih hrest, List.flatMap_cons]

theorem toLower_toUpper {text : String} (h : ∀ c ∈ text.toList, c.toNat < 128) :
    toLower (toUpper text) = toLower text := by
  have hletter : ∀ c ∈ text.toList, (∀ d ∈ capitalsOf c, d.toNat < 128) ∧
      (capitalsOf c).flatMap smallsOf = smallsOf c := by
    intro c hc
    have hboth := @of_ascii (fun c => (capitalsOf c).all (·.toNat < 128) &&
      (capitalsOf c).flatMap smallsOf == smallsOf c) (by decide +kernel) c (h c hc)
    simpa using hboth
  have hcapitals : ∀ d ∈ text.toList.flatMap capitalsOf, d.toNat < 128 := by
    intro d hd
    obtain ⟨c, hc, hd⟩ := List.mem_flatMap.mp hd
    exact (hletter c hc).1 d hd
  unfold toLower toUpper
  rw [String.toList_ofList, smallsBehind_of_ascii hcapitals, smallsBehind_of_ascii h,
    List.flatMap_assoc, List.flatMap_congr fun c hc => (hletter c hc).2]

end BoardSearch.Text
