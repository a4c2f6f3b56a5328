import BoardSearch.Proofs.Compiler.Refusal
import BoardSearch.Proofs.Number.Leading
import BoardSearch.Proofs.Request.Integer

/-!
# Numbers of tags that are no integers

The number of tags of a search can be any number. It is read as its integer part, unless it is
shown with an exponent: then its first digit is read, and a limit of nine or more does not
refuse even a huge number of tags.

## Main definitions

* `Value.number?`: the exact value of a number;
* `Value.IsReadWhole`: an integer, or a number that is shown without an exponent.

## Main statements

* `Request.exists_integer_number`: the numbers that are read as their integer part;
* `Session.tagCheck_of_isBelow`: a number of tags above the limit is refused;
* `Compiler.tagCount_eq_towardZero_iff`: which numbers of tags are read as their integer part,
  and which of those above the limit a build refuses.
-/

namespace BoardSearch

/-- The exact value of a finite number, which for one of the binary64 format is that of the
decimal it is shown with. -/
def Value.number? : Value → Option ℚ
  | .float x => x.shownValue?
  | value => value.asInt?.map fun n => (n : ℚ)

/-- The value is an integer, or its exact value is shown without an exponent. -/
def Value.IsReadWhole (value : Value) (x : ℚ) : Prop :=
  value.asInt?.isSome = true ∨ Binary64.IsPlain x

namespace Request

/-- A number is read as its integer part if it is read whole, and else as a single digit with
its sign. -/
theorem exists_integerOf?_number {value : Value} {x : ℚ} (hx : value.number? = some x) :
    scalarOf? value = some value ∧ ∃ n, integerOf? value = .ok (some n) ∧
      (value.IsReadWhole x → n = towardZero x) ∧
      (¬ value.IsReadWhole x → 1 ≤ |n| ∧ |n| ≤ 9) := by
  cases value with
  | bool | int =>
    obtain rfl := Option.some.inj hx
    exact ⟨rfl, _, rfl, fun _ => (towardZero_intCast _).symm, fun hnot => (hnot (.inl rfl)).elim⟩
  | float y =>
    obtain ⟨l, hchars, hblanks, hlength, hplain, hscientific⟩ := Binary64.exists_leading hx
    have hshort : l.digits.length ≤ Text.maxDigits := hlength.trans (by decide)
    have hread : integerOf? (.float y) = .ok (some l.value) :=
      integerOf?_of_leading rfl rfl hchars (by simp [hblanks]) hshort
    refine ⟨rfl, l.value, hread, ?_, fun hnot => hscientific fun h => hnot (.inr h)⟩
    rintro (hinteger | h)
    · simp [Value.asInt?] at hinteger
    · exact hplain h
  | _ => simp [Value.number?, Value.asInt?] at hx

/-- A number under a name is read as an integer, which is its integer part just if the number
is read whole. -/
theorem exists_integer_number {request : Request} {name : String} {value : Value} {x : ℚ}
    (hvalue : request.get? name = some value) (hx : value.number? = some x) (default : Int) :
    ∃ n, request.integer name default = .ok n ∧ (n = towardZero x ↔ value.IsReadWhole x) ∧
      (¬ value.IsReadWhole x → |n| ≤ 9) := by
  obtain ⟨hscalar, n, hn, hwhole, hdigit⟩ := exists_integerOf?_number hx
  refine ⟨n, integer_of_integerOf? hvalue hscalar hn default, ⟨fun heq => ?_, hwhole⟩,
    fun hnot => (hdigit hnot).2⟩
  -- a number that is not read whole is read as a digit that is no integer part of it
  by_contra hnot
  obtain ⟨hleast, hmost⟩ := hdigit hnot
  exact Binary64.ne_towardZero_of_not_isPlain (fun h => hnot (.inr h)) hleast hmost heq

end Request

theorem Binary64.IsBelow.mono {n m : Int} {x : Binary64} (h : x.IsBelow n) (hle : n ≤ m) :
    x.IsBelow m := by
  cases x with
  | finite negative mantissa exponent =>
    exact lt_of_lt_of_le h (Int.mul_le_mul_of_nonneg_right hle (Int.natCast_nonneg _))
  | infinite => exact h
  | nan => exact h

/-- A limit that is less than a number is less than all greater ones. -/
theorem Value.IsBelow.mono {n m : Int} {limit : Value} (h : limit.IsBelow n) (hle : n ≤ m) :
    limit.IsBelow m := by
  cases limit with
  | bool | int => exact lt_of_lt_of_le h hle
  | float x => exact Binary64.IsBelow.mono h hle
  | _ => exact h

namespace Compiler

variable {c : Compiler} {request : Request} {value : Value} {x : ℚ}

/-- A number of tags is read as its integer part just if it is an integer or is shown without
an exponent. A build then refuses it where the integer part is above the limit. Shown with an
exponent it is read as a single digit, and a limit of nine or more does not refuse it. -/
theorem tagCount_eq_towardZero_iff (hparse : c.parse = .ok request)
    (hvalue : request.get? "tag_count" = some value) (hx : value.number? = some x)
    (clock : Clock) (base : Option Search) :
    (request.integer "tag_count" 0 = .ok (towardZero x) ↔ value.IsReadWhole x) ∧
    (value.IsReadWhole x → c.session.tagQueryLimit.IsBelow (towardZero x) →
      (c.build clock base).result = .error (c.session.refusal (towardZero x))) ∧
    (¬ value.IsReadWhole x → ¬ c.session.tagQueryLimit.IsBelow 9 →
      ∀ limit count, (c.build clock base).result ≠ .error (.tagLimit limit count)) := by
  obtain ⟨n, hn, hiff, hdigit⟩ := Request.exists_integer_number hvalue hx 0
  refine ⟨?_, fun hwhole hbelow => ?_, fun hnot hlimit limit count hrefused => ?_⟩
  · rw [hn, Except.ok.injEq]
    exact hiff
  · show (c.compile clock.now base).result = _
    rw [← hiff.mpr hwhole] at hbelow ⊢
    rw [compile_result, hparse]
    show (c.session.tagCheck request >>= _) = _
    rw [Session.tagCheck_of_isBelow hn hbelow]
    rfl
  · obtain ⟨hcount, rfl, hbelow, -⟩ :=
      Session.tagCheck_eq_refusal.mp ((compile_eq_refusal hparse).mp hrefused)
    obtain rfl := Except.ok.inj (hn.symm.trans hcount)
    exact hlimit (hbelow.mono ((le_abs_self n).trans (hdigit hnot)))

/-- The number 41.5 is read as 41. -/
theorem tagCount_eq_towardZero_iff_half :
    let value : Value := .float (.finite false (83 * 2 ^ 46) (-47))
    let c := new (.record [("tag_count", value)]) .anonymous none
    value.number? = some (83 / 2) ∧ c.parse = .ok ⟨[("tag_count", value)]⟩ ∧
      Request.integer ⟨[("tag_count", value)]⟩ "tag_count" 0 = .ok 41 ∧
      (c.build .leapDay none).result = .error (.tagLimit (.int 40) 41) := by
  intro value c
  have hshortest : Binary64.shortest (83 * 2 ^ 46) (-47) = ⟨415, -1⟩ := by decide +kernel
  have hx : value.number? = some (83 / 2) := by
    show some _ = some _
    rw [Binary64.magnitude, hshortest]
    norm_num [Decimal.value]
  have hplain : value.IsReadWhole (83 / 2) := by
    refine .inr (.inr ?_)
    norm_num [abs_of_pos]
  have hfloor : towardZero (83 / 2) = 41 := by
    norm_num [towardZero, Int.floor_eq_iff]
  have hbelow : Session.anonymous.tagQueryLimit.IsBelow 41 := show (40 : Int) < 41 by decide
  have hrefusal : Session.anonymous.refusal 41 = .tagLimit (.int 40) 41 := by
    have htext : ((Value.int 41).hasText && (Value.int 40).hasText) = true := by decide +kernel
    exact if_pos htext
  have hparse : c.parse = .ok ⟨[("tag_count", value)]⟩ := rfl
  obtain ⟨hread, hrefused, -⟩ := tagCount_eq_towardZero_iff hparse rfl hx .leapDay none
  rw [hfloor] at hread hrefused
  exact ⟨hx, hparse, hread.mpr hplain, (hrefused hplain hbelow).trans (congrArg _ hrefusal)⟩

/-- The number `10 ^ 16` is shown as `1e+16` and read as 1, so that it is below the limit. -/
theorem tagCount_ne_towardZero_exponent :
    let value : Value := .float (.finite false 5000000000000000 1)
    let c := new (.record [("tag_count", value)]) .anonymous none
    value.number? = some (10 ^ 16) ∧ c.parse = .ok ⟨[("tag_count", value)]⟩ ∧
      Request.integer ⟨[("tag_count", value)]⟩ "tag_count" 0 = .ok 1 ∧
      towardZero (10 ^ 16) = 10 ^ 16 ∧ c.session.tagQueryLimit.IsBelow (10 ^ 16) ∧
      ∃ search, (c.build .leapDay none).result = .ok search := by
  intro value c
  have hshortest : Binary64.shortest 5000000000000000 1 = ⟨1, 16⟩ := by decide +kernel
  have hx : value.number? = some (10 ^ 16) := by
    show some _ = some _
    rw [Binary64.magnitude, hshortest]
    norm_num [Decimal.value]
  have hfloor : towardZero (10 ^ 16) = 10 ^ 16 := by
    norm_num [towardZero]
  have hbelow : Session.anonymous.tagQueryLimit.IsBelow (10 ^ 16) :=
    show (40 : Int) < 10 ^ 16 by decide
  have htext : Binary64.text (.finite false 5000000000000000 1) = "1e+16" := by decide +kernel
  have hwritten : value.written = .ok "1e+16" := congrArg Except.ok htext
  let one : Text.Leading := @Text.Leading.plain false ['1'] ['e', '+', '1', '6']
    (List.forall_mem_singleton.mpr (by decide)) (List.cons_ne_nil _ _)
    fun c hc => by
      obtain rfl := Option.some.inj hc
      decide +kernel
  have hread : Request.integerOf? value = .ok (some 1) :=
    @Request.integerOf?_of_leading _ _ rfl hwritten one rfl (List.forall_mem_nil _) (by decide)
  refine ⟨hx, rfl, Request.integer_of_integerOf? rfl rfl hread 0, hfloor, hbelow,
    exists_eq_ok ?_⟩
  decide +kernel

end Compiler

end BoardSearch
