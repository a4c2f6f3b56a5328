import BoardSearch.Proofs.Text.Numeral
import BoardSearch.Request.Basic

/-!
# Integers of requests

The integer of a metatag that is a text is the numeral which the text begins with, and an
integer is the same integer as a number and as the text it is written as.

## Main statements

* `Request.integerOf?_of_leading`: what is read of a value whose text begins with a numeral;
* `Request.integer_of_text`: what the integer of a text is, and when it is the default.
-/

namespace BoardSearch.Request

/-- A text that is not empty is a scalar. -/
theorem scalarOf?_of_asText? {value : Value} {s : String} (htext : value.asText? = some s)
    (hs : s ≠ "") : scalarOf? value = some value := by
  cases value with
  | text t =>
    obtain rfl : t = s := Option.some.inj htext
    exact if_neg hs
  | operator op => rfl
  | _ => simp [Value.asText?] at htext

/-- Of what is no integer itself the text is read. -/
theorem integerOf?_of_written {value : Value} {s : String} (hint : value.asInt? = none)
    (hwritten : value.written = .ok s) :
    integerOf? value = match Text.Numeral.ofPrefix? s.toList with
      | none => .ok none
      | some numeral => (numeral.toInt.map some).mapError .numeral := by
  unfold integerOf?
  split
  · simp [Value.asInt?] at hint
  · simp [Value.asInt?] at hint
  · rw [hwritten]
    rfl

/-- Where the text begins with a numeral, its value is read. -/
theorem integerOf?_of_leading {value : Value} {s : String} (hint : value.asInt? = none)
    (hwritten : value.written = .ok s) {l : Text.Leading} (hl : l.chars = s.toList)
    (hblanks : ∀ b ∈ l.blanks, Text.isSeparator b = false)
    (hlength : l.digits.length ≤ Text.maxDigits) : integerOf? value = .ok (some l.value) := by
  rw [integerOf?_of_written hint hwritten, ← hl, Text.Numeral.ofPrefix?_chars]
  simp only [Text.Numeral.toInt_numeral hblanks hlength]
  rfl

/-- A text is no integer itself, and it is written as it is. -/
theorem written_of_asText? {value : Value} {s : String} (htext : value.asText? = some s) :
    value.asInt? = none ∧ value.written = .ok s := by
  cases value with
  | text t =>
    obtain rfl : t = s := Option.some.inj htext
    exact ⟨rfl, rfl⟩
  | operator op =>
    obtain rfl : op.text = s := Option.some.inj htext
    exact ⟨rfl, rfl⟩
  | _ => simp [Value.asText?] at htext

variable {request : Request} {name : String} {value : Value}

theorem integer_of_integerOf? (hvalue : request.get? name = some value)
    (hscalar : scalarOf? value = some value) {found : Option Int}
    (hfound : integerOf? value = .ok found) (default : Int) :
    request.integer name default = .ok (found.getD default) := by
  simp [integer, integer?, scalar?, hvalue, hscalar, hfound, Except.map]

theorem integer_of_int {n : Int} (hvalue : request.get? name = some (.int n)) (default : Int) :
    request.integer name default = .ok n :=
  integer_of_integerOf? hvalue rfl rfl default

/-- A text that begins with a numeral is read as what sign and digits stand for, whatever
follows them; one that begins with none is read as the default. Between the two are the texts
whose numeral has separators for blanks or too many digits. A written integer is read as the
integer. -/
theorem integer_of_text (request : Request) (name : String) (default : Int) {value : Value}
    {s : String} (hvalue : request.get? name = some value) (htext : value.asText? = some s)
    (hs : s ≠ "") :
    (∀ l : Text.Leading, l.chars = s.toList → (∀ b ∈ l.blanks, Text.isSeparator b = false) →
      l.digits.length ≤ 4300 → request.integer name default = .ok l.value) ∧
    (¬ Text.BeginsNumeral s.toList → request.integer name default = .ok default) ∧
    ∀ n : Int, (Nat.toDigits 10 n.natAbs).length ≤ 4300 → s = (Value.int n).shown →
      ∀ other : Request, other.get? name = some (.int n) →
        request.integer name default = other.integer name default := by
  have hscalar := scalarOf?_of_asText? htext hs
  obtain ⟨hint, hwritten⟩ := written_of_asText? htext
  have hleading : ∀ l : Text.Leading, l.chars = s.toList →
      (∀ b ∈ l.blanks, Text.isSeparator b = false) → l.digits.length ≤ 4300 →
        request.integer name default = .ok l.value := by
    intro l hl hblanks hlength
    exact integer_of_integerOf? hvalue hscalar
      (integerOf?_of_leading hint hwritten hl hblanks hlength) default
  refine ⟨hleading, ?_, ?_⟩
  · intro hnone
    have hread := integerOf?_of_written hint hwritten
    rw [Text.Numeral.ofPrefix?_eq_none_iff.mpr hnone] at hread
    exact integer_of_integerOf? hvalue hscalar hread default
  · rintro n hlength rfl other hother
    -- a written integer is a numeral with nothing behind it
    have hwritten := hleading (.ofInt n) (Text.Leading.chars_ofInt n) (List.forall_mem_nil _)
      hlength
    rw [hwritten, Text.Leading.value_ofInt, integer_of_int hother]

/-- Digits of two scripts behind a blank and a minus sign, two signs, and a written integer. -/
theorem integer_of_text_scripts :
    integer ⟨[("random", .text "\u00a0-٣4_5")]⟩ "random" 7 = .ok (-34) ∧
    integer ⟨[("random", .text "--5")]⟩ "random" 7 = .ok 7 ∧
    integer ⟨[("random", .text "-120")]⟩ "random" 7 =
      integer ⟨[("random", .int (-120))]⟩ "random" 7 := by
  have hends : ∀ c, ['_', '5'].head? = some c → Text.isDigit c = false := by
    intro c hc
    obtain rfl := Option.some.inj hc
    decide +kernel
  have hdigits : ∀ c ∈ ['٣', '4'], Text.isDigit c = true :=
    List.forall_mem_cons.mpr ⟨by decide +kernel, List.forall_mem_singleton.mpr (by decide)⟩
  refine ⟨?_, ?_, ?_⟩
  · exact (integer_of_text _ "random" 7 rfl rfl (by decide)).1
      ⟨['\u00a0'], some .minus, ['٣', '4'], ['_', '5'],
        List.forall_mem_singleton.mpr (by decide), hdigits, List.cons_ne_nil _ _, hends⟩
      rfl (List.forall_mem_singleton.mpr (by decide)) (show 2 ≤ 4300 by decide)
  · have hnone : Text.Numeral.ofPrefix? "--5".toList = none := by decide
    exact (integer_of_text _ "random" 7 rfl rfl (by decide)).2.1
      (Text.Numeral.ofPrefix?_eq_none_iff.mp hnone)
  · exact (integer_of_text _ "random" 7 rfl rfl (by decide)).2.2 (-120) (by decide)
      (by decide +kernel) _ rfl

end BoardSearch.Request
