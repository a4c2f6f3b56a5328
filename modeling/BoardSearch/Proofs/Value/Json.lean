import BoardSearch.Value.Written
import BoardSearch.Value.Same

/-!
# Values of JSON

The values that a JSON text can spell, and those among them that have no parts.

## Main definitions

* `Value.isJson`: a value of JSON;
* `Value.isPlain`: a value of which as much is asked of its outermost form only;
* `Value.isAtom`: a truth value, a number or a text.

## Main statements

* `Value.hashable_of_isAtom`: such a value can be a key;
* `Value.eq_int_of_isAtom`: only an integer can be too long to be written out.
-/

namespace BoardSearch.Value

mutual

/-- A value of JSON: nothing, a truth value, a number, a text, or a list of values or an
object of them. -/
def isJson : Value → Bool
  | .null | .bool _ | .int _ | .float _ | .text _ => true
  | .list items => itemsAreJson items
  | .mapping entries => entriesAreJson entries
  | _ => false
termination_by structural value => value

/-- The items of a list are values of JSON. -/
def itemsAreJson : List Value → Bool
  | [] => true
  | value :: rest => isJson value && itemsAreJson rest
termination_by structural values => values

/-- The entries of an object are values of JSON under texts. -/
def entriesAreJson : List (Value × Value) → Bool
  | [] => true
  | (.text _, value) :: rest => isJson value && entriesAreJson rest
  | _ :: _ => false
termination_by structural entries => entries

end

/-- The outermost form of the value is that of a value of JSON, or it is a tuple. -/
def isPlain : Value → Bool
  | .null | .bool _ | .int _ | .float _ | .text _ | .list _ | .tuple _ | .mapping _ => true
  | _ => false

/-- A truth value, a number or a text. -/
def isAtom : Value → Bool
  | .bool _ | .int _ | .float _ | .text _ => true
  | _ => false

variable {value : Value}

theorem isPlain_of_isJson (h : value.isJson = true) : value.isPlain = true := by
  cases value <;> simp_all [isJson, isPlain]

theorem hashable_of_isAtom (h : value.isAtom = true) : value.hashable = true := by
  cases value <;> simp_all [isAtom, hashable]

/-- Of the values without parts only an integer can be too long to be written out. -/
theorem eq_int_of_isAtom (h : value.isAtom = true) (hlong : value.hasText = false) :
    ∃ n, value = .int n ∧ isShort n = false := by
  cases value with
  | int n => exact ⟨n, rfl, hlong⟩
  | bool | float | text => simp [hasText] at hlong
  | _ => simp [isAtom] at h

end BoardSearch.Value
