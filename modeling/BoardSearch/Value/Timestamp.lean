import BoardSearch.Calendar.Timestamp
import BoardSearch.Failure
import BoardSearch.Value.Same

/-!
# Values as timestamps

A number is a timestamp: an integer counts whole seconds, and a binary64 number
may have a fraction.

## Main definitions

* `Timestamp.ofValue`: the timestamp that a number is;
* `Moment.ofTimestamp`: its moment, in UTC.
-/

namespace BoardSearch

/-- The timestamp that a number is. -/
def Timestamp.ofValue (value : Value) : Except Failure Timestamp :=
  match value.asInt? with
  | some n => .ok ⟨n, 0⟩
  | none =>
    match value with
    | .float x => (Timestamp.ofBinary64 x).mapError .timestamp
    | _ => .error .mistyped

/-- The UTC moment of a timestamp. -/
def Moment.ofTimestamp (value : Value) : Except Failure Moment := do
  ((← Timestamp.ofValue value).toMoment).mapError .timestamp

end BoardSearch
