import BoardSearch.Value.Same
import BoardSearch.Value.Shown

/-!
# Counts with a noun

A number in front of a noun, as in messages. The noun is in the singular for the
number one only.

## Main definitions

* `Value.counted`: the number and the noun.
-/

namespace BoardSearch.Value

/-- A number with a noun. Where no plural is given, it is the singular with an s. -/
def counted (count : Value) (singular : String) (plural : Option String) : String :=
  let noun := if count == .int 1 then singular else plural.getD (singular ++ "s")
  count.shown ++ " " ++ noun

end BoardSearch.Value
