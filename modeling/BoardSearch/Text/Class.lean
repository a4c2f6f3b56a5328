/-!
# Classes of characters

A class of characters is given by closed ranges of code points. `within` looks a
character up in such a list.

## Main definitions

* `Text.Ranges`: closed ranges of code points, ascending and apart;
* `Text.within`: membership of a character.
-/

namespace BoardSearch.Text

/-- Closed ranges of code points, in ascending order. -/
abbrev Ranges := List (Nat × Nat)

/-- A character belongs to a class when one of its ranges holds the code point. -/
def within (ranges : Ranges) (c : Char) : Bool :=
  ranges.any fun range => range.1 ≤ c.toNat && c.toNat ≤ range.2

end BoardSearch.Text
