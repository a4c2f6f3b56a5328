/-!
# Order tokens

An order token is a base name with a direction behind it, or without one.

## Main definitions

* `SortDirection`: ascending or descending;
* `OrderToken.split`: the base and the direction of a token.
-/

namespace BoardSearch

/-- A direction to sort in. -/
inductive SortDirection where
  | asc
  | desc
deriving DecidableEq

namespace SortDirection

/-- A direction as it is written. -/
def text : SortDirection → String
  | asc => "asc"
  | desc => "desc"

/-- Both directions. -/
def all : List SortDirection := [asc, desc]

/-- The ending of a token with a direction. -/
def ending (direction : SortDirection) : List Char := '_' :: direction.text.toList

end SortDirection

/-- A text without an ending, if it has that ending. -/
def withoutEnding? (ending text : List Char) : Option (List Char) :=
  if ending.isSuffixOf text then some (text.take (text.length - ending.length)) else none

/-- A token split into its base name and its direction. -/
structure OrderToken where
  base : String
  direction : Option SortDirection
deriving DecidableEq

namespace OrderToken

/-- The token with a direction that a text ends in. An ending by itself is a name. -/
def withDirection? (direction : SortDirection) (text : List Char) : Option OrderToken :=
  match withoutEnding? direction.ending text with
  | none | some [] => none
  | some base => some ⟨String.ofList base, some direction⟩

/-- The base and the direction of a token. -/
def split (token : String) : OrderToken :=
  match withDirection? .asc token.toList with
  | some split => split
  | none =>
    match withDirection? .desc token.toList with
    | some split => split
    | none => ⟨token, none⟩

/-- The token as it is written. -/
def text (token : OrderToken) : String :=
  match token.direction with
  | some direction => String.ofList (token.base.toList ++ direction.ending)
  | none => token.base

end OrderToken

end BoardSearch
