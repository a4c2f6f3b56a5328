/-!
# Wildcard patterns

In a pattern a backslash takes the meaning of a wildcard away from the character
after it. So a wildcard is live when the run of backslashes in front of it has
even length: such a run is a row of escaped backslashes.

Searches are written with LIKE patterns, where `%` stands for any run of
characters, and are sent as engine patterns, where `*` does and `?` stands for
any one character.

## Main definitions

* `Wildcard.passFrom`: a pass over a pattern, which rewrites its live characters;
* `Wildcard.escape`: an engine pattern whose live wildcards are taken literally;
* `Wildcard.ofLike`: the engine pattern of a LIKE pattern.

## Design notes

A pass carries the length of the run of backslashes that it has just read, and whether
it is directly behind a live star, which only the last of the three passes looks at.
-/

namespace BoardSearch.Wildcard

/-- A wildcard after a run of so many backslashes is live. -/
def isLive (run : Nat) : Bool := run % 2 == 0

/-- A wildcard of the engine. -/
def isEngineWildcard (c : Char) : Bool := c == '*' || c == '?'

/-- A pass over a pattern, after a run of backslashes. In place of a live character stands
what `rewrite` makes of it, directly behind a live star or not. -/
def passFrom (rewrite : Bool → Char → List Char) (run : Nat) (behindStar : Bool) :
    List Char → List Char
  | [] => []
  | c :: rest =>
    if c = '\\' then c :: passFrom rewrite (run + 1) false rest
    else if isLive run then rewrite behindStar c ++ passFrom rewrite 0 (c == '*') rest
    else c :: passFrom rewrite 0 false rest

/-- A backslash in front of a wildcard of the engine. -/
def escaping (_ : Bool) (c : Char) : List Char :=
  if isEngineWildcard c then ['\\', c] else [c]

/-- A star for a percent sign. -/
def starring (_ : Bool) (c : Char) : List Char := if c = '%' then ['*'] else [c]

/-- No star directly behind another. -/
def collapsing (behindStar : Bool) (c : Char) : List Char :=
  if behindStar && c == '*' then [] else [c]

/-- The pattern in which every wildcard of the engine is taken literally. -/
def escape (pattern : List Char) : List Char := passFrom escaping 0 false pattern

/-- The engine pattern of a LIKE pattern: what only the engine takes for a
wildcard is escaped, percent signs become stars, and a run of stars becomes one. -/
def ofLike (pattern : List Char) : List Char :=
  passFrom collapsing 0 false (passFrom starring 0 false (escape pattern))

/-- The engine pattern of a LIKE pattern, as texts. -/
def ofLikeText (pattern : String) : String := String.ofList (ofLike pattern.toList)

end BoardSearch.Wildcard
