/-!
# Lines

A line may end in a line feed, in a carriage return, or in both of them.

## Main definitions

* `Text.withLineFeeds`: a text whose lines end in line feeds.
-/

namespace BoardSearch.Text

/-- Characters with one line feed for each line break. -/
def lineFeeds : List Char → List Char
  | '\r' :: '\n' :: rest => '\n' :: lineFeeds rest
  | '\r' :: rest => '\n' :: lineFeeds rest
  | c :: rest => c :: lineFeeds rest
  | [] => []

/-- A text whose lines end in line feeds. -/
def withLineFeeds (text : String) : String := String.ofList (lineFeeds text.toList)

end BoardSearch.Text
