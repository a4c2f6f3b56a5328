import BoardSearch.Log.Level

/-!
# Log events

What the parts of the program have to say while they work.

## Main definitions

* `Log.Source`: the parts that speak;
* `Log.Event`: a message of one of them, at a level.
-/

namespace BoardSearch.Log

/-- The parts of the program that write to the log. -/
inductive Source where
  | compiler
  | orders
  | commandLine
deriving DecidableEq

namespace Source

/-- The name that the messages of a part go under, without the path before it. -/
def name : Source → String
  | compiler => "PostQueryBuilder"
  | orders => "OrderResolver"
  | commandLine => "CompilePostQueryScript"

/-- The path before the name. -/
def path : Source → String
  | compiler => "postsearch.search.post_query"
  | orders => "postsearch.search.order"
  | commandLine => "postsearch.scripts.compile_query"

/-- The name of the log that a part writes to. -/
def logName (source : Source) : String := source.path ++ "." ++ source.name

/-- Every part. -/
def all : List Source := [compiler, orders, commandLine]

end Source

/-- A message. -/
structure Event where
  source : Source
  level : Level
  /-- What is said, unless a part of it cannot be written out. -/
  message? : Option String
deriving DecidableEq

/-- What is said; nothing where a part of it cannot be written out. -/
def Event.message (event : Event) : String := event.message?.getD ""

end BoardSearch.Log
