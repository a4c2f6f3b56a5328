import BoardSearch.Number.Places

/-!
# Timing

A block of work is announced before it begins and reported on when it ends, with
the seconds it took to four places.

## Main definitions

* `Ending`: how a block ended;
* `Stopwatch`: when a block began and ended;
* `Stopwatch.completion`: the message at the end;
* `Stopwatch.messages`: the messages for a block.
-/

namespace BoardSearch

/-- How a block of work ended. -/
inductive Ending where
  | completed
  /-- It failed, with a failure of the named kind. -/
  | failed (kind : String)
  /-- It was broken off from outside, by an interruption of the named kind. -/
  | interrupted (kind : String)
deriving DecidableEq

namespace Ending

/-- The kinds of interruption. -/
def interruptions : List String := ["KeyboardInterrupt", "SystemExit", "GeneratorExit"]

/-- The ending of a block out of which something of the named kind was raised. -/
def ofRaised (kind : String) : Ending :=
  if interruptions.contains kind then .interrupted kind else .failed kind

/-- What was raised out of the block. -/
def raised? : Ending → Option String
  | completed => none
  | failed kind | interrupted kind => some kind

/-- The word for an ending. To be broken off from outside is no failure of the block. -/
def word : Ending → String
  | completed | interrupted _ => "Completed"
  | failed kind => "Failed (raised " ++ kind ++ ")"

end Ending

/-- The readings at the beginning and at the end of a block, in seconds. -/
structure Stopwatch where
  began : Binary64
  ended : Binary64

namespace Stopwatch

/-- A stopwatch that stands still. -/
def still : Stopwatch := ⟨.zero, .zero⟩

/-- The seconds that a block took, to four places. -/
def elapsedText (watch : Stopwatch) : String :=
  String.ofList ((watch.ended.sub watch.began).fixed false 4)

/-- What is put in front of messages: a title and a colon, unless the title is empty. -/
def heading (title : String) : String := if title = "" then "" else title ++ ": "

/-- The message when a block begins. -/
def start (title : String) : String := heading title ++ "Starting..."

/-- The message when a block ends. A failure is named by its kind. -/
def completion (watch : Stopwatch) (title : String) (ending : Ending) : String :=
  heading title ++ ending.word ++ ". (elapsed time: " ++ watch.elapsedText ++ " seconds)"

/-- The messages for a block. The first one can be left out. -/
def messages (watch : Stopwatch) (title : String) (skipStart : Bool) (ending : Ending) :
    List String :=
  (if skipStart then [] else [start title]) ++ [watch.completion title ending]

end Stopwatch

end BoardSearch
