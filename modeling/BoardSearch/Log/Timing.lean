import BoardSearch.Failure
import BoardSearch.Log.Level
import BoardSearch.Stopwatch

/-!
# Timed methods

A method of a part that writes to the log can be timed: the messages of its
stopwatch go to the log of that part.

## Main definitions

* `Ending.ofResult`: how a block ended that came to a result or to a failure;
* `Log.Timed`: the messages of a method, and how it ended;
* `Log.timed`: a method with a stopwatch.
-/

namespace BoardSearch

/-- How a block ended that came to a result or to a failure. -/
def Ending.ofResult {α : Type} : Except Failure α → Ending
  | .ok _ => .completed
  | .error (.interrupted kind) => .interrupted kind
  | .error failure => .failed failure.kind

namespace Log

/-- The messages that a timed method wrote, and how it ended. -/
structure Timed (α : Type) where
  messages : List (Level × String)
  result : Except Failure α

/-- A method that is timed. It does not begin unless what it belongs to has a log. -/
def timed {α : Type} (watch : Stopwatch) (level : Level) (title : String) (skipStart : Bool)
    (hasLog : Bool) (method : Except Failure α) : Timed α :=
  if !hasLog then ⟨[], .error .noLogger⟩
  else
    ⟨(watch.messages title skipStart (.ofResult method)).map fun message => (level, message),
      method⟩

end Log

end BoardSearch
