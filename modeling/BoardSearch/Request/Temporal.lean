import BoardSearch.Failure
import BoardSearch.Value.Same

/-!
# Temporal metatags

Two metatags compare with moments. In a search that was read from a JSON text
their bounds are still texts, and are read as moments before anything else.

## Main definitions

* `Temporal.metatags`, `Temporal.bounds`: what is read;
* `Temporal.withMoments`: the metatags of a search with moments for bounds.

## Design notes

The two metatags are a set, which is gone through in no order of its own. Dates are read first
here. Where neither metatag can be read, this order chooses the text that is complained about,
and nothing else depends on it.
-/

namespace BoardSearch.Temporal

/-- The metatags that compare with moments. -/
def metatags : List String := ["date", "age"]

/-- The entries of a range condition that are bounds. -/
def bounds : List String := ["value", "value2"]

/-- The moment that a text denotes in one of the layouts of searches. -/
def readMoment (text : String) : Except Failure Moment :=
  match Layout.readTime? text with
  | some moment => .ok moment
  | none => .error (.unreadableTime text)

/-- The entries of a condition, in which a bound that is a text is read as a moment. -/
def readBound (condition : List (Value × Value)) (bound : String) :
    Except Failure (List (Value × Value)) :=
  match (Value.find? bound condition).bind Value.asText? with
  | some text => do
    return Keyed.put (.text bound) (.moment (← readMoment text)) condition
  | none => .ok condition

/-- The entries of a condition with moments for its bounds. -/
def readCondition (condition : List (Value × Value)) : Except Failure (List (Value × Value)) :=
  bounds.foldlM readBound condition

/-- The metatags of a search, one of which has its bounds read if it is a mapping. -/
def readMetatag (entries : List (Value × Value)) (name : String) :
    Except Failure (List (Value × Value)) :=
  match Value.find? name entries with
  | some (.mapping condition) => do
    return Keyed.put (.text name) (.mapping (← readCondition condition)) entries
  | _ => .ok entries

/-- The metatags of a search with moments for the bounds of its temporal metatags. -/
def withMoments (entries : List (Value × Value)) : Except Failure (List (Value × Value)) :=
  metatags.foldlM readMetatag entries

end BoardSearch.Temporal
