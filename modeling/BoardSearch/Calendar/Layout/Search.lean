import BoardSearch.Calendar.Layout.Parts

/-!
# Written moments

The moment that a text denotes under a layout, and the layouts in which searches
write dates and times.

## Main definitions

* `Layout.readMoment`: the moment that a whole text denotes under a layout, in UTC;
* `Layout.searchLayouts`: the layouts of searches;
* `Layout.readTime?`: the moment that a text denotes under the first of them that accepts it.
-/

namespace BoardSearch.Layout

/-- The moment that a whole text denotes under a layout, in UTC. -/
def readMoment (layout text : String) : Except LayoutError Moment := do
  let pieces ← ofText layout
  match read? pieces text.toList with
  | none => .error (.mismatch text layout)
  | some (_, c :: rest) => .error (.leftover (String.ofList (c :: rest)))
  | some (readings, []) =>
    match readings.findSome? Reading.unlisted? with
    | some name => .error (.unlistedName name)
    | none => (Parts.ofReadings readings).moment

/-- The layouts of dates that a search may use. -/
def dateLayouts : List String := ["%Y-%m-%d", "%m/%d/%Y", "%Y%m%d"]

/-- The layouts of times of day that may follow a date. -/
def timeLayouts : List String := ["", " %H:%M:%S", "T%H:%M:%S"]

/-- Every layout of dates with every layout of times, in the order in which they
are tried. -/
def searchLayouts : List String :=
  dateLayouts.flatMap fun date => timeLayouts.map fun time => date ++ time

/-- The moment that a text denotes under the first layout that accepts it. -/
def readTime? (text : String) : Option Moment :=
  searchLayouts.findSome? fun layout => (readMoment layout text).toOption

end BoardSearch.Layout
