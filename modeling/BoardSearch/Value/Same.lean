import BoardSearch.Keyed
import BoardSearch.Value.Basic

/-!
# Equality of values

Values are equal across the forms that stand for one thing: numbers by their
value, whether they are written as truth values, integers or floats; an operator
and its word; sets without regard to order and kind; mappings without regard to
order; moments with a known zone by the instant. A value that is not equal to
itself (not a number) stays unequal wherever it is nested.

## Main definitions

* `Value.same`: equality;
* `Value.hashable`: the values that can be a key or an entry of a set;
* `Value.truthy`: the values that count as true.
-/

namespace BoardSearch.Value

/-- The integer that a truth value or an integer stands for. -/
def asInt? : Value → Option Int
  | .bool b => some (if b then 1 else 0)
  | .int n => some n
  | _ => none

/-- Equality of numbers by value; `none` where either is no number. -/
def sameNumber? (a b : Value) : Option Bool :=
  match a.asInt?, b.asInt?, a, b with
  | some m, some n, _, _ => some (m == n)
  | some n, none, _, .float x | none, some n, .float x, _ =>
    some (Binary64.compareInt? n x == some .eq)
  | none, none, .float x, .float y => some (Binary64.compare? x y == some .eq)
  | _, _, _, _ => none

/-- Equality of moments: by the instant where both zones are known, by the clock
where both are not. -/
def sameMoment (a b : Moment) : Bool :=
  match a.instant?, b.instant? with
  | some i, some j => i == j
  | none, none => a == b
  | _, _ => false

mutual

/-- Equality of values. -/
def same (a b : Value) : Bool :=
  match a with
  | .list xs => match b with
    | .list ys => sameItems xs ys
    | _ => false
  | .tuple xs => match b with
    | .tuple ys => sameItems xs ys
    | _ => false
  | .set xs | .frozenSet xs => match b with
    | .set ys | .frozenSet ys => xs.length == ys.length && within xs ys
    | _ => false
  | .mapping xs => match b with
    | .mapping ys => xs.length == ys.length && covered xs ys
    | _ => false
  | .range op x y => match b with
    | .range op' x' y' => op == op' && same x x' && same y y'
    | _ => false
  | .tags xs ys zs => match b with
    | .tags xs' ys' zs' => sameItems xs xs' && sameItems ys ys' && sameItems zs zs'
    | _ => false
  | .request xs => match b with
    | .request ys => xs.length == ys.length && coveredFields xs ys
    | _ => false
  | .null => match b with
    | .null => true
    | _ => false
  | .bytes xs => match b with
    | .bytes ys => xs == ys
    | _ => false
  | .date d => match b with
    | .date e => d == e
    | _ => false
  | .moment m => match b with
    | .moment n => sameMoment m n
    | _ => false
  | .text s => b.isText s
  | .operator op => b.isText op.text
  | .bool x => (sameNumber? (.bool x) b).getD false
  | .int n => (sameNumber? (.int n) b).getD false
  | .float x => (sameNumber? (.float x) b).getD false
termination_by structural a

/-- Equality of rows of values, item by item. -/
def sameItems (xs ys : List Value) : Bool :=
  match xs with
  | [] => ys.isEmpty
  | x :: xs => match ys with
    | [] => false
    | y :: ys => same x y && sameItems xs ys
termination_by structural xs

/-- Every item of a row equals one of another. -/
def within (xs ys : List Value) : Bool :=
  match xs with
  | [] => true
  | x :: xs => ys.any (same x) && within xs ys
termination_by structural xs

/-- Every entry of a mapping equals one of another. -/
def covered (xs ys : List (Value × Value)) : Bool :=
  match xs with
  | [] => true
  | (k, v) :: xs => (ys.any fun entry => same k entry.1 && same v entry.2) && covered xs ys
termination_by structural xs

/-- Every metatag of a request equals one of another. -/
def coveredFields (xs ys : List (String × Value)) : Bool :=
  match xs with
  | [] => true
  | (k, v) :: xs => (ys.any fun entry => k == entry.1 && same v entry.2) && coveredFields xs ys
termination_by structural xs

end

instance : BEq Value := ⟨same⟩

mutual

/-- A value that can be a key of a mapping or an entry of a set. -/
def hashable : Value → Bool
  | .list _ | .set _ | .mapping _ | .request _ => false
  | .tuple items => allHashable items
  | .range _ bound upper => hashable bound && hashable upper
  | .tags included excluded related =>
    allHashable included && allHashable excluded && allHashable related
  | .frozenSet _ | .null | .bool _ | .int _ | .float _ | .text _ | .bytes _ | .date _
  | .moment _ | .operator _ => true

/-- Every value of a row can be a key. -/
def allHashable : List Value → Bool
  | [] => true
  | value :: rest => hashable value && allHashable rest

end

/-- A value that counts as true: all but the absent value, zeros and what is empty. -/
def truthy : Value → Bool
  | .null => false
  | .bool b => b
  | .int n => n != 0
  | .float x => !x.isZero
  | .text s => s != ""
  | .bytes octets => !octets.isEmpty
  | .list items | .tuple items | .set items | .frozenSet items => !items.isEmpty
  | .mapping entries => !entries.isEmpty
  | .date _ | .moment _ | .operator _ | .range _ _ _ | .tags _ _ _ | .request _ => true

/-- The value under a text among the entries of a mapping. -/
def find? (key : String) (entries : List (Value × Value)) : Option Value :=
  Keyed.find? (.text key) entries

/-- The set of the values in a row, the first of equal ones being kept. -/
def distinct (items : List Value) : List Value :=
  items.foldl (fun kept value => if kept.any (· == value) then kept else kept ++ [value]) []

end BoardSearch.Value
