import BoardSearch.Proofs.Query.Meaning

/-!
# Posts

Which clauses hold of a post depends on the values that it has under the field of the
clause. One of them has to be equal to the value of a clause, or to compare with it.

## Main definitions

* `Stored`: a value of a post;
* `Post`: the values of a post under each field;
* `Post.compare`: how a value of a post compares with a value of a clause;
* `Post.truth`: what holds of a post;
* `Post.Has`: a post has a value under a field.

## Main statements

* `Post.meets_term_iff`: a clause about a value asks whether the post has it;
* `Post.meets_term`, `Post.meets_range`, `Post.meets_oneOf`: clauses about a field with one
  value.

## Design notes

Moments are compared by the microseconds that clocks count. A moment of a post is what
clocks show at that moment, each in its zone, so it can be compared with a bound of any
zone; nothing is asked of how the clocks of two zones differ. How values of different kinds
compare is left open, and so are the clauses about texts that are taken apart: a post says so
for itself.
-/

namespace BoardSearch

/-- The moment that a date or a moment is. A date is its first moment. -/
def Value.asMoment? : Value → Option Moment
  | .date d => some d.begins
  | .moment m => some m
  | _ => none

/-- What a clock shows: a date and a time of day. -/
abbrev Reading := Date × TimeOfDay

/-- A value that a post has. -/
inductive Stored where
  | int (n : Int)
  | text (s : String)
  | flag (b : Bool)
  /-- A moment, which a clock shows according to its zone. -/
  | time (clock : Zone → Reading)

/-- What the clock of a zone shows, as a moment. -/
def Zone.reads (clock : Zone → Reading) (zone : Zone) : Moment :=
  ⟨(clock zone).1, (clock zone).2, zone⟩

/-- The comparison that a range makes, by its name. -/
def comparison? : String → Option (Ordering → Bool)
  | "gt" => some Ordering.isGT
  | "gte" => some Ordering.isGE
  | "lt" => some Ordering.isLT
  | "lte" => some Ordering.isLE
  | _ => none

/-- A post, as far as it is searched. -/
structure Post where
  /-- The values under a field. -/
  values : String → List Stored
  /-- How a value compares with a value of another kind. -/
  across : Stored → Value → Option Ordering
  /-- What holds of clauses of other kinds. -/
  other : Clause → Bool
  /-- How many out of so many queries a stated number asks for that is no integer. -/
  share : Value → Nat → Int

namespace Post

variable (post : Post)

/-- How a value of the post compares with the value of a clause. -/
def compare (x : Stored) (value : Value) : Option Ordering :=
  match x, value with
  | .int n, .int m => some (Ord.compare n m)
  | .text s, .text t => some (Ord.compare s t)
  | .flag b, .bool c => some (Ord.compare b c)
  | .time clock, value =>
    match value.asMoment? with
    | some m => some (Ord.compare (m.zone.reads clock).wallMicroseconds m.wallMicroseconds)
    | none => post.across x value
  | x, value => post.across x value

/-- A value of the post is equal to the value of a clause. -/
def equals (x : Stored) (value : Value) : Bool := post.compare x value == some .eq

/-- A clause holds of the post. -/
def holds (single : Clause) : Bool :=
  match single with
  | .term field value => (post.values field).any fun x => post.equals x value
  | .oneOf field values => (post.values field).any fun x => values.any (post.equals x)
  | .range field operation bound =>
    match comparison? operation with
    | some accepts => (post.values field).any fun x => (post.compare x bound).any accepts
    | none => post.other single
  | .present field => !(post.values field).isEmpty
  | single => post.other single

/-- What holds of the post. -/
def truth : Truth := ⟨post.holds, post.share⟩

/-- A post with one value under one field, of which nothing else holds. -/
def only (field : String) (x : Stored) : Post where
  values name := if name = field then [x] else []
  across _ _ := none
  other _ := false
  share _ _ := 0

/-- Some value under the field is equal to the value of a clause. -/
def Has (field : String) (value : Value) : Prop :=
  ∃ x ∈ post.values field, post.equals x value = true

variable {post} {x : Stored} {field : String}

theorem equals_iff {value : Value} :
    post.equals x value = true ↔ post.compare x value = some .eq :=
  beq_iff_eq

theorem meets_term_iff {value : Value} :
    post.truth.meets (.term field value) = true ↔ post.Has (fieldPath field) value :=
  List.any_eq_true

/-- Texts are equal to none but themselves. -/
theorem has_text {texts : List String} (h : post.values field = texts.map .text) {s : String} :
    post.Has field (.text s) ↔ s ∈ texts := by
  have hequal : ∀ t : String, post.equals (.text t) (.text s) = true ↔ t = s := by
    intro t
    rw [equals_iff, compare, Option.some.injEq]
    exact Std.compare_eq_iff_eq
  unfold Has
  rw [h]
  constructor
  · rintro ⟨x, hx, hequals⟩
    obtain ⟨t, ht, rfl⟩ := List.mem_map.mp hx
    exact (hequal t).mp hequals ▸ ht
  · intro hs
    exact ⟨.text s, List.mem_map.mpr ⟨s, hs, rfl⟩, (hequal s).mpr rfl⟩

theorem meets_term (hx : post.values (fieldPath field) = [x]) (value : Value) :
    post.truth.meets (.term field value) = true ↔ post.compare x value = some .eq := by
  show ((post.values (fieldPath field)).any fun x => post.equals x value) = true ↔ _
  rw [hx]
  simp [equals]

theorem meets_oneOf (hx : post.values (fieldPath field) = [x]) (values : List Value) :
    post.truth.meets (.oneOf field values) = true ↔
      ∃ value ∈ values, post.compare x value = some .eq := by
  show ((post.values (fieldPath field)).any fun x => values.any (post.equals x)) = true ↔ _
  rw [hx]
  simp [equals]

theorem meets_range (hx : post.values (fieldPath field) = [x]) {operation : String}
    {accepts : Ordering → Bool} (hoperation : comparison? operation = some accepts)
    (bound : Value) :
    post.truth.meets (.range field operation bound) = true ↔
      ∃ order, post.compare x bound = some order ∧ accepts order = true := by
  show (match comparison? operation with
    | some accepts => (post.values (fieldPath field)).any fun x => (post.compare x bound).any accepts
    | none => post.other (.range (fieldPath field) operation bound)) = true ↔ _
  rw [hoperation, hx]
  simp only [List.any_cons, List.any_nil, Bool.or_false]
  cases post.compare x bound <;> simp

end Post

end BoardSearch
