import BoardSearch.Request.Basic

/-!
# Reading requests

A request is read from a mapping. On the way every tuple and mapping that spells
a range condition, and every mapping that spells a tag grouping, is turned into
what it spells; all other values stay as they are.

## Main definitions

* `RangeCondition.ofTuple?`: the condition that a tuple spells;
* `TagGrouping.ofEntries`: the grouping that the entries of a mapping spell;
* `Request.readMetatag`: the value a metatag is read as;
* `Request.ofValue`: the request that a value spells.

## Design notes

Any value may stand where an operator is looked for. A list or a mapping is none: it is taken that
to ask whether such a value is among the operators has the answer no, as documented, and does not
fail as it did in some early releases of version 3.12.
-/

namespace BoardSearch

namespace RangeCondition

/-- The condition with these operator and bounds. -/
def make (operator bound upper : Value) : Except Failure RangeCondition :=
  match operator.asOperator? with
  | some op => .ok ⟨op, bound, upper⟩
  | none => .error (.noMember operator.quoted .rangeOperator)

/-- The condition that up to three arguments make. -/
def ofArguments : List Value → Except Failure RangeCondition
  | [operator] => make operator .null .null
  | [operator, bound] => make operator bound .null
  | [operator, bound, upper] => make operator bound upper
  | _ => .error .mistyped

/-- The condition that a tuple spells: an operator, a bound and an upper bound,
of which the last two may be missing. What follows them is ignored. -/
def ofTuple? : List Value → Option RangeCondition
  | [] => none
  | operator :: bounds =>
    operator.asOperator?.map fun op =>
      ⟨op, bounds.head?.getD .null, (bounds.drop 1).head?.getD .null⟩

/-- The condition that the entries of a mapping spell, if they name an operator. -/
def ofEntries? (entries : List (Value × Value)) : Option RangeCondition := do
  let op ← (← Value.find? "operator" entries).asOperator?
  return ⟨op, (Value.find? "value" entries).getD .null,
    (Value.find? "value2" entries).getD .null⟩

end RangeCondition

namespace TagGrouping

/-- The names of the three groups. -/
def groupNames : List String := ["include", "exclude", "related"]

/-- The tags of a group. A value that counts as false stands for none. -/
def group (value : Value) : Except Failure (List Value) :=
  if value.truthy then
    match value.items? with
    | some items => .ok items
    | none => .error .mistyped
  else .ok []

/-- The tags of a group among the entries of a mapping. -/
def groupOf (name : String) (entries : List (Value × Value)) : Except Failure (List Value) :=
  group ((Value.find? name entries).getD .null)

/-- The grouping that the entries of a mapping spell. Other keys are ignored. -/
def ofEntries (entries : List (Value × Value)) : Except Failure TagGrouping := do
  return ⟨← groupOf "include" entries, ← groupOf "exclude" entries, ← groupOf "related" entries⟩

/-- A key is the name of a group. -/
def isGroupName (key : Value) : Bool := groupNames.any fun name => key.isText name

/-- The entries spell a grouping: there are some, and all are under the name of a group. -/
def spelledBy (entries : List (Value × Value)) : Bool :=
  !entries.isEmpty && entries.all fun entry => isGroupName entry.1

/-- The grouping that a mapping spells. -/
def ofValue : Value → Except Failure TagGrouping
  | .mapping entries => ofEntries entries
  | _ => .error .noMapping

end TagGrouping

namespace Request

/-- The value that a metatag is read as. -/
def readMetatag (value : Value) : Except Failure Value :=
  match value with
  | .tuple items => .ok (((RangeCondition.ofTuple? items).map (·.toValue)).getD value)
  | .mapping entries =>
    match RangeCondition.ofEntries? entries with
    | some condition => .ok condition.toValue
    | none =>
      if TagGrouping.spelledBy entries then (TagGrouping.ofEntries entries).map (·.toValue)
      else .ok value
  | _ => .ok value

/-- The request that the entries of a mapping spell. A key becomes the text it is
shown with, and of entries that thereby get the same name the last one counts. -/
def ofEntries (entries : List (Value × Value)) : Except Failure Request := do
  let metatags ← entries.mapM fun (key, value) => return (← key.written, ← readMetatag value)
  return ⟨Keyed.ofEntries metatags⟩

/-- The request that a value spells: a mapping, or a request already read. -/
def ofValue : Value → Except Failure Request
  | .mapping entries => ofEntries entries
  | .request metatags => .ok ⟨metatags⟩
  | _ => .error .noMapping

end Request

end BoardSearch
