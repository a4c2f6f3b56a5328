import BoardSearch.Proofs.Breaking
import BoardSearch.Proofs.Request.Reading
import BoardSearch.Proofs.Value.Json

/-!
# Requests that cannot be read

A mapping can be read unless one of its values is a grouping of tags in which a group is
no collection. A metatag that is to be an integer breaks where the text begins with a
numeral that is refused.

## Main definitions

* `TagGrouping.Misspelled`: entries that spell a grouping with a group that is none;
* `Request.Plain`: the scalars of a request are truth values, numbers and texts;
* `Request.RefusesNumeral`: a scalar begins with a numeral that is refused.

## Main statements

* `Request.failsIff_ofValue`: what makes the reading of a mapping fail;
* `Request.plain_of_isPlain`: a mapping of plain values is read as a plain request;
* `Request.failsIff_integer`: what makes the reading of an integer fail.
-/

namespace BoardSearch

namespace TagGrouping

/-- The entries spell a grouping of tags, and one of the groups counts as true and has no
items: it is the truth value or a number. -/
def Misspelled (entries : List (Value × Value)) : Prop :=
  spelledBy entries = true ∧ ∃ name ∈ groupNames, ∃ value,
    Value.find? name entries = some value ∧ value.truthy = true ∧ value.items? = none

theorem failsIff_group (value : Value) :
    FailsIff (group value) (value.truthy = true ∧ value.items? = none) := by
  unfold group
  cases htruthy : value.truthy with
  | false => exact (FailsIff.ok []).congr (by simp)
  | true =>
    cases hitems : value.items? with
    | none => exact (FailsIff.error (by simp)).congr (by simp)
    | some items => exact (FailsIff.ok items).congr (by simp)

theorem failsIff_groupOf (name : String) (entries : List (Value × Value)) :
    FailsIff (groupOf name entries) (∃ value, Value.find? name entries = some value ∧
      value.truthy = true ∧ value.items? = none) := by
  unfold groupOf
  refine (failsIff_group _).congr ?_
  cases Value.find? name entries with
  | none => simp [Value.truthy]
  | some value => simp

theorem failsIff_ofEntries (entries : List (Value × Value)) :
    FailsIff (ofEntries entries) (∃ name ∈ groupNames, ∃ value,
      Value.find? name entries = some value ∧ value.truthy = true ∧ value.items? = none) := by
  unfold ofEntries
  refine ((failsIff_groupOf "include" entries).bind fun _ _ =>
    (failsIff_groupOf "exclude" entries).bind fun _ _ =>
      (failsIff_groupOf "related" entries).bind fun _ _ => .ok _).congr ?_
  simp [groupNames]

end TagGrouping

/-- A value that is a text, or the operator for it, is equal to that text alone. -/
theorem Value.beq_text_of_asText? {key : Value} {s : String} (h : key.asText? = some s)
    (word : String) : (key == .text word) = (word == s) := by
  cases key with
  | text t =>
    obtain rfl : t = s := Option.some.inj h
    show (some word == some t) = (word == t)
    rw [Option.some_beq_some]
  | operator op =>
    obtain rfl : op.text = s := Option.some.inj h
    show (some word == some op.text) = (word == op.text)
    rw [Option.some_beq_some]
  | _ => simp [asText?] at h

namespace TagGrouping

/-- The name of a group is equal to no other text. -/
theorem beq_text_of_isGroupName {key : Value} (h : isGroupName key = true) {word : String}
    (hword : word ∉ groupNames) : (key == .text word) = false := by
  obtain ⟨name, hname, htext⟩ := List.any_eq_true.mp h
  have hkey : key.asText? = some name := by simpa [Value.isText] using htext
  rw [Value.beq_text_of_asText? hkey]
  exact beq_eq_false_iff_ne.mpr fun heq => hword (heq ▸ hname)

/-- Entries that spell a grouping have nothing under other names. -/
theorem find?_of_spelledBy {entries : List (Value × Value)} (h : spelledBy entries = true)
    {word : String} (hword : word ∉ groupNames) : Value.find? word entries = none := by
  -- of the spelling only the names matter, which the rest of the entries share
  have hnames : ∀ entry ∈ entries, isGroupName entry.1 = true := by
    unfold spelledBy at h
    exact List.all_eq_true.mp (Bool.and_eq_true_iff.mp h).2
  clear h
  unfold Value.find?
  induction entries with
  | nil => rfl
  | cons entry rest ih =>
    obtain ⟨hentry, hrest⟩ := List.forall_mem_cons.mp hnames
    unfold Keyed.find?
    rw [beq_text_of_isGroupName hentry hword]
    exact ih hrest

/-- Entries that spell a grouping name no operator, so they spell no range condition. -/
theorem ofEntries?_of_spelledBy {entries : List (Value × Value)}
    (h : spelledBy entries = true) : RangeCondition.ofEntries? entries = none := by
  have hoperator : Value.find? "operator" entries = none := find?_of_spelledBy h (by decide)
  simp [RangeCondition.ofEntries?, hoperator]

end TagGrouping

namespace Request

/-- The reading of a value fails where it is a misspelled grouping of tags. -/
theorem failsIff_readMetatag (value : Value) :
    FailsIff (readMetatag value)
      (∃ entries, value = .mapping entries ∧ TagGrouping.Misspelled entries) := by
  cases value with
  | mapping entries =>
    unfold readMetatag
    cases hspelled : TagGrouping.spelledBy entries with
    | false =>
      have hnot : ¬ ∃ entries', Value.mapping entries = .mapping entries' ∧
          TagGrouping.Misspelled entries' := by
        rintro ⟨_, heq, hmisspelled, _⟩
        obtain rfl := Value.mapping.inj heq
        exact Bool.false_ne_true (hspelled.symm.trans hmisspelled)
      cases hcondition : RangeCondition.ofEntries? entries with
      | some condition =>
        simp only [hcondition]
        exact (FailsIff.ok _).congr (iff_of_false id hnot)
      | none =>
        simp only [hcondition, hspelled, Bool.false_eq_true, if_false]
        exact (FailsIff.ok _).congr (iff_of_false id hnot)
    | true =>
      simp only [TagGrouping.ofEntries?_of_spelledBy hspelled, hspelled, if_true]
      refine ((TagGrouping.failsIff_ofEntries entries).map _).congr ?_
      simp [TagGrouping.Misspelled, hspelled]
  | _ => exact (FailsIff.ok _).congr (by simp)

/-- The reading of a mapping fails where one of its values is a misspelled grouping. -/
theorem failsIff_ofValue (entries : List (String × Value)) :
    FailsIff (ofValue (.record entries)) (∃ entry ∈ entries, ∃ groups,
      entry.2 = .mapping groups ∧ TagGrouping.Misspelled groups) := by
  rw [ofValue_record]
  have hfield : ∀ entry : String × Value, FailsIff (readField entry) (∃ groups,
      entry.2 = .mapping groups ∧ TagGrouping.Misspelled groups) := by
    intro entry
    exact (failsIff_readMetatag entry.2).map _
  exact (FailsIff.mapM hfield).map _

/-! ## Plain requests -/

/-- Every scalar of the request is a truth value, a number or a text. -/
def Plain (request : Request) : Prop :=
  ∀ name value, request.scalar? name = some value → value.isAtom = true

/-- A plain value is read as something that is an atom if it is a scalar at all. -/
theorem isAtom_of_readMetatag {value metatag scalar : Value} (hplain : value.isPlain = true)
    (hread : readMetatag value = .ok metatag) (hscalar : scalarOf? metatag = some scalar) :
    scalar.isAtom = true := by
  obtain rfl | ⟨condition, rfl⟩ | ⟨grouping, rfl⟩ := readMetatag_cases hread
  · -- a plain value that is a scalar has no parts
    rw [← scalarOf?_eq_some hscalar]
    cases metatag with
    | bool | int | float | text => rfl
    | null | list | tuple | mapping => simp [scalarOf?] at hscalar
    | _ => simp [Value.isPlain] at hplain
  · simp [RangeCondition.toValue, scalarOf?] at hscalar
  · simp [TagGrouping.toValue, scalarOf?] at hscalar

/-- A mapping of plain values is read as a plain request. -/
theorem plain_of_isPlain {entries : List (String × Value)} {request : Request}
    (hplain : ∀ entry ∈ entries, entry.2.isPlain = true)
    (hread : ofValue (.record entries) = .ok request) : request.Plain := by
  intro name value hvalue
  obtain ⟨metatag, hmetatag, hscalar⟩ := Option.bind_eq_some_iff.mp hvalue
  obtain ⟨entry, hentry, hmetatagRead⟩ := exists_of_mem_read hread (Keyed.mem_of_find? hmetatag)
  exact isAtom_of_readMetatag (hplain entry hentry) hmetatagRead hscalar

end Request

/-! ## Integers -/

namespace Text.Numeral

/-- The numeral has an information separator for a blank, or it has too many digits. -/
def Refused (numeral : Numeral) : Prop :=
  numeral.written.any isSeparator = true ∨ maxDigits < numeral.digits.length

/-- A numeral stands for an integer unless it is refused. -/
theorem failsIff_toInt (numeral : Numeral) :
    FailsIff ((numeral.toInt.map some).mapError Failure.numeral) numeral.Refused := by
  unfold toInt Refused
  split
  · rename_i hseparator
    exact (FailsIff.error (by simp)).congr (iff_of_true trivial (.inl hseparator))
  · rename_i hseparator
    split
    · rename_i hlong
      exact (FailsIff.error (by simp)).congr (iff_of_true trivial (.inr hlong))
    · rename_i hlong
      refine (FailsIff.ok _).congr (iff_of_false id ?_)
      rintro (hseparated | hdigits)
      · exact hseparator hseparated
      · exact hlong hdigits

end Text.Numeral

namespace Request

/-- The scalar under a name is no number, and it begins with a numeral that is refused. -/
def RefusesNumeral (request : Request) (name : String) : Prop :=
  ∃ value numeral, request.scalar? name = some value ∧ value.asInt? = none ∧
    Text.Numeral.ofPrefix? value.shown.toList = some numeral ∧ numeral.Refused

/-- What makes the reading of an integer from a value without parts fail. -/
theorem failsIff_integerOf? {value : Value} (hatom : value.isAtom = true) :
    FailsIff (integerOf? value) (value.asInt? = none ∧ ∃ numeral,
      Text.Numeral.ofPrefix? value.shown.toList = some numeral ∧ numeral.Refused) := by
  by_cases hint : value.asInt? = none
  · -- what is no integer is a float or a text, and both can be written out
    have hwritten : value.written = .ok value.shown := by
      cases value <;> simp_all [Value.asInt?, Value.isAtom, Value.written, Value.hasText]
    unfold integerOf?
    split
    · simp [Value.asInt?] at hint
    · simp [Value.asInt?] at hint
    · simp only [hwritten, hint, bind, Except.bind, true_and]
      cases Text.Numeral.ofPrefix? value.shown.toList with
      | none => exact (FailsIff.ok _).congr (by simp)
      | some numeral => exact numeral.failsIff_toInt.congr (by simp)
  · cases value with
    | bool | int => exact (FailsIff.ok _).congr (by simp [Value.asInt?])
    | _ => simp [Value.asInt?] at hint

theorem failsIff_integer {request : Request} (hplain : request.Plain) (name : String)
    (default : Int) : FailsIff (request.integer name default) (request.RefusesNumeral name) := by
  unfold integer integer?
  refine FailsIff.map ?_ _
  unfold RefusesNumeral
  cases hscalar : request.scalar? name with
  | none => exact (FailsIff.ok _).congr (by simp)
  | some value =>
    refine (failsIff_integerOf? (hplain name value hscalar)).congr ?_
    simp

end Request

end BoardSearch
