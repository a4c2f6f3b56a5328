import BoardSearch.Proofs.Outcome
import BoardSearch.Proofs.Value.Document
import BoardSearch.Proofs.Value.Json
import BoardSearch.Request.Temporal

/-!
# Metatags with moments

The metatags that an object of a JSON text names stay sound when their bounds are read as
moments, and stay plain on the outside. Reading a bound fails in one way alone.

## Main definitions

* `Value.AreNamed`: the entries of a record whose values have a property;
* `Temporal.Reads`: reading comes to a good result, or says which time it cannot read.

## Main statements

* `Temporal.reads_withMoments`: sound metatags stay sound.
-/

namespace BoardSearch

/-! ## Entries of records -/

namespace Value

/-- The entries are those of a record without a name twice, and its values have the
property. -/
def AreNamed (P : Value → Prop) (entries : List (Value × Value)) : Prop :=
  ∃ named : List (String × Value), mapping entries = record named ∧ (named.map (·.1)).Nodup ∧
    ∀ entry ∈ named, P entry.2

variable {P : Value → Prop}

theorem text_beq (s t : String) : (text s == text t) = (s == t) := by
  show (some t == some s) = (s == t)
  rw [Option.some_beq_some, BEq.comm]

theorem find?_record (name : String) (named : List (String × Value)) :
    find? name (named.map fun entry => (text entry.1, entry.2)) = Keyed.find? name named := by
  unfold find?
  induction named with
  | nil => rfl
  | cons entry rest ih => rw [List.map_cons, Keyed.find?, Keyed.find?, ih, text_beq]

theorem put_record (name : String) (value : Value) (named : List (String × Value)) :
    Keyed.put (text name) value (named.map fun entry => (text entry.1, entry.2)) =
      (Keyed.put name value named).map fun entry => (text entry.1, entry.2) := by
  induction named with
  | nil => rfl
  | cons entry rest ih =>
    rw [List.map_cons, Keyed.put, Keyed.put, ih, text_beq]
    split <;> rfl

namespace AreNamed

variable {entries : List (Value × Value)} {name : String} {value : Value}

theorem of_find? (h : AreNamed P entries) (hfound : find? name entries = some value) :
    P value := by
  obtain ⟨named, heq, -, hvalues⟩ := h
  obtain rfl := Value.mapping.inj heq
  rw [find?_record] at hfound
  exact hvalues (name, value) (Keyed.mem_of_find? hfound)

theorem put (h : AreNamed P entries) (name : String) (hvalue : P value) :
    AreNamed P (Keyed.put (.text name) value entries) := by
  obtain ⟨named, heq, hnames, hvalues⟩ := h
  obtain rfl := Value.mapping.inj heq
  refine ⟨Keyed.put name value named, by rw [put_record]; rfl, Keyed.nodup_put name value hnames,
    fun entry hentry => ?_⟩
  obtain rfl | hentry := Keyed.mem_of_mem_put hentry
  · exact hvalue
  · exact hvalues entry hentry

theorem sound (h : AreNamed Sound entries) : (mapping entries).Sound := by
  obtain ⟨named, heq, hnames, hvalues⟩ := h
  rw [heq]
  exact .record hnames hvalues

end AreNamed

end Value

/-! ## Reading bounds -/

namespace Temporal

/-- Reading comes to a result with the property, or else a time cannot be read. -/
def Reads {α : Type} (good : α → Prop) (reading : Except Failure α) : Prop :=
  (∃ a, reading = .ok a ∧ good a) ∨ ∃ text, reading = .error (.unreadableTime text)

variable {α β : Type} {good : α → Prop} {good' : β → Prop}

theorem Reads.ok {a : α} (h : good a) : Reads good (.ok a) := .inl ⟨a, rfl, h⟩

theorem Reads.bind {reading : Except Failure α} {f : α → Except Failure β}
    (h : Reads good reading) (hnext : ∀ a, good a → Reads good' (f a)) :
    Reads good' (reading >>= f) := by
  obtain ⟨a, rfl, ha⟩ | ⟨text, rfl⟩ := h
  · exact hnext a ha
  · exact .inr ⟨text, rfl⟩

/-- What one step preserves a row of steps preserves. -/
theorem Reads.foldlM {f : α → β → Except Failure α} (hstep : ∀ a b, good a → Reads good (f a b))
    (steps : List β) {a : α} (h : good a) : Reads good (steps.foldlM f a) := by
  induction steps generalizing a with
  | nil => exact .ok h
  | cons b rest ih =>
    rw [List.foldlM_cons]
    exact (hstep a b h).bind fun a' ha' => ih ha'

theorem reads_readBound {condition : List (Value × Value)} (bound : String)
    (h : Value.AreNamed Value.Sound condition) :
    Reads (Value.AreNamed Value.Sound) (readBound condition bound) := by
  unfold readBound
  split
  · rename_i text _
    have hmoment : Reads (fun _ => True) (readMoment text) := by
      unfold readMoment
      cases Layout.readTime? text with
      | none => exact .inr ⟨text, rfl⟩
      | some moment => exact .ok trivial
    exact hmoment.bind fun moment _ => .ok (h.put bound (.moment moment))
  · exact .ok h

/-- A value of a search before it is compiled: it is sound, and plain on the outside. -/
def IsMetatag (value : Value) : Prop := value.Sound ∧ value.isPlain = true

theorem reads_readMetatag {entries : List (Value × Value)} (name : String)
    (h : Value.AreNamed IsMetatag entries) :
    Reads (Value.AreNamed IsMetatag) (readMetatag entries name) := by
  unfold readMetatag
  split
  · rename_i condition hfound
    have hcondition : Value.AreNamed Value.Sound condition :=
      Value.exists_record_of_sound (h.of_find? hfound).1
    have hread : Reads (Value.AreNamed Value.Sound) (readCondition condition) :=
      Reads.foldlM (fun _ bound => reads_readBound bound) bounds hcondition
    exact hread.bind fun condition' hcondition' => .ok (h.put name ⟨hcondition'.sound, rfl⟩)
  · exact .ok h

/-- Sound metatags stay sound when their bounds are read, and what a time cannot be read for
is the time itself. -/
theorem reads_withMoments {entries : List (Value × Value)}
    (h : Value.AreNamed IsMetatag entries) :
    Reads (Value.AreNamed IsMetatag) (withMoments entries) :=
  Reads.foldlM (fun _ name => reads_readMetatag name) metatags h

end Temporal

end BoardSearch
