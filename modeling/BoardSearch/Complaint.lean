import BoardSearch.Failure
import BoardSearch.Value.Same

/-!
# Complaints

The form in which a failure is handed to a caller: a kind with the broader kinds
that it belongs to, and a message. The complaint about too many tags also carries
the two numbers that it compares.

## Main definitions

* `Complaint.Kind`: the kinds, and `Complaint.Kind.lineage`: what they belong to;
* `Complaint.ofArguments`: a complaint from its kind and arguments;
* `Complaint.save`, `Complaint.restore`: the form in which it is stored;
* `Complaint.raisedText`: a kind and its arguments on one line.
-/

namespace BoardSearch

/-- A kind of complaint. -/
inductive Complaint.Kind where
  /-- Any complaint. -/
  | general
  /-- A value cannot be used. -/
  | badValue
  /-- Settings cannot be loaded. -/
  | settings
  /-- A search was understood and cannot be run. -/
  | search
  /-- A search names too many tags. -/
  | tagLimit
deriving DecidableEq

/-- A complaint. -/
structure Complaint where
  kind : Complaint.Kind
  message : Value
  /-- The greatest number of tags, where it was exceeded. -/
  limit : Value
  /-- The number of tags, where there are too many. -/
  tagCount : Value

namespace Complaint

namespace Kind

/-- The name of a kind. -/
def name : Kind → String
  | general => "BasePostSearchException"
  | badValue => "PostSearchValueError"
  | settings => "CannotLoadConfiguration"
  | search => "PostSearchError"
  | tagLimit => "TagQueryLimitExceeded"

/-- The name of a kind with its path. -/
def path (kind : Kind) : String := "postsearch.core.exceptions." ++ kind.name

/-- What everything that is raised belongs to. -/
def roots : List String := ["Exception", "BaseException", "object"]

/-- A kind with the kinds that it belongs to, the narrowest first. -/
def lineage : Kind → List String
  | general => general.name :: roots
  | badValue => badValue.name :: general.name :: "ValueError" :: roots
  | settings => settings.name :: general.name :: roots
  | search => search.name :: general.name :: roots
  | tagLimit => tagLimit.name :: search.name :: general.name :: roots

/-- Every kind. -/
def all : List Kind := [general, badValue, settings, search, tagLimit]

/-- The kind of a name. -/
def ofName? (word : String) : Option Kind := all.find? fun kind => kind.name == word

end Kind

/-- A complaint from its arguments: the limit and the number of tags, or at most a message. -/
def ofArguments (kind : Kind) (arguments : List Value) : Except Failure Complaint :=
  match kind, arguments with
  | .tagLimit, [limit, count] =>
    .ok ⟨kind, .text (Failure.tagLimitMessage limit), limit, count⟩
  | .tagLimit, _ => .error .mistyped
  | _, [] => .ok ⟨kind, .null, .null, .null⟩
  | _, [message] => .ok ⟨kind, message, .null, .null⟩
  | _, _ => .error .mistyped

/-- The text of a complaint. -/
def text (complaint : Complaint) : String := complaint.message.shown

/-- The form in which a complaint is stored: the name of its kind, and its parts. -/
def save (complaint : Complaint) : String × List (String × Value) :=
  (complaint.kind.name, [("message", complaint.message), ("limit", complaint.limit),
    ("tag_count", complaint.tagCount)])

/-- The complaint of a stored form. -/
def restore (stored : String × List (String × Value)) : Option Complaint := do
  let kind ← Kind.ofName? stored.1
  let part := fun name => Keyed.find? name stored.2
  return ⟨kind, ← part "message", ← part "limit", ← part "tag_count"⟩

/-- The kind of a name is the one with that name. -/
theorem Kind.ofName?_name (kind : Kind) : ofName? kind.name = some kind := by
  cases kind <;> decide

/-- What was stored comes back. -/
theorem restore_save (complaint : Complaint) : restore complaint.save = some complaint := by
  simp [save, restore, Kind.ofName?_name, Keyed.find?]

/-- Two complaints are alike. -/
def same (a b : Complaint) : Bool :=
  a.kind == b.kind && a.message == b.message && a.limit == b.limit && a.tagCount == b.tagCount

/-- The text of arguments that something was raised with. A key that was not found is quoted. -/
def argumentText (kind : String) : List Value → String
  | [] => ""
  | [value] => if kind == "KeyError" then value.quoted else value.shown
  | values => (Value.tuple values).quoted

/-- What was raised, on one line: the name of its kind, and its text if it has any. -/
def raisedText (kind : String) (arguments : List Value) : Except Failure String := do
  let (name, text) ← match Kind.ofName? kind with
    | some own => do
      let complaint ← ofArguments own arguments
      pure (own.path, complaint.text)
    | none => pure (kind, argumentText kind arguments)
  return if text = "" then name else name ++ ": " ++ text

end Complaint

end BoardSearch
