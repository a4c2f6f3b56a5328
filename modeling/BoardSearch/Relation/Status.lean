import BoardSearch.Relation.Contribution
import BoardSearch.Request.Basic

/-!
# Moderation status

Where a post is in its moderation, and whether deleted posts are shown. Only one
status is compiled: a positive one wins over a negated one. Deleted posts are
hidden unless a status is asked for, either way, that takes a stand on them.

## Main definitions

* `Status`: the words for a status;
* `Request.statusContribution`: the clauses for a status or its negation;
* `Request.hidesDeleted`: deleted posts are hidden;
* `Request.visibilityContribution`: the clause that hides them.
-/

namespace BoardSearch

/-- The words for a status. -/
inductive Status where
  | pending
  | flagged
  | modqueue
  | deleted
  | active
  | all
  | any
deriving DecidableEq

namespace Status

/-- A status as it is written. -/
def text : Status → String
  | pending => "pending"
  | flagged => "flagged"
  | modqueue => "modqueue"
  | deleted => "deleted"
  | active => "active"
  | all => "all"
  | any => "any"

/-- Every status. -/
def values : List Status := [pending, flagged, modqueue, deleted, active, all, any]

/-- The status that a value names. -/
def ofValue? (value : Value) : Option Status :=
  values.find? fun status => value.isText status.text

/-- A status that takes a stand on deleted posts. -/
def showsDeleted : Status → Bool
  | deleted | active | any | all => true
  | pending | flagged | modqueue => false

/-- The flag of a post has a value. -/
def flag (field : String) (value : Bool) : Query := .term field (.bool value)

/-- The post waits for a moderator. -/
def queued : List Query := [flag "pending" true, flag "flagged" true]

/-- What a status asks for. -/
def contribution : Status → Contribution
  | pending => .require [flag "pending" true]
  | flagged => .require [flag "flagged" true]
  | modqueue => .require [.atLeastOne queued]
  | deleted => .require [flag "deleted" true]
  | active => .require [flag "pending" false, flag "deleted" false, flag "flagged" false]
  | all | any => .none

/-- What a negated status asks for. A post that is not active is in one of the
inactive states. -/
def negatedContribution : Status → Contribution
  | pending => .exclude [flag "pending" true]
  | flagged => .exclude [flag "flagged" true]
  | modqueue => .exclude [.atLeastOne queued]
  | deleted => .exclude [flag "deleted" true]
  | active =>
    .require [.atLeastOne [flag "pending" true, flag "deleted" true, flag "flagged" true]]
  | all | any => .none

end Status

namespace Request

/-- The status that a metatag asks for. -/
def status? (request : Request) (name : String) : Option Status :=
  (request.scalar? name).bind Status.ofValue?

/-- The clauses for the status, or else for the negated one. -/
def statusContribution (request : Request) : Contribution :=
  match request.status? "status" with
  | some status => status.contribution
  | none => .ofOption (request.status? "status_neg") Status.negatedContribution

/-- A metatag asks for a status that takes a stand on deleted posts. Its value is
looked up, so it has to be a possible key. -/
def showsDeleted (request : Request) (name : String) : Except Failure Bool :=
  match request.scalar? name with
  | none => .ok false
  | some value =>
    if value.hashable then .ok (((Status.ofValue? value).map Status.showsDeleted).getD false)
    else .error .mistyped

/-- Deleted posts are left out of the results. -/
def hidesDeleted (request : Request) (adminMode : Bool) : Except Failure Bool := do
  if adminMode then return false
  if ← request.showsDeleted "status" then return false
  return !(← request.showsDeleted "status_neg")

/-- The clause that hides deleted posts. -/
def visibilityContribution (request : Request) (adminMode : Bool) : Contribution :=
  match request.hidesDeleted adminMode with
  | .error failure => .fail failure
  | .ok true => .require [Status.flag "deleted" false]
  | .ok false => .none

end Request

end BoardSearch
