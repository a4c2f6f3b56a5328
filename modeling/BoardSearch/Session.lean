import BoardSearch.Failure
import BoardSearch.Value.Same
import BoardSearch.Value.Written

/-!
# Sessions

What the compiler has to know about the person who searches. The fields are
values, since they come from wherever the person's settings are kept.

## Main definitions

* `Session`: the fields;
* `Session.ofFields`: a session with some fields set;
* `Session.timeout`: the time that a query may take, as the engine reads it;
* `Session.exceededBy`: a number of tags is more than the session allows;
* `Session.refusal`: how such a number is refused.
-/

namespace BoardSearch

/-- The person who searches. -/
structure Session where
  /-- Only safe posts are returned. -/
  safeMode : Value
  /-- Deleted posts are not hidden by default. -/
  adminMode : Value
  /-- The person's own timeout in milliseconds, if there is one. -/
  statementTimeout : Value
  /-- The most tags that a search may name. -/
  tagQueryLimit : Value
  /-- The timeout of a person without one. -/
  defaultStatementTimeout : Value

namespace Session

/-- An anonymous person, with the usual limits. -/
def anonymous : Session := ⟨.bool false, .bool false, .null, .int 40, .int 3000⟩

/-- A session with a field set. There are no other fields. -/
def set (session : Session) (field : String) (value : Value) : Except Failure Session :=
  match field with
  | "safe_mode" => .ok { session with safeMode := value }
  | "admin_mode" => .ok { session with adminMode := value }
  | "statement_timeout" => .ok { session with statementTimeout := value }
  | "tag_query_limit" => .ok { session with tagQueryLimit := value }
  | "default_statement_timeout" => .ok { session with defaultStatementTimeout := value }
  | _ => .error .mistyped

/-- A session with some fields set, the others being those of `base`. -/
def ofFields (base : Session) (fields : List (String × Value)) : Except Failure Session :=
  fields.foldlM (fun session field => session.set field.1 field.2) base

/-- The fields under their names. -/
def fields (session : Session) : List (String × Value) :=
  [("safe_mode", session.safeMode), ("admin_mode", session.adminMode),
    ("statement_timeout", session.statementTimeout), ("tag_query_limit", session.tagQueryLimit),
    ("default_statement_timeout", session.defaultStatementTimeout)]

/-- The person's own timeout, or else the usual one. -/
def milliseconds (session : Session) : Value :=
  match session.statementTimeout with
  | .null => session.defaultStatementTimeout
  | value => value

/-- The timeout in milliseconds, as the engine reads it. -/
def timeout (session : Session) : String := session.milliseconds.shown ++ "ms"

/-- So many tags are more than the session allows; only a number is a limit. -/
def exceededBy (session : Session) (count : Int) : Except Failure Bool :=
  match session.tagQueryLimit with
  | .bool limit => .ok (decide ((if limit then 1 else 0) < count))
  | .int limit => .ok (decide (limit < count))
  | .float limit => .ok (Binary64.compareInt? count limit == some .gt)
  | _ => .error .mistyped

/-- How a number of tags above the limit is refused: with both numbers, if they have few
enough digits to be written out. -/
def refusal (session : Session) (count : Int) : Failure :=
  if (Value.int count).hasText && session.tagQueryLimit.hasText then
    .tagLimit session.tagQueryLimit count
  else .numeral .unwritable

/-- The limit as a whole number, if it is one that can be written out. -/
def limitText? (session : Session) : Option String :=
  match session.tagQueryLimit with
  | .bool limit => some (if limit then "1" else "0")
  | .float limit => limit.trunc?.map toString
  | limit => if limit.hasText then some limit.shown else none

end Session

end BoardSearch
