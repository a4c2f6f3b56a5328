import BoardSearch.Session
import BoardSearch.Settings.Loading

/-!
# Settings of the compiler

How many tags a search may name, and how long a query may take for a person
without a timeout.

## Main definitions

* `Settings.querySchema`: the settings;
* `Settings.QuerySettings.load`: their values;
* `Session.ofSettings`: an anonymous person under these settings.
-/

namespace BoardSearch

namespace Settings

/-- The settings of the compiler. -/
def querySchema : Schema where
  stem := "POSTSEARCH_QUERY_"
  fields := [
    ⟨"tag_query_limit", none, .single .positive, some (.int 40)⟩,
    ⟨"default_statement_timeout", none, .single .positive, some (.int 3000)⟩]
  rule := fun _ => none

/-- The values of the settings of the compiler. -/
structure QuerySettings where
  /-- The most tags that a search may name. -/
  tagQueryLimit : Value
  /-- The milliseconds that a query may take. -/
  defaultStatementTimeout : Value

namespace QuerySettings

/-- The values among loaded ones. -/
def ofValues (values : List (String × Value)) : QuerySettings :=
  let value := fun name => (Keyed.find? name values).getD .null
  ⟨value "tag_query_limit", value "default_statement_timeout"⟩

/-- The values that the sources give. -/
def load (sources : Sources) : Except Failure QuerySettings :=
  (Settings.load querySchema sources).map ofValues

end QuerySettings

end Settings

/-- An anonymous person under settings of the compiler. -/
def Session.ofSettings (settings : Settings.QuerySettings) : Session :=
  { Session.anonymous with
    tagQueryLimit := settings.tagQueryLimit
    defaultStatementTimeout := settings.defaultStatementTimeout }

end BoardSearch
