import BoardSearch.Calendar.Layout.Search
import BoardSearch.Calendar.Timestamp
import BoardSearch.Json.Reader
import BoardSearch.Template.Fault
import BoardSearch.Value.Shown

/-!
# Failures

The ways in which reading, compiling and printing a search can fail. A failure
is a cause; its kind and its message follow from it.

## Main definitions

* `Failure`: the causes;
* `Failure.kind`: the name of the kind of failure, which logs and messages give;
* `Failure.message?`: what there is to say about the cause, if anything.
-/

namespace BoardSearch

/-- What a word can fail to be a member of. -/
inductive WordFamily where
  | rangeOperator
  | sortDirection
  | missingValues
  | logLevel
deriving DecidableEq

/-- The name of a family of words. -/
def WordFamily.name : WordFamily → String
  | rangeOperator => "RangeOperator"
  | sortDirection => "SortDirection"
  | missingValues => "MissingValues"
  | logLevel => "LogLevel"

/-- Where the variables of settings come from. -/
inductive Failure.SettingsSource where
  | environment
  | file
deriving DecidableEq

/-- The name of a source of settings. -/
def Failure.SettingsSource.name : Failure.SettingsSource → String
  | environment => "EnvSettingsSource"
  | file => "DotEnvSettingsSource"

/-- The families of kinds that a search can name. -/
inductive Failure.ClauseFamily where
  | query
  | scoreFunction
  | aggregation
deriving DecidableEq

/-- The name of a family of kinds. -/
def Failure.ClauseFamily.name : Failure.ClauseFamily → String
  | query => "query"
  | scoreFunction => "score_function"
  | aggregation => "agg"

/-- What an operation can run out of. -/
inductive Failure.Resource where
  /-- The depth to which calls can be nested. -/
  | depth
  | memory
deriving DecidableEq

/-- The kind of failure that running out of something is. -/
def Failure.Resource.kind : Failure.Resource → String
  | depth => "RecursionError"
  | memory => "MemoryError"

/-- The causes of failures. -/
inductive Failure where
  /-- A value has a form that the operation cannot work on. -/
  | mistyped
  /-- A value is asked for entries and is no mapping. -/
  | noMapping
  /-- A moment is outside of the calendar. -/
  | beyondCalendar
  /-- An indentation has more spaces than a text can hold. -/
  | wideIndentation
  /-- Bytes are no UTF-8 text. -/
  | undecodable
  /-- A value has no JSON form. -/
  | unserializable
  /-- A part of a request is to be changed. -/
  | frozen
  /-- A setting is to be changed. -/
  | frozenSetting
  /-- A shown value is no member of a family of words. -/
  | noMember (shown : String) (family : WordFamily)
  | numeral (reason : Text.NumeralError)
  | layout (reason : Layout.LayoutError)
  | timestamp (reason : TimestampError)
  /-- The arguments of a message do not fit its template. -/
  | template (fault : Template.Fault)
  /-- A number without a JSON form; it is named where lines are broken. -/
  | nonFinite (named : Option String)
  /-- A time is no number or not finite, so that it is in no second. -/
  | noFraction
  /-- More tags than the session allows. -/
  | tagLimit (limit : Value) (count : Int)
  /-- A query is a text, and there is nothing to split it into metatags. -/
  | noTokenizer
  /-- No layout reads a time. -/
  | unreadableTime (text : String)
  /-- A search is no JSON text. -/
  | unreadableSearch (reason : Json.ReadError)
  /-- A search is a JSON text of something else than an object. -/
  | noObject
  /-- A search names a kind that its family does not have. -/
  | unknownKind (kind : String) (family : Failure.ClauseFamily)
  /-- A mapping of a base search, shown, does not spell a single query. -/
  | noSingleQuery (shown : String)
  /-- A mapping of a base search, shown, has more than one function that scores. -/
  | surplusFunctions (shown : String)
  /-- A mapping of a base search, shown, does not spell a single aggregation. -/
  | noSingleAggregation (shown : String)
  /-- A part of a base search lacks an entry. -/
  | missingEntry (name : String)
  /-- Settings could not be loaded. -/
  | settings (report : String)
  /-- A variable for a group of settings is no JSON text. -/
  | unreadableGroup (setting : String) (source : Failure.SettingsSource)
  /-- What is to be timed has no log of its own. -/
  | noLogger
  /-- Something that was called failed on its own account, with a failure of the named kind. -/
  | raised (kind : String) (reason : Option String)
  /-- Something that was called was broken off from outside, by an interruption of the named
  kind. -/
  | interrupted (kind : String)
  /-- An operation ran out of something. -/
  | exhausted (resource : Failure.Resource)

namespace Failure

/-- The kind of a refused timestamp. -/
def timestampKind : TimestampError → String
  | .notANumber | .noSuchYear _ => "ValueError"
  | .beyondSeconds => "OverflowError"
  | .beyondYears => "OSError"

/-- What there is to say about a refused timestamp. -/
def timestampMessage? : TimestampError → Option String
  | .notANumber => some "Invalid value NaN (not a number)"
  | .noSuchYear year => some ("year " ++ toString year ++ " is out of range")
  | .beyondSeconds => none
  | .beyondYears => some "[Errno 75] Value too large for defined data type"

/-- The kind of a text that denotes no moment. -/
def layoutKind : Layout.LayoutError → String
  | .repeated _ _ _ _ => "error"
  | _ => "ValueError"

/-- The kind of a failure. -/
def kind : Failure → String
  | mistyped => "TypeError"
  | noMapping => "AttributeError"
  | beyondCalendar | wideIndentation => "OverflowError"
  | undecodable => "UnicodeDecodeError"
  | unserializable => "PydanticSerializationError"
  | frozen => "FrozenInstanceError"
  | frozenSetting => "ValidationError"
  | noMember _ _ | numeral _ | nonFinite _ | noFraction | noSingleQuery _ | surplusFunctions _
  | noSingleAggregation _ => "ValueError"
  | unknownKind _ _ => "UnknownDslObject"
  | missingEntry _ => "KeyError"
  | layout reason => layoutKind reason
  | timestamp reason => timestampKind reason
  | template fault => fault.kind
  | tagLimit _ _ => "TagQueryLimitExceeded"
  | noTokenizer | unreadableTime _ | unreadableSearch _ | noObject => "PostSearchValueError"
  | settings _ => "CannotLoadConfiguration"
  | unreadableGroup _ _ => "SettingsError"
  | noLogger => "RuntimeError"
  | raised kind _ | interrupted kind => kind
  | exhausted resource => resource.kind

/-- The message for a search that names too many tags. -/
def tagLimitMessage (limit : Value) : String :=
  "You cannot search for more than " ++ limit.shown ++ " tags at a time"

/-- What there is to say about a failure. -/
def message? : Failure → Option String
  | mistyped | noMapping | beyondCalendar | wideIndentation | undecodable | unserializable | frozen
  | frozenSetting | interrupted _ | exhausted _ => none
  | noMember shown family => some (shown ++ " is not a valid " ++ family.name)
  | numeral reason => some reason.message
  | layout reason => some reason.message
  | timestamp reason => timestampMessage? reason
  | template fault => fault.report?
  | nonFinite named =>
    let named := (named.map (": " ++ ·)).getD ""
    some ("Out of range float values are not JSON compliant" ++ named)
  | noFraction => some "cannot convert float NaN to integer"
  | tagLimit limit _ => some (tagLimitMessage limit)
  | noTokenizer => some "A query string can't be compiled without a tokenizer."
  | unreadableTime text => some ("Could not parse time: " ++ text)
  | unreadableSearch reason => some ("The search is not valid JSON: " ++ reason.message)
  | noObject => some "The search must be a JSON object of metatags."
  | unknownKind kind family =>
    some ("DSL class \x60" ++ kind ++ "\x60 does not exist in " ++ family.name ++ ".")
  | noSingleQuery shown =>
    some ("Q() can only accept dict with a single query (\x7b\"match\": \x7b...\x7d\x7d). "
      ++ "Instead it got (" ++ shown ++ ")")
  | surplusFunctions shown =>
    some ("SF() got an unexpected fields in the dictionary: " ++ shown)
  | noSingleAggregation shown =>
    some ("A() can only accept dict with an aggregation (\x7b\"terms\": \x7b...\x7d\x7d). "
      ++ "Instead it got (" ++ shown ++ ")")
  | missingEntry name => some (Text.quoted name)
  | settings report => some report
  | unreadableGroup setting source =>
    some ("error parsing value for field \"" ++ setting ++ "\" from source \"" ++ source.name
      ++ "\"")
  | noLogger => some "log_elapsed_time can only decorate methods of a LoggerMixin."
  | raised _ reason => reason

end Failure

end BoardSearch
