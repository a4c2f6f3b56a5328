import BoardSearch.Json.Document
import BoardSearch.Log.Record
import BoardSearch.Value.Timestamp

/-!
# Log lines

A record is written as a JSON object on one line, or as a plain line.

## Main definitions

* `Log.Format`: the two forms;
* `Log.Record.jsonLine`, `Log.Record.plainLine`: a record in either form;
* `Log.Format.line`: a record in a given form.
-/

namespace BoardSearch.Log

/-- The form of log lines. -/
inductive Format where
  | json
  | plain
deriving DecidableEq

/-- The name of a form. -/
def Format.name : Format → String
  | json => "JSONFormatter"
  | plain => "Formatter"

namespace Record

/-- The thread whose records do not name their thread. -/
def mainThread : Value := .int 1

/-- The last part of a path. -/
def fileName (path : String) : String :=
  String.ofList (path.toList.reverse.takeWhile (· != '/')).reverse

/-- A member that is left out where the value counts as false. -/
def member (name : String) (value : Value) : List (String × Value) :=
  if value.truthy then [(name, value)] else []

/-- The members of a record with its message and its time, and the name of the host that it is
written on. -/
def entries (host : String) (record : Record) (message : Value) (moment : Moment) :
    List (String × Value) :=
  let raised := (record.raised.map fun text => ("traceback", Value.text text)).toList
  let thread := if record.thread == mainThread then [] else member "thread" record.thread
  [("host", .text host), ("name", .text record.name), ("level", .text record.level),
    ("filename", .text (fileName record.path)), ("message", message),
    ("timestamp", .text (moment.textWith 'T'))] ++ raised ++ member "process" record.process
    ++ thread ++ member "stack" record.stack

/-- A record as an object. -/
def toValue (host : String) (record : Record) : Except Failure Value := do
  let message ← record.messageValue
  let moment ← Moment.ofTimestamp record.created
  return .record (record.entries host message moment)

/-- A record as a JSON line. -/
def jsonLine (host : String) (record : Record) : Except Failure String := do
  (← record.toValue host).serialize .standard

/-- The seconds of a timestamp, rounded down. -/
def wholeSeconds (created : Value) : Except Failure Int :=
  match created.asInt?, created with
  | some n, _ => .ok n
  | none, .float x =>
    match x.value? with
    | some (num, den) => .ok (num.fdiv den)
    | none => .error (.timestamp (if x = .nan then .notANumber else .beyondSeconds))
  | none, _ => .error .mistyped

/-- When a record was written, as a plain line begins. -/
def plainTime (record : Record) : Except Failure String := do
  let seconds ← wholeSeconds record.created
  let chars ← ((⟨seconds, 0⟩ : Timestamp).longChars).mapError .timestamp
  return String.ofList (chars ++ ',' :: Date.padded 3 record.milliseconds)

/-- A text with another one on the next line. -/
def onNextLine (text next : String) : String :=
  (if text.toList.getLast? = some '\n' then text else text ++ "\n") ++ next

/-- A record as a plain line, with what was raised and the calls on further lines. -/
def plainLine (record : Record) : Except Failure String := do
  let message ← record.messageText
  let time ← record.plainTime
  let line := time ++ " " ++ record.name ++ " " ++ record.level ++ ": " ++ message
  let line := match record.raised with
    | some text => onNextLine line text
    | none => line
  if !record.stack.truthy then return line
  match record.stack.asText? with
  | some stack => return onNextLine line stack
  | none => .error .mistyped

end Record

/-- A record as a line of a given form. -/
def Format.line (format : Format) (host : String) (record : Record) : Except Failure String :=
  match format with
  | json => record.jsonLine host
  | plain => record.plainLine

end BoardSearch.Log
