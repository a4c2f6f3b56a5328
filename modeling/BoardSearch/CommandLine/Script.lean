import BoardSearch.CommandLine.Arguments
import BoardSearch.Compiler.Basic
import BoardSearch.Json.Document
import BoardSearch.Request.Temporal
import BoardSearch.Settings.Query
import BoardSearch.Text.Line

/-!
# The script

The script reads a search as a JSON object of metatags, compiles it, and prints
the request to the search engine. A search that cannot be compiled is reported;
any other failure is left to the caller.

## Main definitions

* `Script.Capacity`: what reading and printing run out of;
* `Script.metatagsOf`: the metatags that a text holds;
* `Script.isReported`: the failures that are reported;
* `Script.Outcome`: what was printed, and the status;
* `Script.runWithin`: the script, where reading and printing can run out of something;
* `Script.run`: the script.

## Design notes

How deep a document can be nested to be read or printed, and how wide an indentation can be
for the output to find room, depends on the machine and on where the script is called from.
So that is passed to the script, as the clock is. What it runs out of comes before all else
that reading or printing would come to.
-/

namespace BoardSearch.Script

/-- What the script finds around it. -/
structure Surroundings where
  standardInput : String
  /-- The files, or why they cannot be opened. -/
  file : String → Except CommandLine.OpenError String
  clock : Clock

/-- Why a file cannot be opened, if it cannot. -/
def Surroundings.status (surroundings : Surroundings) (name : String) :
    Option CommandLine.OpenError :=
  match surroundings.file name with
  | .ok _ => none
  | .error reason => some reason

/-- The text of an input. A file is read with line feeds for all its line breaks. -/
def Surroundings.text (surroundings : Surroundings) : CommandLine.Input → String
  | .standard => surroundings.standardInput
  | .file name => Text.withLineFeeds ((surroundings.file name).toOption.getD "")

/-- The JSON document that a text holds. -/
def readDocument (text : String) : Except Failure Json :=
  match Json.read text with
  | .ok document => .ok document
  | .error (.numeral reason) => .error (.numeral reason)
  | .error reason => .error (.unreadableSearch reason)

/-- The metatags that a text holds, with moments for the bounds of temporal ones. -/
def metatagsOf (text : String) : Except Failure (List (Value × Value)) := do
  match (← readDocument text).toValue with
  | .mapping entries => Temporal.withMoments entries
  | _ => .error .noObject

/-- The person that options and settings describe. -/
def session (options : CommandLine.Options) (settings : Settings.QuerySettings) : Session :=
  { Session.ofSettings settings with
    safeMode := .bool options.safeMode
    adminMode := .bool options.admin
    statementTimeout := options.timeout.elim .null .int }

/-- The failures that tell the person what is wrong with the search. -/
def isReported : Failure → Bool
  | .tagLimit _ _ | .noTokenizer | .unreadableTime _ | .unreadableSearch _ | .noObject => true
  | _ => false

/-- What there is for reading and for printing. -/
structure Capacity where
  /-- What the reading of a text runs out of, if anything. -/
  reading : String → Option Failure.Resource
  /-- What the printing of a body under an indentation runs out of, if anything. -/
  printing : Int → Value → Option Failure.Resource

/-- There is enough of everything. -/
def Capacity.ample : Capacity := ⟨fun _ => none, fun _ _ => none⟩

/-- What the script printed, and its status. -/
structure Outcome where
  status : Nat
  output : String
  /-- What was printed on the standard error. -/
  errors : String
deriving DecidableEq

/-- What the script wrote to the log, and how it ended. -/
structure Run where
  events : List Log.Event
  result : Except Failure Outcome

/-- The output for the body of a request. -/
def print (indent : Int) (body : Value) : Except Failure String := do
  let style := Json.Style.indented (← Json.indentation indent)
  let text ← body.serialize { Json.Choices.standard with style }
  return text ++ "\n"

/-- The end of the script for a search that cannot be compiled. -/
def refuse (events : List Log.Event) (failure : Failure) : Run :=
  if isReported failure then
    let message := (failure.message?).getD ""
    let event : Log.Event :=
      ⟨.commandLine, .info, some ("Search could not be compiled: " ++ message)⟩
    ⟨events ++ [event], .ok ⟨1, "", message ++ "\n"⟩⟩
  else ⟨events, .error failure⟩

/-- The end of the script for a search that was compiled. -/
def publish (capacity : Capacity) (indent : Int) (search : Search) : Except Failure Outcome :=
  match capacity.printing indent search.toValue with
  | some resource => .error (.exhausted resource)
  | none => (print indent search.toValue).map fun output => ⟨0, output, ""⟩

/-- The script for the text of a search. -/
def runOn (capacity : Capacity) (options : CommandLine.Options)
    (settings : Settings.QuerySettings) (clock : Clock) (text : String) : Run :=
  match capacity.reading text with
  | some resource => ⟨[], .error (.exhausted resource)⟩
  | none =>
    match metatagsOf text with
    | .error failure => refuse [] failure
    | .ok entries =>
      let compiler := Compiler.new (.mapping entries) (session options settings) none
      let report := compiler.build clock none
      match report.result with
      | .error failure => refuse report.events failure
      | .ok search => ⟨report.events, publish capacity options.indent search⟩

/-- The script, with what there is for reading and printing. -/
def runWithin (capacity : Capacity) (options : CommandLine.Options)
    (settings : Settings.QuerySettings) (surroundings : Surroundings) : Run :=
  runOn capacity options settings surroundings.clock (surroundings.text options.input)

/-- The script where there is enough of everything. -/
def run (options : CommandLine.Options) (settings : Settings.QuerySettings)
    (surroundings : Surroundings) : Run :=
  runWithin .ample options settings surroundings

end BoardSearch.Script
