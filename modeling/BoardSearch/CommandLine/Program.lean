import BoardSearch.CommandLine.Script
import BoardSearch.Log.Setup

/-!
# The program

The program loads the settings of the log, reads its arguments, loads the settings
of the compiler and runs the script. What the script has to say goes to the log on
the standard error, from the level on that the settings name.

## Main definitions

* `Program.ErrorLine`: what is written to the standard error;
* `Program.Outcome`: what the program wrote, and its status;
* `Program.run`: the program;
* `Program.Outcome.errorText`: the text on the standard error.
-/

namespace BoardSearch.Program

/-- The name of the program. -/
def name : String := "compile-post-query"

/-- How the program is called. -/
def usage : String :=
  "usage: " ++ name
    ++ " [-h] [--admin] [--safe-mode] [--timeout TIMEOUT] [--indent INDENT] [input]"

/-- The explanation of the arguments. -/
def explanation : String :=
  usage ++ "\n\nPrint the OpenSearch request a post search compiles to.\n\n"
    ++ "  input              JSON file containing the metatags. Defaults to standard input.\n"
    ++ "  -h, --help         Show this message and exit.\n"
    ++ "  --admin            Search as an admin in admin mode.\n"
    ++ "  --safe-mode        Only return safe posts.\n"
    ++ "  --timeout TIMEOUT  Query timeout in milliseconds.\n"
    ++ "  --indent INDENT    Indentation of the JSON output.\n"

/-- The last line about refused arguments. -/
def usageLine (error : CommandLine.UsageError) : String := name ++ ": error: " ++ error.message

/-- What is written to the standard error. -/
inductive ErrorLine where
  | logged (event : Log.Event)
  /-- A text, which may have several lines. -/
  | printed (text : String)

/-- What the program wrote, and its status. -/
structure Outcome where
  status : Nat
  output : String
  errors : List ErrorLine
  setup : Log.Setup

/-- An event is written to the log. -/
def isWritten (setup : Log.Setup) (event : Log.Event) : Bool :=
  setup.threshold event.source.logName ≤ event.level.number

/-- What a script leaves on the standard error. -/
def errorLines (setup : Log.Setup) (events : List Log.Event) (printed : String) :
    List ErrorLine :=
  ((events.filter (isWritten setup)).map .logged)
    ++ if printed = "" then [] else [.printed printed]

/-- The program, with the settings that the sources give. -/
def run (sources : Settings.Sources) (surroundings : Script.Surroundings)
    (arguments : List String) : Except Failure Outcome := do
  let setup := Log.Setup.ofSettings (← Settings.LoggingSettings.load sources) none
  match CommandLine.parse surroundings.status arguments with
  | .error error =>
    return ⟨2, "", [.printed (usage ++ "\n" ++ usageLine error ++ "\n")], setup⟩
  | .ok .help => return ⟨0, explanation, [], setup⟩
  | .ok (.compile options) =>
    let script := Script.run options (← Settings.QuerySettings.load sources) surroundings
    let outcome ← script.result
    return ⟨outcome.status, outcome.output, errorLines setup script.events outcome.errors, setup⟩

/-- Where and when the program runs. -/
structure Occasion where
  host : String
  process : Nat
  /-- The time, as a timestamp. -/
  time : Binary64

/-- The record of an event, which the main thread writes. -/
def Occasion.record (occasion : Occasion) (event : Log.Event) : Log.Record where
  name := event.source.logName
  level := event.level.word
  path := event.source.path
  created := .float occasion.time
  milliseconds := (Log.Record.millisecondsOf (.float occasion.time)).toOption.getD 0
  message := .text event.message
  arguments := .tuple []
  process := .int occasion.process
  thread := Log.Record.mainThread
  stack := .null
  raised := none

/-- What is written for an entry of the standard error. -/
def ErrorLine.text (setup : Log.Setup) (occasion : Occasion) : ErrorLine → Except Failure String
  | logged event => do return (← setup.format.line occasion.host (occasion.record event)) ++ "\n"
  | printed text => .ok text

/-- The text on the standard error. -/
def Outcome.errorText (outcome : Outcome) (occasion : Occasion) : Except Failure String := do
  return String.join (← outcome.errors.mapM (·.text outcome.setup occasion))

/-- The text on the standard error when the program breaks down. -/
def breakdown (failure : Failure) : String :=
  failure.kind ++ (failure.message?.map (": " ++ ·)).getD "" ++ "\n"

end BoardSearch.Program
