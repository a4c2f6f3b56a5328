import BoardSearch.CommandLine.Program
import BoardSearch.Text.Line
import Std.Time.DateTime.Timestamp

/-!
# The command line

Looks up the surroundings of the program, and prints what the program has to say.
What that is, is decided by `Program.run`.

## Main definitions

* `Program.environment`, `Program.files`: what the program finds around it;
* `Program.timed`: the program, with a stopwatch that shows how long it takes;
* `main`: the command line.
-/

namespace BoardSearch.Program

/-- A variable of the environment, whose name ends at the first equals sign. -/
def assignment? (octets : List UInt8) : Option (String × String) := do
  let text ← String.fromUTF8? ⟨octets.toArray⟩
  match text.toList.span (· != '=') with
  | (name, _ :: value) => some (String.ofList name, String.ofList value)
  | (_, []) => none

/-- The variables of the environment, which are kept with a zero byte between them. -/
def environment : IO (List (String × String)) := do
  let octets ← IO.FS.readBinFile "/proc/self/environ"
  return (octets.toList.splitBy fun a b => a != 0 && b != 0).filterMap assignment?

/-- The text of a file, or why it cannot be opened. -/
def readText (name : String) : IO (Except CommandLine.OpenError String) := do
  try
    return .ok (← IO.FS.readFile name)
  catch
    | .noFileOrDirectory _ _ _ => return .error .missing
    | .permissionDenied _ _ _ => return .error .denied
    | .inappropriateType _ _ _ => return .error .directory
    | other => throw other

/-- The files that arguments may name. -/
def files (arguments : List String) :
    IO (List (String × Except CommandLine.OpenError String)) :=
  arguments.mapM fun name => do return (name, ← readText name)

/-- The arguments ask for the search on the standard input. -/
def readsStandardInput (surroundings : Script.Surroundings) (arguments : List String) : Bool :=
  match CommandLine.parse surroundings.status arguments with
  | .ok (.compile options) => options.input = .standard
  | _ => false

/-- The nanoseconds since the beginning of 1970. -/
def nanoseconds : IO Int := do
  return (← Std.Time.Timestamp.now).toNanosecondsSinceUnixEpoch.val

/-- The nanoseconds of a second. -/
def nanosecondsPerSecond : Nat := 1000000000

/-- Nanoseconds as seconds. -/
def seconds (nanoseconds : Int) : Binary64 :=
  .ofRatio (nanoseconds < 0) nanoseconds.natAbs nanosecondsPerSecond

/-- The moment after nanoseconds since the beginning of 1970. -/
def momentAfter (nanoseconds : Int) : IO Moment :=
  let stamp : Timestamp :=
    ⟨nanoseconds.fdiv nanosecondsPerSecond,
      (nanoseconds.fmod nanosecondsPerSecond).toNat / 1000⟩
  match stamp.toMoment with
  | .ok moment => return moment
  | .error _ => throw (IO.userError "The clock is out of range.")

/-- What the script finds around it, with a stopwatch that stands still. -/
def surroundings (now : Moment) (arguments : List String) : IO Script.Surroundings := do
  let files ← files arguments
  let file := fun name => (Keyed.find? name files).getD (.error .missing)
  let found : Script.Surroundings := ⟨"", file, ⟨now, .still⟩⟩
  if readsStandardInput found arguments then
    return { found with standardInput := Text.withLineFeeds (← (← IO.getStdin).readToEnd) }
  else return found

/-- The program, with a stopwatch that shows how long it takes. It runs a first time
to find that out. -/
def timed (sources : Settings.Sources) (surroundings : Script.Surroundings)
    (arguments : List String) : IO (Except Failure Outcome) := do
  let began ← IO.monoNanosNow
  match run sources surroundings arguments with
  | .error failure => return .error failure
  | .ok _ =>
    let ended ← IO.monoNanosNow
    let watch : Stopwatch := ⟨seconds began, seconds ended⟩
    let clock := { surroundings.clock with watch }
    return run sources { surroundings with clock } arguments

/-- Where and when the program runs. -/
def occasion (now : Int) : IO Occasion := do
  let host ← IO.FS.readFile "/proc/sys/kernel/hostname"
  let process ← IO.FS.readFile "/proc/self/stat"
  let digits := process.toList.takeWhile Text.isDigit
  return ⟨String.ofList (host.toList.takeWhile (· != '\n')), Text.positional
    (digits.filterMap Text.digitValue?), seconds now⟩

end BoardSearch.Program

open BoardSearch BoardSearch.Program in
/-- The command line. -/
def main (arguments : List String) : IO UInt32 := do
  let now ← nanoseconds
  let file ← readText ".env"
  let sources : Settings.Sources := ⟨[], ← environment, file.toOption⟩
  let surroundings ← surroundings (← momentAfter now) arguments
  let occasion ← occasion now
  let outcome ← timed sources surroundings arguments
  match outcome.bind fun outcome => (outcome.errorText occasion).map (outcome, ·) with
  | .ok (outcome, errors) =>
    (← IO.getStderr).putStr errors
    (← IO.getStdout).putStr outcome.output
    return outcome.status.toUInt32
  | .error failure =>
    (← IO.getStderr).putStr (breakdown failure)
    return 1
