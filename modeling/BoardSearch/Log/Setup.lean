import BoardSearch.Settings.Logging

/-!
# Which records are written

A log has a name with points between its parts, and belongs to every log whose
name is that of its first parts. Some libraries have a level of their own, which
holds for the logs that belong to theirs too.

## Main definitions

* `Log.Setup`: from which level on records are written, and how;
* `Log.Setup.threshold`: the number from which on records of a log are written;
* `Log.Setup.lines`: the lines for a row of records.
-/

namespace BoardSearch.Log

/-- What is written to the log. -/
structure Setup where
  level : Level
  /-- The level of the libraries that write many records. -/
  verboseLevel : Level
  format : Format

namespace Setup

/-- The logs of the libraries that write many records. -/
def verboseLogs : List String :=
  ["opensearch", "urllib3.connectionpool", "requests.packages.urllib3.connectionpool"]

/-- What settings say about the log. The form can be given otherwise. -/
def ofSettings (settings : Settings.LoggingSettings) (format : Option Format) : Setup :=
  ⟨settings.level, settings.verboseLevel, format.getD settings.format⟩

/-- A log belongs to another one, or is that one. -/
def belongs (name other : String) : Bool :=
  name == other || (other ++ ".").toList.isPrefixOf name.toList

/-- The level from which on records of a log are written. -/
def levelFor (setup : Setup) (name : String) : Level :=
  if verboseLogs.any (belongs name) then setup.verboseLevel else setup.level

/-- The number from which on records of a log are written. -/
def threshold (setup : Setup) (name : String) : Nat := (setup.levelFor name).number

/-- The words for how serious records are, with their numbers. -/
def severities : List (String × Nat) :=
  [("CRITICAL", 50), ("FATAL", 50), ("ERROR", 40), ("WARN", 30), ("WARNING", 30), ("INFO", 20),
    ("DEBUG", 10), ("NOTSET", 0)]

/-- The number of a word for how serious a record is. -/
def severity (word : String) : Nat := (Keyed.find? word severities).getD 0

/-- A record is written. -/
def writes (setup : Setup) (record : Record) : Bool :=
  setup.threshold record.name ≤ severity record.level

/-- The lines for a row of records. A record that has no line is left out. -/
def lines (setup : Setup) (host : String) (records : List Record) : List String :=
  (records.filter setup.writes).filterMap fun record =>
    (setup.format.line host record).toOption

end Setup

end BoardSearch.Log
