import BoardSearch.Log.Line
import BoardSearch.Settings.Loading

/-!
# Settings of the log

From which level on records are written, also for the libraries that write many
of them, and in which form.

## Main definitions

* `Settings.loggingSchema`: the settings;
* `Settings.LoggingSettings.load`: their values.
-/

namespace BoardSearch.Settings

/-- The settings of the log. -/
def loggingSchema : Schema where
  stem := "POSTSEARCH_LOG_"
  fields := [
    ⟨"level", none, .single .level, some (.text Log.Level.info.word)⟩,
    ⟨"verbose_level", none, .single .level, some (.text Log.Level.warning.word)⟩,
    ⟨"json_format", none, .single .switch, some (.bool true)⟩]
  rule := fun _ => none

/-- The values of the settings of the log. -/
structure LoggingSettings where
  /-- The level from which on records are written. -/
  level : Log.Level
  /-- The same for libraries that write many records. -/
  verboseLevel : Log.Level
  format : Log.Format

namespace LoggingSettings

/-- The level of a loaded value. -/
def levelOf (value : Option Value) (default : Log.Level) : Log.Level :=
  ((value.bind Value.asText?).bind Log.Level.ofWord?).getD default

/-- The values among loaded ones. -/
def ofValues (values : List (String × Value)) : LoggingSettings :=
  let value := fun name => Keyed.find? name values
  ⟨levelOf (value "level") .info, levelOf (value "verbose_level") .warning,
    if ((value "json_format").map Value.truthy).getD true then .json else .plain⟩

/-- The values that the sources give. -/
def load (sources : Sources) : Except Failure LoggingSettings :=
  (Settings.load loggingSchema sources).map ofValues

end LoggingSettings

end BoardSearch.Settings
