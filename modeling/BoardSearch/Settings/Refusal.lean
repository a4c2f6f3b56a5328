/-!
# Refused settings

Why the value of a setting is refused, and in which part of it.

## Main definitions

* `Settings.Refusal`: the causes;
* `Settings.Refusal.message`: their wordings;
* `Settings.Problem`: a cause with its place;
* `Settings.Checked`: what was checked, or all the problems with it.
-/

namespace BoardSearch.Settings

/-- Why a value is refused. -/
inductive Refusal where
  /-- A setting without a default has no value. -/
  | missing
  | noInteger
  | unreadableInteger
  | hugeInteger
  | fractional
  | notFinite
  | notPositive
  | noNumber
  | unreadableNumber
  | noText
  | undecodableText
  | noSwitch
  | unreadableSwitch
  | noLevel
  /-- A kind of a service's own refuses the value. -/
  | other (message : String)
  /-- A group of settings, of the named kind, has to be a mapping. -/
  | noGroup (kind : String)
  /-- The settings as a whole break a rule. -/
  | rule (message : String)
deriving DecidableEq

/-- The wording of a refusal. -/
def Refusal.message : Refusal → String
  | missing => "Field required"
  | noInteger => "Input should be a valid integer"
  | unreadableInteger => "Input should be a valid integer, unable to parse string as an integer"
  | hugeInteger => "Unable to parse input string as an integer, exceeded maximum size"
  | fractional => "Input should be a valid integer, got a number with a fractional part"
  | notFinite => "Input should be a finite number"
  | notPositive => "Input should be greater than 0"
  | noNumber => "Input should be a valid number"
  | unreadableNumber => "Input should be a valid number, unable to parse string as a number"
  | noText => "Input should be a valid string"
  | undecodableText =>
    "Input should be a valid string, unable to parse raw data as a unicode string"
  | noSwitch => "Input should be a valid boolean"
  | unreadableSwitch => "Input should be a valid boolean, unable to interpret input"
  | noLevel => "Input should be 'DEBUG', 'INFO', 'WARNING' or 'ERROR'"
  | other message => message
  | noGroup kind => "Input should be a valid dictionary or instance of " ++ kind
  | rule message => "Value error, " ++ message

/-- A setting that is at fault: its name behind the names of what it lies in, or no name
where the fault is in the settings as a whole. An item of a list is named by its number. -/
structure Problem where
  location : List String
  refusal : Refusal
deriving DecidableEq

/-- What was checked, or the problems with it. -/
abbrev Checked (α : Type) := Except (List Problem) α

end BoardSearch.Settings
