import BoardSearch.Failure
import BoardSearch.Text.Case
import BoardSearch.Value.Same

/-!
# Log levels

## Main definitions

* `Log.Level`: the levels, from the least to the most serious;
* `Log.Level.number`: the number of a level;
* `Log.Level.ofValue`: the level that a value names, by number or by word.
-/

namespace BoardSearch.Log

/-- How serious a record is. -/
inductive Level where
  | debug
  | info
  | warning
  | error
deriving DecidableEq

namespace Level

/-- The name of a level. -/
def name : Level → String
  | debug => "debug"
  | info => "info"
  | warning => "warning"
  | error => "error"

/-- The word for a level. -/
def word : Level → String
  | debug => "DEBUG"
  | info => "INFO"
  | warning => "WARNING"
  | error => "ERROR"

/-- The number of a level; a more serious one has a greater number. -/
def number : Level → Nat
  | debug => 10
  | info => 20
  | warning => 30
  | error => 40

/-- Every level. -/
def all : List Level := [debug, info, warning, error]

/-- The level of a word, which has to be spelled exactly. -/
def ofWord? (word : String) : Option Level := all.find? fun level => level.word == word

/-- The level that a value names: an integer by its number, and anything else by
its text in letters of either case. -/
def ofValue (value : Value) : Except Failure Level :=
  let found := match value.asInt? with
    | some n => all.find? fun level => (level.number : Int) == n
    | none => ofWord? (Text.toUpper value.shown)
  match found with
  | some level => .ok level
  | none => .error (.noMember ("'" ++ value.shown ++ "'") .logLevel)

end Level

end BoardSearch.Log
