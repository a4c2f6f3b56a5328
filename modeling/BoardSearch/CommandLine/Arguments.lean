import BoardSearch.Keyed
import BoardSearch.Text.Numeral
import BoardSearch.Text.Quoted

/-!
# Arguments of the command line

The command line takes one file at most and some options. An option can be cut
short as long as no other one begins like it, and its value follows it behind an
equals sign or as the next argument.

## Main definitions

* `CommandLine.Flag`: the options;
* `CommandLine.UsageError`: why arguments are refused;
* `CommandLine.Token`, `CommandLine.tokens`: what single arguments are;
* `CommandLine.Options`, `CommandLine.Task`: what the arguments ask for;
* `CommandLine.parse`: the task of a row of arguments.

## Design notes

What an argument is does not depend on the arguments before it, but for two
hyphens: everything behind them is a word. Options are carried out one after
another, and so is the file opened when it is reached. What is left over is
reported at the end.
-/

namespace BoardSearch.CommandLine

/-- An option. -/
inductive Flag where
  | help
  | admin
  | safeMode
  | timeout
  | indent
deriving DecidableEq

namespace Flag

/-- The ways to write an option. -/
def spellings : Flag → List String
  | help => ["-h", "--help"]
  | admin => ["--admin"]
  | safeMode => ["--safe-mode"]
  | timeout => ["--timeout"]
  | indent => ["--indent"]

/-- The name of an option in messages. -/
def name (flag : Flag) : String := String.intercalate "/" flag.spellings

/-- An option has a value. -/
def takesValue : Flag → Bool
  | timeout | indent => true
  | help | admin | safeMode => false

/-- Every option. -/
def all : List Flag := [help, admin, safeMode, timeout, indent]

/-- Every way to write an option. -/
def table : List (String × Flag) :=
  all.flatMap fun flag => flag.spellings.map fun spelling => (spelling, flag)

/-- The option that is written in a given way. -/
def ofSpelling? (text : String) : Option Flag := Keyed.find? text table

end Flag

/-- Why a file cannot be opened. -/
inductive OpenError where
  | missing
  | denied
  | directory
deriving DecidableEq

/-- The wording of an error of the system. -/
def OpenError.message : OpenError → String
  | missing => "[Errno 2] No such file or directory"
  | denied => "[Errno 13] Permission denied"
  | directory => "[Errno 21] Is a directory"

/-- Why arguments are refused. -/
inductive UsageError where
  /-- Several options begin like an argument. -/
  | ambiguous (argument : String) (spellings : List String)
  /-- An option that has a value comes without one. -/
  | noValue (flag : Flag)
  /-- An option that has no value comes with one. -/
  | ignoredValue (flag : Flag) (value : String)
  /-- The value of an option is no integer. -/
  | noInteger (flag : Flag) (value : String)
  | cannotOpen (name : String) (reason : OpenError)
  /-- Arguments are left over. -/
  | leftOver (arguments : List String)
deriving DecidableEq

/-- The wording of refused arguments. -/
def UsageError.message : UsageError → String
  | ambiguous argument spellings =>
    "ambiguous option: " ++ argument ++ " could match " ++ String.intercalate ", " spellings
  | noValue flag => "argument " ++ flag.name ++ ": expected one argument"
  | ignoredValue flag value =>
    "argument " ++ flag.name ++ ": ignored explicit argument " ++ Text.quoted value
  | noInteger flag value =>
    "argument " ++ flag.name ++ ": invalid int value: " ++ Text.quoted value
  | cannotOpen name reason =>
    "argument input: can't open '" ++ name ++ "': " ++ reason.message ++ ": " ++ Text.quoted name
  | leftOver arguments => "unrecognized arguments: " ++ String.intercalate " " arguments

/-! ## Single arguments -/

/-- What an argument is. -/
inductive Token where
  /-- An option, as it is written in full, with a value if one is joined to it. -/
  | flag (flag : Flag) (spelling : String) (value : Option String)
  /-- An option that is not known. -/
  | unknown (text : String)
  | word (text : String)
  /-- Two hyphens. Everything behind them is a word. -/
  | divider
deriving DecidableEq

/-- An argument in front of and behind its first equals sign. -/
def splitValue (text : List Char) : List Char × Option String :=
  match text.span (· != '=') with
  | (head, _ :: value) => (head, some (String.ofList value))
  | (head, []) => (head, none)

/-- The options that an argument may stand for, in the order of the options. Behind two
hyphens the value is joined by an equals sign, and behind one it follows the letter. -/
def candidates (text : List Char) : List Token :=
  match text with
  | '-' :: '-' :: _ =>
    let (head, value) := splitValue text
    Flag.table.filterMap fun entry =>
      if head.isPrefixOf entry.1.toList then some (.flag entry.2 entry.1 value) else none
  | _ =>
    Flag.table.filterMap fun entry =>
      if entry.1.toList = text.take 2 then
        some (.flag entry.2 entry.1 (some (String.ofList (text.drop 2))))
      else if text.isPrefixOf entry.1.toList then some (.flag entry.2 entry.1 none)
      else none

/-- The option that an argument spells out. -/
def spelledOut? (argument : String) : Option Token :=
  (Flag.ofSpelling? argument).map fun flag => .flag flag argument none

/-- A negative number, for which an argument with a hyphen is taken. -/
def isNegativeNumber (text : List Char) : Bool :=
  let text := if text.getLast? = some '\n' then text.dropLast else text
  match text with
  | '-' :: digits =>
    match digits.span Text.isDigit with
    | (whole, []) => !whole.isEmpty
    | (_, '.' :: fraction) => !fraction.isEmpty && fraction.all Text.isDigit
    | _ => false
  | _ => false

/-- The spelling of an option. -/
def Token.spelling : Token → String
  | flag _ spelling _ => spelling
  | unknown text | word text => text
  | divider => "--"

/-- What an argument is that begins with a hyphen and does not spell out an option. -/
def resolve (text : List Char) : Except UsageError Token :=
  match candidates text with
  | [token] => .ok token
  | [] =>
    if isNegativeNumber text || text.contains ' ' then .ok (.word (String.ofList text))
    else .ok (.unknown (String.ofList text))
  | tokens => .error (.ambiguous (String.ofList text) (tokens.map (·.spelling)))

/-- What an argument is. -/
def tokenOf (argument : String) : Except UsageError Token :=
  let text := argument.toList
  if text.head? != some '-' then .ok (.word argument)
  else
    match spelledOut? argument with
    | some token => .ok token
    | none => if text.length = 1 then .ok (.word argument) else resolve text

/-- What the arguments are. -/
def tokens : List String → Except UsageError (List Token)
  | [] => .ok []
  | argument :: rest =>
    if argument = "--" then .ok (.divider :: rest.map .word)
    else do return (← tokenOf argument) :: (← tokens rest)

/-! ## Options -/

/-- Where a search is read from. -/
inductive Input where
  | standard
  | file (name : String)
deriving DecidableEq

/-- What the arguments ask for. -/
structure Options where
  input : Input
  admin : Bool
  safeMode : Bool
  /-- The time that a query may take, in milliseconds. -/
  timeout : Option Int
  /-- The blanks that a level of the output is indented by. -/
  indent : Int
deriving DecidableEq

/-- What no arguments ask for. -/
def Options.standard : Options := ⟨.standard, false, false, none, 2⟩

/-- What the arguments come to. -/
inductive Task where
  /-- The options are to be explained. -/
  | help
  | compile (options : Options)
deriving DecidableEq

/-- What has been read of the arguments. -/
structure Progress where
  options : Options
  /-- The file has been named. -/
  named : Bool
  leftOver : List String

namespace Progress

/-- Nothing. -/
def start : Progress := ⟨.standard, false, []⟩

/-- An argument that is left over. -/
def leave (progress : Progress) (text : String) : Progress :=
  { progress with leftOver := progress.leftOver ++ [text] }

/-- The options with the value of one of them. -/
def setValue (progress : Progress) (flag : Flag) (text : String) : Except UsageError Progress :=
  match Text.readInteger text, flag with
  | .error _, _ => .error (.noInteger flag text)
  | .ok value, .timeout =>
    .ok { progress with options := { progress.options with timeout := some value } }
  | .ok value, .indent => .ok { progress with options := { progress.options with indent := value } }
  | .ok _, .help | .ok _, .admin | .ok _, .safeMode => .ok progress

/-- The options with one more that has no value. -/
def set (progress : Progress) (flag : Flag) : Progress :=
  match flag with
  | .admin => { progress with options := { progress.options with admin := true } }
  | .safeMode => { progress with options := { progress.options with safeMode := true } }
  | .help | .timeout | .indent => progress

/-- The options with the file that is read. A hyphen is the standard input. -/
def name (progress : Progress) (status : String → Option OpenError) (text : String) :
    Except UsageError Progress :=
  let named := fun input : Input =>
    { progress with options := { progress.options with input }, named := true }
  if text = "-" then .ok (named .standard)
  else
    match status text with
    | some reason => .error (.cannotOpen text reason)
    | none => .ok (named (.file text))

end Progress

/-- What is wrong with the value that is joined to an option without one. Behind a single
hyphen more letters may be joined, of which the one that asks for help is carried out
before the others are looked at. -/
def joinedFault? (flag : Flag) (spelling value : String) : Option UsageError :=
  if "--".toList.isPrefixOf spelling.toList then some (.ignoredValue flag value)
  else
    match value.toList.dropWhile (· == 'h') with
    | '=' :: rest => some (.ignoredValue flag (String.ofList rest))
    | '-' :: rest => some (.ignoredValue flag (String.ofList ('-' :: rest)))
    | _ => none

/-- What tokens come to. `status` tells why a file cannot be opened. -/
def consume (status : String → Option OpenError) (progress : Progress) :
    List Token → Except UsageError Task
  | [] =>
    if progress.leftOver.isEmpty then .ok (.compile progress.options)
    else .error (.leftOver progress.leftOver)
  | .unknown text :: rest => consume status (progress.leave text) rest
  | .flag flag spelling joined :: rest =>
    if flag.takesValue then
      match joined, rest with
      | some value, rest => do consume status (← progress.setValue flag value) rest
      | none, .word value :: rest => do consume status (← progress.setValue flag value) rest
      | none, _ => .error (.noValue flag)
    else
      match joined.bind (joinedFault? flag spelling) with
      | some fault => .error fault
      | none => if flag = .help then .ok .help else consume status (progress.set flag) rest
  | .word text :: rest =>
    if progress.named then consume status (progress.leave text) rest
    else do
      let progress ← progress.name status text
      match rest with
      | .divider :: rest => consume status progress rest
      | rest => consume status progress rest
  | .divider :: rest =>
    if progress.named then consume status (progress.leave "--") rest
    else consume status progress rest

/-- What arguments ask for. `status` tells why a file cannot be opened. -/
def parse (status : String → Option OpenError) (arguments : List String) :
    Except UsageError Task := do
  consume status .start (← tokens arguments)

end BoardSearch.CommandLine
