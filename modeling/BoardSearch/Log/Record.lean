import BoardSearch.Failure
import BoardSearch.Template.Filling

/-!
# Log records

What is written to the log: a message template with its arguments, and where,
when and how it was written.

## Main definitions

* `Log.Record`: the records;
* `Log.Record.millisecondsOf`: the milliseconds of a record;
* `Log.Record.argumentsOf`: the arguments of a record, as they are kept;
* `Log.Record.messageValue`: the message in a JSON line;
* `Log.Record.messageText`: the message in a plain line.

## Design notes

In a JSON line bytes stand for the text that they encode, and arguments that do
not fit their template are reported in the message itself, so that the record is
not lost. A plain line does neither.
-/

namespace BoardSearch.Log

/-- A record. -/
structure Record where
  /-- The log that it is written to. -/
  name : String
  /-- The word for how serious it is. -/
  level : String
  /-- The path of the file that wrote it. -/
  path : String
  /-- When it was written, as a timestamp. -/
  created : Value
  /-- The milliseconds of that time after its last second. -/
  milliseconds : Nat
  message : Value
  arguments : Value
  /-- The number of the process that wrote it. -/
  process : Value
  /-- The number of the thread that wrote it. -/
  thread : Value
  /-- The calls that led to it. -/
  stack : Value
  /-- What was raised when it was written. -/
  raised : Option String

namespace Record

/-- A number less the integer below it, which is rounded where the number is negative. -/
def fraction? (x : Binary64) : Option Binary64 := do
  let rest := x.sub (.ofInt (← x.trunc?))
  if Binary64.compareInt? 0 rest == some .gt then return rest.add (.ofInt 1) else return rest

/-- The milliseconds after the last second of a time. They are a thousand just before
the next one. -/
def millisecondsOf (created : Value) : Except Failure Nat :=
  match created.asInt?, created with
  | some _, _ => .ok 0
  | none, .float x =>
    match (fraction? x).bind fun fraction => (fraction.mul (.ofInt 1000)).trunc? with
    | some n => .ok n.toNat
    | none => .error .noFraction
  | none, _ => .error .mistyped

/-- The only item of a row. -/
def onlyItem? : Value → Except Failure (Option Value)
  | .list [item] | .tuple [item] => .ok (some item)
  | .set [_] | .frozenSet [_] => .error .mistyped
  | _ => .ok none

/-- The value has a length. -/
def hasLength : Value → Bool
  | .text _ | .bytes _ | .list _ | .tuple _ | .set _ | .frozenSet _ | .mapping _ | .operator _ =>
    true
  | _ => false

/-- The arguments of a record. A mapping with entries that is the only argument is
kept by itself, so that its entries can be asked for. -/
def argumentsOf (arguments : Value) : Except Failure Value :=
  if !arguments.truthy then .ok arguments
  else if !hasLength arguments then .error .mistyped
  else do
    match ← onlyItem? arguments with
    | some (.mapping entries) => return if entries.isEmpty then arguments else .mapping entries
    | _ => return arguments

/-- Bytes as the text that they encode; every other value as it is. -/
def decoded : Value → Except Failure Value
  | .bytes octets =>
    match String.fromUTF8? ⟨octets.toArray⟩ with
    | some text => .ok (.text text)
    | none => .error .undecodable
  | value => .ok value

/-- An entry with key and value decoded. -/
def decodedEntry (entry : Value × Value) : Except Failure (Value × Value) := do
  return (← decoded entry.1, ← decoded entry.2)

/-- The arguments of a JSON line: a mapping, or a row; `none` for what is neither. -/
def decodedArguments : Value → Except Failure (Option Value)
  | .mapping entries => do
    return some (.mapping (Keyed.ofEntries (← entries.mapM decodedEntry)))
  | .list items | .tuple items => do return some (.tuple (← items.mapM decoded))
  | .text s => .ok (some (.tuple (s.toList.map fun c => .text c.toString)))
  | .operator op => .ok (some (.tuple (op.text.toList.map fun c => .text c.toString)))
  | .bytes octets => .ok (some (.tuple (octets.map fun b => .int b.toNat)))
  | _ => .ok none

/-- The text of a message with its arguments. -/
def filled (message arguments : Value) : Except Template.Fault String :=
  match message.asText? with
  | none => .error (.noTemplate message.kindName arguments.kindName)
  | some template =>
    match arguments with
    | .tuple items => Template.fill template (.row items)
    | arguments => Template.fill template (.single arguments)

/-- The notice that stands for a message whose arguments do not fit. -/
def notice (fault : Template.Fault) (message arguments : Value) : String :=
  "Log message could not be formatted. Exception: " ++ fault.quoted
    ++ ". Original message: message=" ++ message.quoted ++ " args=" ++ arguments.quoted

/-- The message, filled or as a notice. A notice quotes message and arguments, which takes
that they can be written out. -/
def filledOrNotice (message arguments : Value) : Except Failure String :=
  match filled message arguments with
  | .ok text => .ok text
  | .error fault =>
    if message.hasText && arguments.hasText then .ok (notice fault message arguments)
    else .error (.numeral .unwritable)

/-- The message in a JSON line. -/
def messageValue (record : Record) : Except Failure Value := do
  let message ← decoded record.message
  if !record.arguments.truthy then return message
  match ← decodedArguments record.arguments with
  | none => return message
  | some arguments => return .text (← filledOrNotice message arguments)

/-- The message in a plain line. -/
def messageText (record : Record) : Except Failure String := do
  let message ← record.message.written
  if record.arguments.truthy then
    (filled (.text message) record.arguments).mapError .template
  else return message

end Record

end BoardSearch.Log
