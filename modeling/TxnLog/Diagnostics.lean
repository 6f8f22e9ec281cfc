import TxnLog.Diagnostics.Level
import TxnLog.Settings
import TxnLog.Value.Json

/-!
# Diagnostics

Diagnostic records are mappings: the fields of what is reported, the event itself, its level,
the logger's name and the application's. The setup says which levels are kept, in which format
they are written and where to. `Setup.report` turns an event with fields of any kind into a
record, or says what is wrong with it.
-/

namespace TxnLog.Diagnostics

open Settings (put)

/-- The formats of diagnostics. -/
inductive Format where
  | console
  | json
  deriving DecidableEq, Repr

/-- The format with the given name. -/
def Format.ofName? (s : String) : Option Format :=
  if s = "console" then some .console else if s = "json" then some .json else none

/-- How diagnostics are written. -/
structure Setup where
  /-- The least level that is kept. -/
  level : Level
  format : Format
  /-- Records go to the standard output instead of the standard error. -/
  toOutput : Bool := false
  deriving DecidableEq, Repr

/-- A letter in upper case. Beside the letters `a` to `z` only the dotless i has an upper case
that occurs in the name of a level. -/
def upperLetter (c : Char) : Char :=
  if 'a' ≤ c ∧ c ≤ 'z' then Char.ofNat (c.toNat - 32) else if c = '\u0131' then 'I' else c

/-- The level that a value names, in letters of either case. -/
def Level.ofValue (v : Value) : Except Settings.Fault Level :=
  match Level.ofSettingName? (String.ofList (v.display.toList.map upperLetter)) with
  | some l => .ok l
  | none => .error (.unknownLevel v)

/-- The format that a value names. -/
def Format.ofValue (v : Value) : Except Settings.Fault Format :=
  let named := match v with
    | .text s => Format.ofName? s
    | _ => none
  match named with
  | some f => .ok f
  | none => .error (.unknownFormat v)

/-- The setup that three values describe: level, format and output. -/
def Setup.ofValues (levelValue formatValue outputValue : Value) :
    Except Settings.Fault Setup := do
  let level ← Level.ofValue levelValue
  let format ← Format.ofValue formatValue
  let toOutput := match outputValue with
    | .text s => s = "stdout"
    | _ => false
  return { level, format, toOutput }

/-- The setup that values given by name describe; what is not given is built in. -/
def Setup.ofGiven (given : List (String × Value)) : Except Settings.Fault Setup :=
  if given.all fun (name, _) => ["log_level", "log_format", "log_output"].contains name then
    let value (name builtIn : String) : Value := (given.lookup name).getD (.text builtIn)
    ofValues (value "log_level" "WARNING") (value "log_format" "console")
      (value "log_output" "stderr")
  else .error .unknownSetting

/-- A record: its fields by name. -/
abbrev Record := Settings

/-- A record with the application's name. -/
def addApplication (r : Record) : Record := put "app" (.text "txntail") r

/-- The name that a logger goes by; the one without a name is the root of all. -/
def loggerName (name : String) : String := if name = "" then "root" else name

/-- Fields that no record has: the time is not part of a record, and no errors of the program are
described in one. -/
def omitted : List Key := ["timestamp", "exc_info"]

/-- The record of an event; nothing is no event. The last names put win over fields of the same
name. -/
def record (logger : String) (level : Level) (event : Value) (fields : Record) : Record :=
  let fields := fields.filter fun (name, _) => !omitted.contains name
  let fields := match event with
    | .null => fields
    | event => put "event" event fields
  addApplication (put "logger" (.text (loggerName logger)) (put "level" (.text level.name) fields))

/-- Why an event cannot be reported. -/
inductive Fault where
  /-- A field has a name that is not for fields. -/
  | reservedName
  /-- A field that is to hold the record of another logger holds something else. -/
  | foreignRecord
  /-- What is to stand below the line of the record is no text. -/
  | notText
  /-- The record holds an integer that may not be written. -/
  | unwritable
  /-- The record holds a key of a kind that its format has no form for. -/
  | foreignKey
  deriving DecidableEq, Repr

/-- The names that fields cannot have. -/
def reservedNames : List Key := ["event", "self", "method_name"]

/-- What a field that is to be a text holds, if there is something. -/
def text? (r : Record) (name : Key) : Except Fault (Option String) :=
  match r.lookup name with
  | none | some .null => .ok none
  | some (.text s) => .ok (some s)
  | some _ => .error .notText

/-- The text of a key that is not in quotes. -/
def fieldName : Key → String
  | .text s => s
  | k => k.literal

/-- The value of a field for reading: a text stands for itself, any other value is written out. -/
def fieldText : Value → String
  | .text s => s
  | v => v.literal

/-- A record for reading: its level, event and logger on a line, the other fields behind, and the
stack and the exception below. A text is written as it is. -/
def consoleText (r : Record) : Except Fault String := do
  let shown (name : Key) : String := ((r.lookup name).map (·.display)).getD ""
  let fields := r.filter fun (name, _) =>
    !(["level", "event", "logger", "stack", "exception"] : List Key).contains name
  let front := ["[" ++ shown "level" ++ "]", shown "event", "[" ++ shown "logger" ++ "]"]
  let line := " ".intercalate
    (front ++ fields.map fun (name, v) => fieldName name ++ "=" ++ fieldText v)
  let stack ← text? r "stack"
  let exception ← text? r "exception"
  let rule := String.ofList (List.replicate 79 '=')
  return line
    ++ (stack.map ("\n" ++ ·)).getD ""
    ++ (if stack.isSome ∧ exception.isSome then "\n\n" ++ rule ++ "\n" else "")
    ++ (exception.map ("\n" ++ ·)).getD ""

/-- A record as it is written. -/
def Format.render (r : Record) : Format → Except Fault String
  | .json =>
    match (Value.mapping r).jsonFault? with
    | none => .ok (Value.json (.mapping r))
    | some .longInteger => .error .unwritable
    | some .foreignKey => .error .foreignKey
  | .console => if (Value.mapping r).isWritable then consoleText r else .error .unwritable

/-- The record of an event, if its level is kept. -/
def Setup.record? (s : Setup) (logger : String) (level : Level) (event : String)
    (fields : Record) : Option Record :=
  if s.level.isKept level then some (record logger level (.text event) fields) else none

/-- Reports an event: gives its record, if its level is kept. The record is made and written
before its level is looked at, so an event that cannot be reported is at fault at any level. -/
def Setup.report (s : Setup) (logger : String) (level : Level) (event : Value)
    (fields : Record) : Except Fault (Option Record) := do
  if fields.any fun (name, _) => reservedNames.contains name then throw .reservedName
  if (fields.lookup (.text "_record")).any (·.kind ≠ "NoneType") then throw .foreignRecord
  let r := record logger level event fields
  let _ ← s.format.render r
  return if s.level.isKept level then some r else none

end TxnLog.Diagnostics
