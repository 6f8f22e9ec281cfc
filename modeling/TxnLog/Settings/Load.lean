import TxnLog.Settings
import TxnLog.Settings.Integer

/-!
# Loading settings

Settings are built in layers: the built-in ones, those of a file, and those of five
environment variables, each over the ones before. A variable that is set but empty counts as
not set.
-/

namespace TxnLog.Settings

/-- The environment: the value of each variable that is set. -/
abbrev Environment := String → Option String

/-- The value of a variable that is set and not empty. -/
def Environment.value? (env : Environment) (name : String) : Option String :=
  (env name).filter (· ≠ "")

/-- The variable that names the settings file. -/
def fileVariable : String := "TXNTAIL_CONFIG"

/-- A setting that a variable of the environment overrides. -/
structure Override where
  /-- The name of the variable. -/
  variableName : String
  /-- The dotted key of the setting. -/
  key : String
  /-- The variable holds an integer literal. -/
  isInteger : Bool
  deriving DecidableEq, Repr

/-- The overrides in the order in which they apply. -/
def overrides : List Override := [
  ⟨"TXNTAIL_POLL_INTERVAL_MS", "tail.poll_interval_ms", true⟩,
  ⟨"TXNTAIL_VERBOSE_POLL_INTERVAL_MS", "tail.verbose_poll_interval_ms", true⟩,
  ⟨"TXNTAIL_CHECKSUM", "log.checksum", false⟩,
  ⟨"TXNTAIL_LOG_LEVEL", "logging.level", false⟩,
  ⟨"TXNTAIL_LOG_FORMAT", "logging.format", false⟩]

/-- The value that an override gives its setting for the text of its variable. -/
def Override.valueOf (o : Override) (text : String) : Except Fault Value :=
  if o.isInteger then (integerOfText text).map .int else .ok (.text text)

/-- Applies an override, if its variable is set. -/
def Override.apply (env : Environment) (s : Settings) (o : Override) : Except Fault Settings :=
  match env.value? o.variableName with
  | none => .ok s
  | some text => do s.set o.key (← o.valueOf text)

/-- The settings file to read: the one asked for, or else the one that the environment
names. -/
def chosenFile? (asked : Option String) (env : Environment) : Option String :=
  (asked.filter (· ≠ "")).or (env.value? fileVariable)

/-- Lays the content of the file at `path` over the built-in settings. -/
def ofFile (path : String) : Value → Except Fault Settings
  | .null => .ok defaults
  | .mapping entries => .ok (merge defaults entries)
  | v => .error (.notMapping path v.kind)

/-- Loads the settings; `readFile` gives the content of a settings file. -/
def load (asked : Option String) (env : Environment)
    (readFile : String → Except Fault Value) : Except Fault Settings := do
  let s ← match chosenFile? asked env with
    | none => pure defaults
    | some path => do ofFile path (← readFile path)
  overrides.foldlM (Override.apply env) s

end TxnLog.Settings
