/-!
# Levels of diagnostics

Diagnostic records are graded by level, and records below a chosen level are dropped.
-/

namespace TxnLog.Diagnostics

/-- The levels, from the least to the most severe. -/
inductive Level where
  | debug
  | info
  | warning
  | error
  | critical
  deriving DecidableEq, Repr

namespace Level

/-- All levels in ascending order. -/
def all : List Level := [.debug, .info, .warning, .error, .critical]

/-- The severity of a level. -/
def severity : Level → Nat
  | .debug => 10
  | .info => 20
  | .warning => 30
  | .error => 40
  | .critical => 50

/-- The name of a level in a record. -/
def name : Level → String
  | .debug => "debug"
  | .info => "info"
  | .warning => "warning"
  | .error => "error"
  | .critical => "critical"

/-- The name of a level in the settings. -/
def settingName : Level → String
  | .debug => "DEBUG"
  | .info => "INFO"
  | .warning => "WARNING"
  | .error => "ERROR"
  | .critical => "CRITICAL"

/-- The level with the given name in the settings. -/
def ofSettingName? (s : String) : Option Level := all.find? (·.settingName == s)

/-- Further names under which events are reported at a level. -/
def aliases : List (String × Level) :=
  [("warn", .warning), ("exception", .error), ("fatal", .critical)]

/-- The level at which events are reported under the given name. -/
def ofName? (s : String) : Option Level := (all.find? (·.name == s)).or (aliases.lookup s)

/-- Records of level `l` are kept where the chosen level is `chosen`. -/
def isKept (chosen l : Level) : Bool := chosen.severity ≤ l.severity

end Level

end TxnLog.Diagnostics
