import TxnLog.Frame
import TxnLog.Settings
import TxnLog.Settings.Integer

/-!
# The settings of a tailing run

A `Candidate` holds the four settings as they were given; `check` turns it into settings that a
run can use, or says which of them is at fault, the first one in the order of the fields.
-/

namespace TxnLog.Settings

/-- The settings of a run as given. -/
structure Candidate where
  /-- The length of a wait in milliseconds. -/
  pollMs : Value := .int 500
  /-- The length of a wait in verbose runs. -/
  verbosePollMs : Value := .int 5000
  /-- The name of the checksum. -/
  checksum : Value := .text "adler32"
  /-- The largest payload to accept. -/
  frameLimit : Value := .int Frame.defaultLimit

/-- Gives one of the settings, by its name. -/
def Candidate.give (c : Candidate) (name : String) (v : Value) : Except Fault Candidate :=
  if name = "poll_interval_ms" then .ok { c with pollMs := v }
  else if name = "verbose_poll_interval_ms" then .ok { c with verbosePollMs := v }
  else if name = "checksum" then .ok { c with checksum := v }
  else if name = "max_frame_size" then .ok { c with frameLimit := v }
  else .error .unknownSetting

/-- The settings that are given by name, the others as they are built in. -/
def Candidate.ofGiven (given : List (String × Value)) : Except Fault Candidate :=
  given.foldlM (fun c (name, v) => c.give name v) {}

/-- The settings of a run, checked. -/
structure Tailing where
  /-- The length of a wait in milliseconds. -/
  pollMs : Number
  /-- The length of a wait in verbose runs. -/
  verbosePollMs : Number
  /-- The checksum of the frames. -/
  algorithm : Checksum.Algorithm
  /-- The largest payload to accept. -/
  frameLimit : Int

/-- A value as a number; truth values count as 0 and 1. -/
def number : Value → Except Fault Number
  | .truth b => .ok (.whole (if b then 1 else 0))
  | .number n => .ok n
  | .null | .text _ | .bytes _ | .other _ | .list _ | .mapping _ => .error .notNumber

/-- The checksum that a value names. -/
def algorithm (unknown : Value → Fault) : Value → Except Fault Checksum.Algorithm
  | .text s =>
    match Checksum.Algorithm.ofName? s with
    | some a => .ok a
    | none => .error (unknown (.text s))
  | .list _ | .mapping _ => .error .notName
  | .other o => .error (if o.isKey then unknown (.other o) else .notName)
  | v => .error (unknown v)

/-- The checksum that a value names, where one is to be computed. -/
def checksumAlgorithm (v : Value) : Except Fault Checksum.Algorithm :=
  algorithm .unsupportedChecksum v

/-- An interval that is not below zero. -/
def interval (name : String) (v : Value) : Except Fault Number := do
  let n ← number v
  if n.isNegative then .error (.negativeInterval name v) else .ok n

/-- The greatest length that is within a limit. -/
def lengthWithin : Number → Int
  | .whole n => n
  | .real (.finite negative m q) => Binary64.truncate negative m q
  | .real _ => 0x80000000

/-- A limit above zero. -/
def limit (v : Value) : Except Fault Int := do
  let n ← number v
  if n.isNonPositive then .error (.nonPositiveLimit v) else .ok (lengthWithin n)

/-- Checks the settings in the order of the fields, the checksum last. -/
def Candidate.check (c : Candidate) : Except Fault Tailing := do
  let pollMs ← interval "poll_interval_ms" c.pollMs
  let verbosePollMs ← interval "verbose_poll_interval_ms" c.verbosePollMs
  let frameLimit ← limit c.frameLimit
  let algorithm ← algorithm .unknownChecksum c.checksum
  return { pollMs, verbosePollMs, algorithm, frameLimit }

/-- The name that a value stands for: its text. -/
def name (v : Value) : Except Fault String :=
  if v.isWritable then .ok v.display else .error .unwritable

/-- The settings of a run that a tree of settings holds, converted but not checked. -/
def candidate (s : Settings) : Except Fault Candidate := do
  let pollMs ← integer (s.getD "tail.poll_interval_ms" (.int 500))
  let verbosePollMs ← integer (s.getD "tail.verbose_poll_interval_ms" (.int 5000))
  let checksum ← name (s.getD "log.checksum" (.text "adler32"))
  let frameLimit ← integer (s.getD "log.max_frame_size" (.int Frame.defaultLimit))
  return {
    pollMs := .int pollMs
    verbosePollMs := .int verbosePollMs
    checksum := .text checksum
    frameLimit := .int frameLimit }

/-- The settings of a run that a tree of settings holds. -/
def tailing (s : Settings) : Except Fault Tailing := do
  (← s.candidate).check

/-- A number of milliseconds in seconds, rounded to a double. -/
def seconds : Number → Except Fault Binary64
  | .whole n =>
    match Binary64.ofIntRatio n 1000 with
    | .infinite _ => .error .longInterval
    | x => .ok x
  | .real x => .ok (x.mulRatio 1 1000)

end TxnLog.Settings
