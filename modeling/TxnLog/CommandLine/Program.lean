import TxnLog.CommandLine.Options
import TxnLog.CommandLine.Path
import TxnLog.Diagnostics
import TxnLog.Settings.Load
import TxnLog.Tailer.Configured
import TxnLog.Tailer.Waiter

/-!
# The program

The program reads its command line, loads the settings and lays the options over them, looks
for the log file and tails it. `Session.ofOptions` does what comes before the log is opened,
`conclude` what comes after it is read; `run` does all of it in a `World` in which everything
that can happen is given. The exit code is 0 when the end of the log was reached, 1 when the
log is faulty, 2 when there is nothing to tail, and 130 when a wait was interrupted.
-/

namespace TxnLog.CommandLine

open Diagnostics (Level Record Setup)
open Settings (Fault)
open Tailer (Signal)

/-- What the options and the settings come to. -/
structure Session where
  options : Options
  /-- The settings, the options laid over them. -/
  settings : Settings
  /-- The settings of the run. -/
  tailing : Settings.Tailing
  /-- How diagnostics are written. -/
  setup : Setup

/-- The name of the program's logger. -/
def ownLogger : String := "txntail"

/-- Lays an option over a setting, if it is given a value that is not empty. -/
def override (s : Settings) (key : String) (option : Given) : Except Fault Settings :=
  match option.value?.filter (· ≠ "") with
  | none => .ok s
  | some value => s.set key (.text value)

namespace Session

/-- What options come to in an environment; `readSettings` gives the value that a settings file
holds. -/
def ofOptions (options : Options) (env : Settings.Environment)
    (readSettings : String → Except Fault Value) : Except Fault Session := do
  let settings ← Settings.load options.config.value? env readSettings
  let settings ← override settings "logging.level" options.logLevel
  let settings ← override settings "logging.format" options.logFormat
  let tailing ← settings.tailing
  let setup ← Setup.ofValues (settings.getD "logging.level" .null)
    (settings.getD "logging.format" .null) (.text "stderr")
  return { options, settings, tailing, setup }

/-- The path of the log file. -/
def path (s : Session) : Path := .ofString s.options.logFile

/-- A record of the program itself, if its level is kept. -/
def record? (s : Session) (level : Level) (event : String) (fields : Record) : Option Record :=
  s.setup.record? ownLogger level event fields

/-- Announces the settings in use; gives the record of that, if its level is kept. Settings with
an integer that may not be written cannot be announced, nor as JSON such with a foreign key. -/
def announce (s : Session) : Except Fault (Option Record) :=
  match s.setup.report ownLogger .debug (.text "Loaded configuration")
      [("config", .mapping s.settings)] with
  | .ok record => .ok record
  | .error .foreignKey => .error .foreignKey
  | .error _ => .error .unwritable

/-- The record of a report of the tailer: the path comes first among its fields. -/
def reported? (s : Session) (r : Tailer.Report) : Option Record :=
  s.record? r.level r.event
    (r.fields.foldl (fun fields (name, v) => Settings.put name v fields)
      [("path", .text s.path.text)])

/-- The tailer of the session, before its run. -/
def tailer (s : Session) : Except Fault Tailer :=
  s.tailing.tailer s.path.text ⟨s.options.showData, s.options.verbose⟩

end Session

/-- What the program says of settings that cannot be used. -/
def invalidSettings (f : Fault) : String := "Invalid configuration: " ++ f.message

/-- What the program says of a log that is no file. -/
def noSuchLog (path : String) : String := "No such log file: " ++ path

/-- How a run of the tailer ends the program. -/
structure Conclusion where
  code : ExitCode
  /-- What is said on the standard error. -/
  notice : Option String := none
  /-- The last diagnostic record. -/
  record : Option Record := none

/-- How a run that ends so ends the program, when `signals` have arrived; an error if it is not
prepared for that. -/
def conclude (s : Session) (outcome : Except Tailer.Error Nat) (signals : List Signal) :
    Except Tailer.Error Conclusion :=
  let path := s.path.text
  match outcome with
  | .ok _ => .ok { code := .success }
  | .error (.header (.wrongMagic _)) =>
    .ok { code := .usage, notice := some ("Invalid magic number for " ++ path) }
  | .error (.header e) =>
    .ok {
      code := .usage
      notice := some ("Invalid log file header for " ++ path ++ ": " ++ e.message) }
  | .error (.interrupted records) =>
    let signal := match signals with
      | [] => .null
      | first :: _ => .text first.name
    .ok {
      code := .interrupted
      record := s.record? .warning "Stopped tailing"
        [("records", .int records), ("signal", signal)] }
  | .error .noSuchFile => .error .noSuchFile
  | .error (.invalidMove source target) => .error (.invalidMove source target)
  | .error e =>
    .ok {
      code := .failure
      record := s.record? .error "Tailing failed"
        [("error", .text e.message), ("error_type", .text e.kind)] }

/-- The bytes of the settings file at a place that the text `path` leads to. -/
def Place.settingsFile (path : String) (place : Place) : Except Fault Bytes :=
  if path.toList.contains '\x00' then .error .unusableName
  else
    match place with
    | .absent => .error (.missingFile path)
    | .longName => .error (.longName path)
    | .notFolder => .error (.notDirectory path)
    | .folder => .error (.isDirectory path)
    | .file content => .ok content

/-- The arrival of a signal while the program does not wait. -/
structure Arrival where
  signal : Signal
  /-- The number of lines that are printed when it arrives. -/
  lines : Nat
  deriving DecidableEq, Repr

/-- What the program runs in. -/
structure World where
  /-- The variables of the environment. -/
  environment : Settings.Environment
  /-- The value that a settings file holds. -/
  readSettings : String → Except Fault Value
  /-- The files and folders. -/
  folder : Folder
  /-- What happens in each of the coming waits. -/
  script : List (List Tailer.Act) := []
  /-- A signal that arrives outside the waits, if one does. -/
  arrival : Option Arrival := none
  /-- The program sleeps with a waiter of its own. Otherwise something stands in for it that goes
  by the script alone. -/
  hasWaiter : Bool := true

namespace World

/-- The surroundings of a run on a log with this content. -/
def scene (w : World) (content : Bytes) : Tailer.Scene :=
  match w.arrival with
  | none => { content, script := w.script }
  | some a =>
    { content, script := w.script, cancelled := a.lines == 0, cancelAfter := a.lines }

/-- The signals that have arrived when a run is over that printed so many lines; `waited` are
those that arrived in its waits. -/
def received (w : World) (lines : Nat) (waited : List Signal) : List Signal :=
  (w.arrival.filter (·.lines ≤ lines)).toList.map (·.signal) ++ waited

/-- Why the waiter refuses the first wait of a run, if it does, and the tailer that asks for it. All
waits of a run are equally long, and a waiter that is cancelled refuses none. -/
def refusal? (w : World) (t : Tailer) (content : Bytes) : Option (Tailer.Waiter.Fault × Tailer) :=
  if w.hasWaiter then
    (t.firstAsleep? (w.scene content)).bind fun asleep =>
      let waiter : Tailer.Waiter := ⟨(w.scene content).cancels asleep.lines.size⟩
      match waiter.wait (.number (.real asleep.timeout)) with
      | .ok _ => none
      | .error f => some (f, asleep)
  else none

end World

/-- What the program leaves behind when it exits. -/
structure Exit where
  code : ExitCode
  /-- What is said on the standard error. -/
  notices : List String := []
  /-- How diagnostics were written, if the settings could be used. -/
  setup : Option Setup := none
  /-- The diagnostic records. -/
  records : List Record := []
  /-- The tailer after its run, if there was one. -/
  tailer : Option Tailer := none

/-- How the program ends. -/
inductive Outcome where
  /-- The command line asks for nothing that could be done. -/
  | stopped (s : Stop)
  /-- The settings or the name of the log have a fault that the program is not prepared for. -/
  | faulty (f : Fault) (e : Exit)
  /-- The run fails in a way that the program is not prepared for. -/
  | failed (cause : Tailer.Error) (e : Exit)
  /-- The waiter refuses a wait of the run, which the program is not prepared for. -/
  | refused (f : Tailer.Waiter.Fault) (e : Exit)
  /-- The program ends as it should. -/
  | exited (e : Exit)

/-- Tails the log with this content, as a session demands, after the records `announced`. -/
def Session.follow (s : Session) (announced : List Record) (content : Bytes) (w : World) :
    Outcome :=
  match s.tailer with
  | .error f => .faulty f { code := .failure, setup := some s.setup, records := announced }
  | .ok before =>
    let recordsOf (t : Tailer) : List Record :=
      announced ++ t.reports.toList.filterMap s.reported?
    match w.refusal? before content with
    | some (f, asleep) => .refused f {
        code := .failure
        setup := some s.setup
        records := recordsOf asleep
        tailer := some asleep }
    | none =>
      let (outcome, tailer, scene) := before.run (w.scene content)
      match conclude s outcome (w.received tailer.lines.size scene.signals) with
      | .error cause => .failed cause {
          code := .failure
          setup := some s.setup
          records := recordsOf tailer
          tailer := some tailer }
      | .ok c => .exited {
          code := c.code
          notices := c.notice.toList
          setup := some s.setup
          records := recordsOf tailer ++ c.record.toList
          tailer := some tailer }

/-- Runs the program with the words of a command line. -/
def run (words : List String) (w : World) : Outcome :=
  match Options.parse words with
  | .error stop => .stopped stop
  | .ok options =>
    match Session.ofOptions options w.environment w.readSettings with
    | .error f =>
      if f.kind.isReported then .exited { code := .usage, notices := [invalidSettings f] }
      else .faulty f { code := .failure }
    | .ok s =>
      match s.announce with
      | .error f => .faulty f { code := .failure, setup := some s.setup }
      | .ok announced =>
        match w.folder.find s.path with
        | .file content => s.follow announced.toList content w
        | .longName => .faulty (.longName s.path.text) {
            code := .failure
            setup := some s.setup
            records := announced.toList }
        | .absent | .notFolder | .folder => .exited {
            code := .usage
            notices := [noSuchLog s.path.text]
            setup := some s.setup
            records := announced.toList }

end TxnLog.CommandLine
