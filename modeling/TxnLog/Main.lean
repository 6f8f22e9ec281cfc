import TxnLog.CommandLine.Program
import TxnLog.Settings.Document

/-!
# The command

`main` reads the files, the environment and the clock, and prints; what it does with them is
said in `TxnLog.CommandLine.Program`.
-/

namespace TxnLog.CommandLine

/-- How to call the program. -/
def usage : String :=
  "usage: txntail [-h] [-v] [--show-data] [--config FILE] [--log-level LEVEL]\n" ++
  "               [--log-format FORMAT] log_file"

/-- The variables that the program asks for, as they are set. -/
def readEnvironment : IO Settings.Environment := do
  let names := Settings.fileVariable :: Settings.overrides.map (·.variableName)
  let found ← names.mapM fun name => return (name, ← IO.getEnv name)
  return fun name => (found.lookup name).join

/-- What a path leads to. A path through a file cannot be opened, and a folder can be opened but
not read; only the first error names the file. -/
def readPlace (path : String) : IO Place := do
  try
    return .file (← IO.FS.readBinFile path).toList
  catch
    | .inappropriateType (some _) _ _ => return .notFolder
    | .inappropriateType none _ _ => return .folder
    | .invalidArgument (some _) _ _ => return .longName
    | _ => return .absent

/-- The settings file to read, with the value it holds. -/
def readSettingsFile (options : Options) (env : Settings.Environment) :
    IO (Except Settings.Fault Value) := do
  match Settings.chosenFile? options.config.value? env with
  | none => return .ok .null
  | some path =>
    let place ← readPlace path
    return do Settings.Document.ofBytes (← place.settingsFile path)

/-- Writes a diagnostic record. -/
def Session.write (s : Session) (r : Diagnostics.Record) : IO Unit :=
  match s.setup.format.render r with
  | .ok text => IO.eprintln text
  | .error _ => return

/-- Prints the lines and writes the reports of a tailer, which then holds none. -/
def Session.flush (s : Session) (t : Tailer) : IO Tailer := do
  IO.print (printed t.lines.toList)
  (← IO.getStdout).flush
  (t.reports.toList.filterMap s.reported?).forM s.write
  return { t with lines := #[], reports := #[], waits := #[] }

/-- A number of seconds in whole milliseconds, as many as fit into 32 bits. -/
def milliseconds : Binary64 → UInt32
  | .finite false m q =>
    UInt32.ofNat (min 0xffffffff (m * 1000 * Binary64.power 2 q / Binary64.power 2 (-q)))
  | _ => 0

/-- Tails a file from the cursor, sleeping in every wait that the waiter does not refuse. -/
partial def Session.followFile (s : Session) (c : Cursor) (t : Tailer) :
    IO (Except Tailer.Error Nat × Tailer) := do
  let (r, t) := Tailer.scan (fun _ => false) c t
  let t ← s.flush t
  match r with
  | .error e => return (.error e, t)
  | .ok (.finished records) => return (.ok records, t)
  | .ok .asleep =>
    match Tailer.Waiter.wait {} (.number (.real t.timeout)) with
    | .error f => throw (IO.userError f.message)
    | .ok _ => IO.sleep (milliseconds t.timeout)
    match Tailer.enter .rewind t with
    | (.error e, t) => return (.error e, t)
    | (.ok (), t) =>
      let content ← IO.FS.readBinFile s.path.text
      s.followFile (Cursor.seek content.toList t.offset) t

/-- Tails a file whose content at the start is given. -/
def Session.tailFile (s : Session) (content : Bytes) (t : Tailer) :
    IO (Except Tailer.Error Nat) := do
  let (r, t) ← match Tailer.start content t with
    | (.error e, t) => pure (.error e, t)
    | (.ok c, t) => s.followFile c t
  match r with
  | .ok records => return .ok records
  | .error e =>
    let (r, t) := (Tailer.settle e : Tailer.Action Nat) t
    let _ ← s.flush t
    return r

/-- Runs the program with its options; gives the exit status. -/
def runOptions (options : Options) : IO Nat := do
  let env ← readEnvironment
  let value ← readSettingsFile options env
  match Session.ofOptions options env fun _ => value with
  | .error f =>
    IO.eprintln (invalidSettings f)
    return if f.kind.isReported then ExitCode.usage.status else ExitCode.failure.status
  | .ok s =>
    let announced ← match s.announce with
      | .ok announced => pure announced
      | .error f =>
        IO.eprintln (invalidSettings f)
        return ExitCode.failure.status
    announced.toList.forM s.write
    match ← readPlace s.path.text, s.tailer with
    | .absent, _ | .notFolder, _ | .folder, _ =>
      IO.eprintln (noSuchLog s.path.text)
      return ExitCode.usage.status
    | .longName, _ =>
      IO.eprintln (invalidSettings (.longName s.path.text))
      return ExitCode.failure.status
    | .file _, .error f =>
      IO.eprintln (invalidSettings f)
      return ExitCode.failure.status
    | .file content, .ok t =>
      match conclude s (← s.tailFile content t) [] with
      | .error e =>
        IO.eprintln e.message
        return ExitCode.failure.status
      | .ok c =>
        c.notice.toList.forM (IO.eprintln ·)
        c.record.toList.forM s.write
        return c.code.status

end TxnLog.CommandLine

/-- The program. -/
def main (words : List String) : IO UInt32 := do
  match TxnLog.CommandLine.Options.parse words with
  | .error stop =>
    IO.eprintln TxnLog.CommandLine.usage
    return UInt32.ofNat stop.code.status
  | .ok options => return UInt32.ofNat (← TxnLog.CommandLine.runOptions options)
