import TxnLog.Attempt
import TxnLog.Line
import TxnLog.Tailer.Error
import TxnLog.Tailer.Report
import TxnLog.Tailer.Scene
import TxnLog.Txn.Decode

/-!
# Tailing a log

A tailer reads the header of a log once and then frame by frame: it verifies, decodes, prints
and counts. Where the space is not yet written it sleeps, goes back to the start of that frame
and reads again; at the end of the file it is done. Between two waits every turn uses up bytes
of the file, and every wait uses up an entry of the scene's script, so a run always ends.

`Tailer.run` gives the outcome, the tailer afterwards with all that it printed and reported,
and the scene afterwards.
-/

namespace TxnLog

/-- What a tailer is asked to do. -/
structure Tailer.Options where
  /-- The name of the file. -/
  path : String
  /-- What to print beside the summaries. -/
  display : Display := {}
  /-- The checksum of the frames. -/
  algorithm : Checksum.Algorithm := .adler32
  /-- The largest payload to accept. -/
  frameLimit : Int := Frame.defaultLimit
  /-- The length of a wait in seconds. -/
  interval : Binary64
  /-- The length of a wait in verbose runs. -/
  verboseInterval : Binary64

/-- The length of a wait with these options. -/
def Tailer.Options.timeout (o : Tailer.Options) : Binary64 :=
  if o.display.verbose then o.verboseInterval else o.interval

/-- A wait of a tailer, as it is entered. -/
structure Tailer.Wait where
  /-- Its length in seconds. -/
  timeout : Binary64
  phase : Tailer.Phase
  offset : Nat
  records : Nat

/-- A tailer and what it has done so far. -/
structure Tailer where
  options : Tailer.Options
  phase : Tailer.Phase := .init
  /-- The position of the next frame to read. -/
  offset : Nat := 0
  /-- The number of transactions emitted. -/
  records : Nat := 0
  /-- The lines printed. -/
  lines : Array Line := #[]
  /-- The diagnostics reported. -/
  reports : Array Tailer.Report := #[]
  /-- The waits entered. -/
  waits : Array Tailer.Wait := #[]

namespace Tailer

/-- Something a tailer does. -/
abbrev Action (α : Type) : Type := Attempt Tailer Error α

/-- Moves to a phase, if it may follow the present one. -/
def enter (p : Phase) : Action Unit := fun t =>
  if t.phase.canMoveTo p then (.ok (), { t with phase := p })
  else (.error (.invalidMove t.phase p), t)

/-- Prints a line. -/
def emit (line : Line) : Action Unit :=
  Attempt.modify fun t => { t with lines := t.lines.push line }

/-- Prints lines. -/
def emitAll : List Line → Action Unit
  | [] => pure ()
  | line :: more => do
    emit line
    emitAll more

/-- Reports a diagnostic. -/
def report (r : Report) : Action Unit :=
  Attempt.modify fun t => { t with reports := t.reports.push r }

/-- Moves on to the next frame to read. -/
def moveTo (offset : Nat) : Action Unit :=
  Attempt.modify fun t => { t with offset }

/-- Counts a transaction. -/
def count : Action Unit :=
  Attempt.modify fun t => { t with records := t.records + 1 }

/-- The length of a wait. -/
def timeout (t : Tailer) : Binary64 := t.options.timeout

/-- Reads and announces the header; gives the cursor after it. -/
def start (content : Bytes) : Action Cursor := do
  enter .headerRead
  match FileHeader.read .unlimited (Cursor.ofBytes content) with
  | (.error e, _) => Attempt.fail (.header e)
  | (.ok header, next) =>
    report (.headerRead (← Attempt.state).options.path header)
    emit (.banner header)
    moveTo next.position
    return next

/-- Verifies, decodes, prints and counts a frame. -/
def process (f : Frame) : Action Unit := do
  enter .frameReady
  let options := (← Attempt.state).options
  let computed := options.algorithm.compute f.payload
  if computed ≠ f.checksum then
    report (.checksumMismatch f.offset f.checksum computed options.algorithm)
    Attempt.fail (.checksumMismatch f.offset f.checksum computed)
  else
    match Txn.decode f.payload with
    | .error e => Attempt.fail (.decode e)
    | .ok txn =>
      match txn.body with
      | .unknown _ _ => report (.unknownOperation txn.header.type txn.header.zxid f.offset)
      | _ => pure ()
      enter .emit
      emitAll (Line.ofTxn options.display txn)
      count
      moveTo f.endOffset

/-- Prepares to wait for the writer at the unwritten space at `offset`. -/
def fallAsleep (offset : Nat) : Action Unit := do
  enter .tailWait
  moveTo offset
  let t ← Attempt.state
  if t.options.display.verbose then
    emit (.resetting t.records)
    report (.unwrittenTail offset t.records)
  enter .sleep
  Attempt.modify fun t =>
    { t with waits := t.waits.push ⟨t.timeout, t.phase, t.offset, t.records⟩ }

/-- Ends the run at the end of the file, `pending` bytes into a frame. -/
def finish (offset pending : Nat) : Action Nat := do
  if pending ≠ 0 then report (.partialFrame offset pending)
  enter .done
  let records := (← Attempt.state).records
  emit (.finished records)
  return records

/-- Gives up the run because it is cancelled. -/
def giveUp : Action α := do
  enter .cancelled
  let t ← Attempt.state
  report (.interrupted t.offset t.records)
  Attempt.fail (.interrupted t.records)

/-- What a look for a frame leads to. -/
inductive Turn where
  /-- A frame was emitted; the cursor is after it. -/
  | again (next : Cursor)
  /-- The tailer is asleep. -/
  | asleep
  /-- The run is done, after so many transactions. -/
  | finished (records : Nat)

/-- Looks for one frame at the cursor, unless the run is cancelled, which `cancels` tells from
the number of printed lines. -/
def turn (cancels : Nat → Bool) (c : Cursor) : Action Turn := do
  enter .frameWait
  let t ← Attempt.state
  if cancels t.lines.size then giveUp
  else
    match Frame.read .unlimited t.options.frameLimit c with
    | (.error e, _) => Attempt.fail (.frame e)
    | (.ok (.frame f), next) =>
      process f
      return .again next
    | (.ok (.emptyTail offset), _) =>
      fallAsleep offset
      return .asleep
    | (.ok (.endOfFile offset pending), _) =>
      return .finished (← finish offset pending)

/-- A turn that emits a frame uses up bytes. -/
theorem length_of_turn {cancels : Nat → Bool} {c next : Cursor} {t t' : Tailer}
    (h : turn cancels c t = (.ok (.again next), t')) : next.rest.length < c.rest.length := by
  simp only [turn, Attempt.bind_eq_ok_iff] at h
  obtain ⟨_, _, _, t₁, _, _, h⟩ := h
  split at h
  · simp only [giveUp, Attempt.bind_eq_ok_iff] at h
    obtain ⟨_, _, _, _, _, _, _, _, _, h⟩ := h
    simp at h
  · generalize hread : Frame.read _ _ c = r at h
    rcases r with ⟨e | f | offset | ⟨offset, pending⟩, after⟩
    · simp at h
    all_goals
      simp only [Attempt.bind_eq_ok_iff, Attempt.pure_eq_ok_iff] at h
      obtain ⟨_, _, _, hnext, _⟩ := h
      cases hnext
    exact Frame.length_of_read hread

/-- How a run pauses. -/
inductive Pause where
  /-- The tailer is asleep. -/
  | asleep
  /-- The run is done, after so many transactions. -/
  | finished (records : Nat)

/-- Takes turns until the tailer sleeps or the run ends. -/
def scan (cancels : Nat → Bool) (c : Cursor) : Action Pause := fun t =>
  match _h : turn cancels c t with
  | (.error e, t') => (.error e, t')
  | (.ok .asleep, t') => (.ok .asleep, t')
  | (.ok (.finished records), t') => (.ok (.finished records), t')
  | (.ok (.again next), t') => scan cancels next t'
termination_by c.rest.length
decreasing_by exact length_of_turn _h

/-- Scans from the cursor, and goes on after each wait that is not interrupted. -/
def follow (s : Scene) (c : Cursor) (t : Tailer) : Except Error Nat × Tailer × Scene :=
  match scan s.cancels c t with
  | (.error e, t') => (.error e, t', s)
  | (.ok (.finished records), t') => (.ok records, t', s)
  | (.ok .asleep, t') =>
    match _h : s.wait t'.lines.size with
    | (true, s') =>
      let (r, t'') := giveUp t'
      (r, t'', s')
    | (false, s') =>
      match enter .rewind t' with
      | (.error e, t'') => (.error e, t'', s')
      | (.ok (), t'') => follow s' (Cursor.seek s'.content t''.offset) t''
termination_by s.script.length
decreasing_by exact Scene.script_of_wait _h

/-- The tailer as it enters the next wait, if its turns from the cursor on come to one. -/
def nextAsleep? (t : Tailer) (cancels : Nat → Bool) (c : Cursor) : Option Tailer :=
  match scan cancels c t with
  | (.ok .asleep, t') => some t'
  | _ => none

/-- The tailer as it enters the first wait of a run, if the run comes to one. -/
def firstAsleep? (t : Tailer) (s : Scene) : Option Tailer :=
  match start s.content t with
  | (.error _, _) => none
  | (.ok c, t') => t'.nextAsleep? s.cancels c

/-- Ends a run that an error has stopped: a missing trailer is reported, and an error of the
log makes the run fail. -/
def settle (e : Error) : Action α := do
  match e with
  | .frame (.unreasonableLength ..) => pure ()
  | .frame cause => report (.partialTransaction (← Attempt.state).offset cause)
  | _ => pure ()
  if e.isFatal then enter .fatal
  Attempt.fail e

/-- Runs the tailer on the log of a scene, to the end of the file or an error. -/
def run (t : Tailer) (s : Scene) : Except Error Nat × Tailer × Scene :=
  if !s.present then (.error .noSuchFile, t, s)
  else
    let (outcome, t', s') : Except Error Nat × Tailer × Scene := match start s.content t with
      | (.error e, t') => (.error e, t', s)
      | (.ok c, t') => follow s c t'
    match outcome with
    | .ok records => (.ok records, t', s')
    | .error e =>
      let (r, t'') := (settle e : Action Nat) t'
      (r, t'', s')

end Tailer

end TxnLog
