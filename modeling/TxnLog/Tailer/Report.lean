import TxnLog.Checksum
import TxnLog.Diagnostics.Level
import TxnLog.FileHeader
import TxnLog.Frame
import TxnLog.Value

/-!
# What a tailing run reports

Beside the history a run reports diagnostics: what it reads, what it does not know, and why it
ends other than at the end of the file.
-/

namespace TxnLog.Tailer

open Diagnostics (Level)

/-- A diagnostic report of a run. -/
inductive Report where
  /-- The header of the file is read. -/
  | headerRead (path : String) (header : FileHeader)
  /-- A transaction of an operation without a decoder. -/
  | unknownOperation (type zxid : Int) (offset : Nat)
  /-- A frame whose payload does not have the stored checksum. -/
  | checksumMismatch (offset stored computed : Nat) (algorithm : Checksum.Algorithm)
  /-- A frame without the trailer; the offset is that of the frame. -/
  | partialTransaction (offset : Nat) (error : FrameError)
  /-- The run has caught up with the writer. -/
  | unwrittenTail (offset records : Nat)
  /-- The run is cancelled. -/
  | interrupted (offset records : Nat)
  /-- The file ends inside a frame. -/
  | partialFrame (offset pending : Nat)
  deriving DecidableEq, Repr

namespace Report

/-- The level of a report. -/
def level : Report → Level
  | .headerRead .. | .unknownOperation .. => .debug
  | .unwrittenTail .. => .info
  | .interrupted .. | .partialFrame .. => .warning
  | .checksumMismatch .. | .partialTransaction .. => .error

/-- What a report says. -/
def event : Report → String
  | .headerRead .. => "Read log file header"
  | .unknownOperation .. => "Unknown operation code"
  | .checksumMismatch .. => "Checksum mismatch"
  | .partialTransaction .. => "Last transaction was partial"
  | .unwrittenTail .. => "Reached unwritten tail"
  | .interrupted .. => "Tailing interrupted"
  | .partialFrame .. => "Partial frame at end of file"

/-- The details of a report. -/
def fields : Report → List (Key × Value)
  | .headerRead path h =>
    [("path", .text path), ("dbid", .int h.dbid), ("version", .int h.version)]
  | .unknownOperation type zxid offset =>
    [("type", .int type), ("zxid", .int zxid), ("offset", .int offset)]
  | .checksumMismatch offset stored computed algorithm =>
    [("offset", .int offset), ("stored", .int stored), ("computed", .int computed),
      ("algorithm", .text algorithm.name)]
  | .partialTransaction offset e => [("offset", .int offset), ("error", .text e.message)]
  | .unwrittenTail offset records | .interrupted offset records =>
    [("offset", .int offset), ("records", .int records)]
  | .partialFrame offset pending => [("offset", .int offset), ("pending_bytes", .int pending)]

end Report

end TxnLog.Tailer
