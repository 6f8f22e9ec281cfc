import TxnLog.Archive
import TxnLog.FileHeader
import TxnLog.Frame
import TxnLog.Tailer.Phase

/-!
# How a tailing run can fail

A log can be refused in any of its layers, a wait can be interrupted, the file can be missing,
and a run that is over cannot be started again.
-/

namespace TxnLog.Tailer

/-- Why a run does not reach the end of its log. -/
inductive Error where
  /-- The file does not exist. -/
  | noSuchFile
  /-- The file does not start with a header. -/
  | header (e : HeaderError)
  /-- No frame can be where one should start. -/
  | frame (e : FrameError)
  /-- The stored checksum is not that of the payload. -/
  | checksumMismatch (offset stored computed : Nat)
  /-- The payload of a frame is no transaction. -/
  | decode (e : DecodeError)
  /-- A wait was cancelled. -/
  | interrupted (records : Nat)
  /-- The second phase may not follow the first. -/
  | invalidMove (source target : Phase)
  deriving DecidableEq, Repr

namespace Error

/-- The text of an error. -/
def message : Error → String
  | .noSuchFile => "No such file"
  | .header e => e.message
  | .frame e => e.message
  | .checksumMismatch offset stored computed =>
    "Checksum doesn't match at offset " ++ Text.decimal offset ++ ": stored "
      ++ Text.decimal stored ++ " vs computed " ++ Text.decimal computed
  | .decode e => e.message
  | .interrupted records =>
    "Tail wait interrupted after " ++ Text.decimal records ++ " txns"
  | .invalidMove source target =>
    "Invalid tailer transition " ++ source.name ++ " -> " ++ target.name

/-- The name of the kind of an error, as diagnostics show it. -/
def kind : Error → String
  | .noSuchFile => "FileNotFoundError"
  | .header (.truncated _) => "HeaderError"
  | .header (.wrongMagic _) => "InvalidMagicError"
  | .frame (.unreasonableLength ..) => "FrameError"
  | .frame (.missingTrailer _) | .frame (.wrongTrailer ..) => "PartialTransactionError"
  | .checksumMismatch .. => "ChecksumMismatchError"
  | .decode _ => "DecodeError"
  | .interrupted _ => "TailInterrupted"
  | .invalidMove .. => "RuntimeError"

/-- The error comes from the log itself and makes the run fail. -/
def isFatal : Error → Bool
  | .header _ | .frame _ | .checksumMismatch .. | .decode _ => true
  | .noSuchFile | .interrupted _ | .invalidMove .. => false

end Error

end TxnLog.Tailer
