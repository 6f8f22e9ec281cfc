import TxnLog.Cursor
import TxnLog.Text.Digits

/-!
# The file header

A log file starts with sixteen bytes: the magic number and the format version on four bytes
each and the identifier of the database on eight. `decode` refuses what is too short and what
has another magic number; `encode?` writes a header whose fields fit.
-/

namespace TxnLog

/-- The fixed header at the start of every log file. -/
structure FileHeader where
  /-- The mark of the file type. -/
  magic : Int
  /-- The version of the log format. -/
  version : Int
  /-- The identifier of the database the log belongs to. -/
  dbid : Int
  deriving DecidableEq, Repr

/-- Why a header is refused. -/
inductive HeaderError where
  /-- Fewer bytes than a header has. -/
  | truncated (got : Nat)
  /-- Another magic number. -/
  | wrongMagic (magic : Int)
  deriving DecidableEq, Repr

namespace FileHeader

/-- The bytes `ZKLG` as a number, which every log file starts with. -/
def magicNumber : Int := 0x5a4b4c47

/-- The number of bytes of a header. -/
def size : Nat := 16

/-- The header in the first sixteen bytes. -/
def decode (bs : Bytes) : Except HeaderError FileHeader :=
  if bs.length < size then .error (.truncated bs.length)
  else
    let magic := BigEndian.toInt (bs.take 4)
    if magic ≠ magicNumber then .error (.wrongMagic magic)
    else .ok {
      magic
      version := BigEndian.toInt ((bs.drop 4).take 4)
      dbid := BigEndian.toInt ((bs.drop 8).take 8) }

/-- The sixteen bytes of a header, if every field fits its width. -/
def encode? (h : FileHeader) : Option Bytes :=
  if BigEndian.Fits 4 h.magic ∧ BigEndian.Fits 4 h.version ∧ BigEndian.Fits 8 h.dbid then
    some (BigEndian.ofInt 4 h.magic ++ BigEndian.ofInt 4 h.version ++ BigEndian.ofInt 8 h.dbid)
  else none

/-- Reads the header at the cursor by a single read call. -/
def read (limit : CallLimit) (c : Cursor) : Except HeaderError FileHeader × Cursor :=
  let (bs, next) := c.call limit size
  (decode bs, next)

end FileHeader

/-- The text of a header error. -/
def HeaderError.message : HeaderError → String
  | .truncated got =>
    "Truncated log file header: expected " ++ Text.decimal FileHeader.size ++ " bytes, got "
      ++ Text.decimal got
  | .wrongMagic magic =>
    "Invalid magic number: expected " ++ Text.hexMarked 10 FileHeader.magicNumber ++ ", got "
      ++ Text.hexMarked 10 magic

end TxnLog
