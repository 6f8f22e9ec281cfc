import TxnLog.Attempt
import TxnLog.Cursor
import TxnLog.Text.Utf8

/-!
# The record archive

Inside a frame a transaction is an archive of primitive fields without marks between them:
bytes, booleans, four-byte and eight-byte integers, and buffers, texts and vectors behind a
four-byte length, of which -1 means null. A reader is a function of the cursor and gives the
cursor afterwards also when it fails, so that what may follow a failure is defined.
-/

namespace TxnLog

/-- Why a record cannot be read; `tag` names the field that was being read. -/
inductive DecodeError where
  /-- There is no record at all. -/
  | emptyPayload
  /-- The archive ends inside a field. -/
  | endOfRecord (tag : String) (need position left : Nat)
  /-- A buffer's length is below -1. -/
  | bufferLength (length : Int) (tag : String)
  /-- A vector's count is below -1. -/
  | vectorLength (count : Int) (tag : String)
  /-- A text is not UTF-8. -/
  | text (fault : Text.Utf8.Fault) (tag : String)
  deriving DecidableEq, Repr

/-- The text of a decode error. -/
def DecodeError.message : DecodeError → String
  | .emptyPayload => "Empty transaction payload"
  | .endOfRecord tag need position left =>
    "Unexpected end of record reading " ++ tag ++ ": need " ++ Text.decimal need
      ++ " bytes at position " ++ Text.decimal position ++ ", " ++ Text.decimal left ++ " left"
  | .bufferLength length tag =>
    "Invalid buffer length " ++ Text.decimal length ++ " reading " ++ tag
  | .vectorLength count tag =>
    "Invalid vector length " ++ Text.decimal count ++ " reading " ++ tag
  | .text fault tag => "Invalid UTF-8 reading " ++ tag ++ ": " ++ fault.message

namespace Archive

/-- Reads a value at the cursor, which it leaves after what was read, or after where the read
failed. -/
abbrev Reader (α : Type) : Type := Attempt Cursor DecodeError α

/-- The number of unread bytes. -/
def remaining : Reader Nat := fun c => (.ok c.rest.length, c)

/-- Reads `n` bytes, or fails and reads none. -/
def take (tag : String) (n : Nat) : Reader Bytes := fun c =>
  let got := c.rest.take n
  if got.length < n then (.error (.endOfRecord tag n c.position c.rest.length), c)
  else (.ok got, c.advance n)

/-- Reads all unread bytes. -/
def rest : Reader Bytes := fun c => (.ok c.rest, c.advance c.rest.length)

/-- Reads one byte as a number. -/
def byte (tag : String) : Reader Nat := do
  return BigEndian.toNat (← take tag 1)

/-- Reads one byte, of which every value but zero is true. -/
def bool (tag : String) : Reader Bool := do
  return BigEndian.toNat (← take tag 1) != 0

/-- Reads a four-byte integer. -/
def int (tag : String) : Reader Int := do
  return BigEndian.toInt (← take tag 4)

/-- Reads an eight-byte integer. -/
def long (tag : String) : Reader Int := do
  return BigEndian.toInt (← take tag 8)

/-- Reads a length and that many bytes; the length -1 means null. -/
def buffer (tag : String) : Reader (Option Bytes) := do
  let length ← int tag
  if length = -1 then return none
  else if length < 0 then Attempt.fail (.bufferLength length tag)
  else return some (← take tag length.toNat)

/-- Reads a buffer as UTF-8. -/
def string (tag : String) : Reader (Option String) := do
  match ← buffer tag with
  | none => return none
  | some raw =>
    match Text.Utf8.decode raw with
    | .ok s => return some s
    | .error fault => Attempt.fail (.text fault tag)

/-- Reads `count` elements behind those of `done`, which are latest first. -/
def elements (element : Reader α) (count : Nat) (done : List α) : Reader (List α) := fun c =>
  match count with
  | 0 => (.ok done.reverse, c)
  | count + 1 =>
    match element c with
    | (.ok a, next) => elements element count (a :: done) next
    | (.error e, next) => (.error e, next)

/-- Reads a count and that many elements; the count -1 means null and reads as no elements. -/
def vector (tag : String) (element : Reader α) : Reader (List α) := do
  let count ← int tag
  if count = -1 then return []
  else if count < 0 then Attempt.fail (.vectorLength count tag)
  else elements element count.toNat []

end Archive

end TxnLog
