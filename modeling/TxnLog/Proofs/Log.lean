import TxnLog.Proofs.Checksum
import TxnLog.Proofs.FileHeader
import TxnLog.Proofs.Frame
import TxnLog.Proofs.Tailer.Turn

/-!
# Logs as they are written

A `Log` is what a writer can put into a file for a reader with given options: the version and the
identifier of the database fit their fields, and every `LogRecord` has a payload that fits its frame
and in which there is a transaction. `Log.bytes` are the bytes of the file, the header and then
one frame for each record. The header is read back (`Log.decode_bytes`), and so is the first
record of those that are stored at a cursor (`look_stored`).
-/

namespace TxnLog

/-- A record that a writer can store for a reader with the options. -/
structure LogRecord (o : Tailer.Options) where
  /-- The serialized transaction. -/
  payload : Bytes
  /-- The transaction. -/
  txn : Txn
  /-- The payload is not empty. -/
  pos : 0 < payload.length
  /-- The length of the payload is in the reader's limit. -/
  limit : (payload.length : Int) ≤ o.frameLimit
  /-- The length of the payload fits its field. -/
  fits : 2 * payload.length < BigEndian.capacity 4
  /-- The transaction is the one in the payload. -/
  decode : Txn.decode payload = .ok txn

/-- A log that a writer can store for a reader with the options. -/
structure Log (o : Tailer.Options) where
  /-- The version of the log format. -/
  version : Int
  /-- The identifier of the database. -/
  dbid : Int
  /-- The records, in order. -/
  records : List (LogRecord o)
  /-- The version fits its field. -/
  version_fits : BigEndian.Fits 4 version
  /-- The identifier fits its field. -/
  dbid_fits : BigEndian.Fits 8 dbid

namespace LogRecord

variable {o : Tailer.Options}

/-- The frame of the record at an offset. -/
def frame (r : LogRecord o) (offset : Nat) : Frame where
  offset
  checksum := o.algorithm.compute r.payload
  payload := r.payload
  trailer := Frame.mark

/-- The record as an entry at an offset. -/
def entry (r : LogRecord o) (offset : Nat) : Entry := ⟨r.frame offset, r.txn⟩

/-- The record as it is stored, wherever it is. -/
def bytes (r : LogRecord o) : Bytes := (r.frame 0).encode

/-- The records as they are stored, one after the other. -/
def stored (records : List (LogRecord o)) : Bytes := records.flatMap bytes

/-- The entries that records are, where the first one is at the offset. -/
def entries : (offset : Nat) → List (LogRecord o) → List Entry
  | _, [] => []
  | offset, r :: records => r.entry offset :: entries (offset + r.bytes.length) records

/-- The frame of a record is stored in the same way wherever it is. -/
theorem encode_frame (r : LogRecord o) (offset : Nat) : (r.frame offset).encode = r.bytes := rfl

/-- The bytes of a record are those of its frame. -/
theorem length_bytes (r : LogRecord o) (offset : Nat) :
    r.bytes.length = (r.frame offset).size := by
  rw [← encode_frame r offset, Frame.length_encode]

/-- The frame of a record is well-formed. -/
theorem wellFormed_frame (r : LogRecord o) (offset : Nat) :
    (r.frame offset).WellFormed o.frameLimit :=
  ⟨rfl, Checksum.Algorithm.compute_lt .., r.pos, r.limit, r.fits⟩

/-- A record is a valid entry. -/
theorem valid_entry (r : LogRecord o) (offset : Nat) : (r.entry offset).Valid o :=
  ⟨r.wellFormed_frame offset, rfl, r.decode⟩

/-- The first record is stored first. -/
theorem stored_cons (r : LogRecord o) (records : List (LogRecord o)) :
    stored (r :: records) = r.bytes ++ stored records := List.flatMap_cons

/-- Records are stored one after the other. -/
theorem stored_append (records more : List (LogRecord o)) :
    stored (records ++ more) = stored records ++ stored more := List.flatMap_append

/-- Records are entries one after the other. -/
theorem entries_append (offset : Nat) (records more : List (LogRecord o)) :
    entries offset (records ++ more)
      = entries offset records ++ entries (offset + (stored records).length) more := by
  induction records generalizing offset with
  | nil => rfl
  | cons r records ih =>
    rw [List.cons_append, entries, entries, ih, List.cons_append, stored_cons,
      List.length_append, Nat.add_assoc]

/-- The transactions of the entries that records are. -/
theorem txn_entries (offset : Nat) (records : List (LogRecord o)) :
    (entries offset records).map (·.txn) = records.map (·.txn) := by
  induction records generalizing offset with
  | nil => rfl
  | cons r records ih =>
    rw [entries, List.map_cons, List.map_cons, ih]
    rfl

/-- There are as many entries as records. -/
theorem length_entries (offset : Nat) (records : List (LogRecord o)) :
    (entries offset records).length = records.length := by
  induction records generalizing offset with
  | nil => rfl
  | cons r records ih => rw [entries, List.length_cons, List.length_cons, ih]

/-- The entries take as many bytes as the stored records. -/
theorem totalSize_entries (offset : Nat) (records : List (LogRecord o)) :
    Entry.totalSize (entries offset records) = (stored records).length := by
  induction records generalizing offset with
  | nil => rfl
  | cons r records ih =>
    have hcons : Entry.totalSize (entries offset (r :: records))
        = (r.frame offset).size + Entry.totalSize (entries (offset + r.bytes.length) records) :=
      List.sum_cons
    rw [hcons, ih, stored_cons, List.length_append, r.length_bytes offset]

/-- Where a record is stored, it is seen. -/
theorem look_bytes {c : Cursor} {r : LogRecord o} {rest : Bytes}
    (hrest : c.rest = r.bytes ++ rest) : o.look c = .entry (r.entry c.position) := by
  refine Tailer.look_eq_entry_iff.mpr ⟨r.valid_entry _, rfl, ?_⟩
  have hsize : r.bytes.length = (r.entry c.position).frame.size := r.length_bytes _
  rw [Cursor.advance_rest, ← hsize, hrest, List.drop_left]
  rfl

end LogRecord

namespace Log

variable {o : Tailer.Options}

/-- The header of the log. -/
def header (log : Log o) : FileHeader := ⟨FileHeader.magicNumber, log.version, log.dbid⟩

/-- The bytes of the header. -/
def head (log : Log o) : Bytes :=
  BigEndian.ofInt 4 FileHeader.magicNumber ++ BigEndian.ofInt 4 log.version
    ++ BigEndian.ofInt 8 log.dbid

/-- The bytes of the file. -/
def bytes (log : Log o) : Bytes := log.head ++ LogRecord.stored log.records

/-- The header of a log can be written. -/
theorem encode_header (log : Log o) : log.header.encode? = some log.head := by
  have hmagic : BigEndian.Fits 4 FileHeader.magicNumber := by decide
  unfold FileHeader.encode?
  rw [if_pos ⟨hmagic, log.version_fits, log.dbid_fits⟩]
  rfl

/-- The header of a log has sixteen bytes. -/
theorem length_head (log : Log o) : log.head.length = FileHeader.size :=
  FileHeader.length_encode log.encode_header

/-- The header of a log is read back, whatever comes behind it. -/
theorem decode_head (log : Log o) (rest : Bytes) :
    FileHeader.decode (log.head ++ rest) = .ok log.header :=
  FileHeader.decode_encode rfl log.encode_header rest

end Log

/-! ### Small logs -/

/-- Options with which every wait lasts a second. -/
def Tailer.Options.plain : Tailer.Options where
  path := "log.1"
  interval := .finite false 1 0
  verboseInterval := .finite false 1 0

/-- A record of an operation without a decoder. -/
def LogRecord.plain : LogRecord .plain where
  payload := List.replicate 31 0 ++ [99, 5]
  txn := ⟨⟨0, 0, 0, 0, 99⟩, .unknown 99 [5]⟩
  pos := by decide
  limit := by decide
  fits := by decide
  decode := by
    have hheader : TxnHeader.read (Cursor.ofBytes (List.replicate 31 0 ++ [99, 5]))
        = (.ok ⟨0, 0, 0, 0, 99⟩, ⟨32, [5]⟩) := rfl
    have hbody : TxnBody.read 99 ⟨32, [5]⟩ = (.ok (.unknown 99 [5]), ⟨33, []⟩) := by
      rw [TxnBody.read]
      rfl
    have hread : Txn.read (Cursor.ofBytes (List.replicate 31 0 ++ [99, 5]))
        = (.ok ⟨⟨0, 0, 0, 0, 99⟩, .unknown 99 [5]⟩, ⟨33, []⟩) :=
      Attempt.bind_eq_ok_iff.mpr
        ⟨_, _, hheader, Attempt.bind_eq_ok_iff.mpr ⟨_, _, hbody, rfl⟩⟩
    exact congrArg Prod.fst hread

/-- A log of one record. -/
def Log.single : Log .plain where
  version := 2
  dbid := 0
  records := [.plain]
  version_fits := by decide
  dbid_fits := by decide

/-- A log of the same record twice. -/
def Log.double : Log .plain := { Log.single with records := [.plain, .plain] }

end TxnLog
