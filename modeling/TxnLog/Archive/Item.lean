import TxnLog.Txn.Decode

/-!
# Requests to an archive

A `Request` names one read of an archive, of any kind and nesting, and `Item` what it gives, so
that sequences of reads are data. The reads of a sequence share one cursor (`perform`).
-/

namespace TxnLog.Archive

/-- One read of an archive. -/
inductive Request where
  | byte (tag : String)
  | bool (tag : String)
  | int (tag : String)
  | long (tag : String)
  | buffer (tag : String)
  | string (tag : String)
  /-- A vector whose elements are read by a request of their own. -/
  | vector (tag : String) (element : Request)
  | acl
  | rest
  | remaining
  deriving Repr, Inhabited

/-- What a read gives. -/
inductive Item where
  | number (n : Int)
  | truth (b : Bool)
  | bytes (bs : Option Bytes)
  | text (s : Option String)
  | acl (a : Acl)
  | list (items : List Item)

/-- Applies a function to what a reader gives. -/
def Reader.map (f : α → β) (r : Reader α) : Reader β := do return f (← r)

/-- Performs the read. -/
def Request.run : Request → Reader Item
  | .byte tag => (Archive.byte tag).map fun n => .number n
  | .bool tag => (Archive.bool tag).map .truth
  | .int tag => (Archive.int tag).map .number
  | .long tag => (Archive.long tag).map .number
  | .buffer tag => (Archive.buffer tag).map .bytes
  | .string tag => (Archive.string tag).map .text
  | .vector tag element => (Archive.vector tag element.run).map .list
  | .acl => Acl.read.map .acl
  | .rest => Archive.rest.map fun bs => .bytes (some bs)
  | .remaining => Archive.remaining.map fun n => .number n

/-- A read that was performed. -/
structure Performed where
  /-- What was read for. -/
  request : Request
  /-- The position of the cursor before the read. -/
  start : Nat
  /-- What the read has given. -/
  result : Except DecodeError Item
  /-- The position of the cursor after the read. -/
  stop : Nat

/-- Performs reads one after the other. Each goes on where the one before it has left the cursor,
also if that has failed. -/
def perform : List Request → Cursor → List Performed
  | [], _ => []
  | request :: requests, c =>
    let (result, next) := request.run c
    ⟨request, c.position, result, next.position⟩ :: perform requests next

end TxnLog.Archive
