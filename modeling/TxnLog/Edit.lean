import TxnLog.Bytes

/-!
# Edits of a file

What a writer does to a log file while it is being followed. A write beyond the end fills the
gap with zeros, and so does a truncation to a larger size.
-/

namespace TxnLog

/-- One change of a file's content. -/
inductive Edit where
  /-- Overwrites the content from `offset` on. -/
  | write (offset : Nat) (bytes : Bytes)
  /-- Adds bytes at the end. -/
  | append (bytes : Bytes)
  /-- Cuts or extends the content to `size` bytes. -/
  | truncate (size : Nat)
  deriving DecidableEq, Repr

/-- The first `n` bytes of the content, continued by zeros. -/
def Bytes.zeroExtended (n : Nat) (content : Bytes) : Bytes :=
  content.take n ++ List.replicate (n - content.length) 0

/-- The content after an edit. -/
def Edit.apply : Edit → Bytes → Bytes
  | .write _ [], content => content
  | .write offset bytes, content =>
    Bytes.zeroExtended offset content ++ bytes ++ content.drop (offset + bytes.length)
  | .append bytes, content => content ++ bytes
  | .truncate size, content => Bytes.zeroExtended size content

end TxnLog
