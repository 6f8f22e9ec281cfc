import TxnLog.FileHeader
import TxnLog.Txn.Dump
import TxnLog.Txn.Summary

/-!
# Lines of the history

What is printed for a log: a banner, for each transaction its summary and on request its data
and a dump, a note each time the end of what is written is met, and a note at the end of the
file. A `Line` keeps what it is about; its text is one line only if no text in it holds a line
break.
-/

namespace TxnLog

/-- What to print of a transaction beside its summary. -/
structure Display where
  /-- Print the data of bodies that carry some. -/
  showData : Bool := false
  /-- Print a dump of the body, and announce waits. -/
  verbose : Bool := false
  deriving DecidableEq, Repr

/-- One printed line. -/
inductive Line where
  /-- The first line, about the file header. -/
  | banner (header : FileHeader)
  /-- The summary of a transaction. -/
  | summary (txn : Txn)
  /-- The display text of a transaction's data. -/
  | data (text : String)
  /-- The dump of a transaction's body. -/
  | dump (body : TxnBody)
  /-- The reader is about to wait, after so many transactions. -/
  | resetting (records : Nat)
  /-- The reader is done, after so many transactions. -/
  | finished (records : Nat)

namespace Line

/-- The text of a line, without the line break. -/
def text : Line → String
  | .banner h =>
    "Transactional log file with dbid " ++ Text.decimal h.dbid ++ " txnlog format version "
      ++ Text.decimal h.version
  | .summary t => t.summary
  | .data s => s
  | .dump b => b.dump
  | .resetting n => "EOF reached after " ++ Text.decimal n ++ " txns. Resetting."
  | .finished n => "EOF reached after " ++ Text.decimal n ++ " txns."

/-- The lines of a transaction: summary, data and dump, in this order. -/
def ofTxn (d : Display) (t : Txn) : List Line :=
  .summary t ::
    ((if d.showData then t.body.dataText?.toList.map .data else [])
      ++ (if d.verbose then [.dump t.body] else []))

end Line

/-- The printed text of some lines, each ended by a line break. -/
def printed (lines : List Line) : String :=
  String.join (lines.map fun l => l.text ++ "\n")

end TxnLog
