import TxnLog.OpCode
import TxnLog.Text.Rendered
import TxnLog.Timestamp
import TxnLog.Txn

/-!
# Summaries

A transaction is summed up in one line: its time, the session, request and transaction numbers
in hexadecimal, the operation's name and what characterises the body. A body may also carry
data to display.
-/

namespace TxnLog

namespace TxnBody

/-- A text, or `None` in place of a null one. -/
def orNone (s : Option String) : String := s.getD "None"

/-- What characterises the body. -/
def summary : TxnBody → String
  | .createSession timeout => "timeOut:" ++ Text.decimal timeout
  | .closeSession _ => ""
  | .create path data _ _ _ | .createContainer path data _ _ | .setData path data _ =>
    "path:" ++ orNone path ++ " len:" ++ Text.decimal data.length
  | .delete path => "path:" ++ orNone path
  | .error err => "err:" ++ Text.decimal err
  | .multi txns => "len:" ++ Text.decimal txns.length
  | .unknown type _ => "unknown txn type" ++ Text.decimal type

/-- The data that the body carries, if its kind carries any. -/
def data? : TxnBody → Option Bytes
  | .create _ data _ _ _ | .createContainer _ data _ _ | .setData _ data _ => some data
  | .multi txns => some (Text.Utf8.encode ("multi txn:" ++ Text.decimal txns.length))
  | _ => none

/-- The display text of the body's data. -/
def dataText? (b : TxnBody) : Option String :=
  b.data?.map fun bs => (Text.Rendered.ofBytes bs).text

end TxnBody

namespace Txn

/-- A number as an unsigned one on 64 bits, in hexadecimal. -/
def hexId (n : Int) : String := "0x" ++ Text.hexDigits (n % 0x10000000000000000).toNat

/-- The summary line. -/
def summary (t : Txn) : String :=
  Timestamp.render t.header.time ++ " session:" ++ hexId t.header.clientId ++ " cxid:"
    ++ hexId t.header.cxid ++ " zxid:" ++ hexId t.header.zxid ++ " "
    ++ OpCode.display t.header.type ++ " " ++ t.body.summary

end Txn

end TxnLog
