import TxnLog.Archive.Item
import TxnLog.Checksum
import TxnLog.CommandLine.Options
import TxnLog.CommandLine.Path
import TxnLog.CommandLine.Program
import TxnLog.Diagnostics
import TxnLog.Edit
import TxnLog.FileHeader
import TxnLog.Frame
import TxnLog.Frame.Stream
import TxnLog.Line
import TxnLog.Main
import TxnLog.Number.Literal
import TxnLog.Proofs.BigEndian
import TxnLog.Proofs.Cursor
import TxnLog.Settings.Document
import TxnLog.Settings.Load
import TxnLog.Settings.Tailing
import TxnLog.Settings.Update
import TxnLog.Tailer
import TxnLog.Tailer.Configured
import TxnLog.Tailer.Waiter
import TxnLog.Text.Base64
import TxnLog.Text.DecimalDigit
import TxnLog.Text.Quoted
import TxnLog.Text.Utf8
import TxnLog.Value
import TxnLog.Value.Json
import TxnLog.Proofs.Frame
import TxnLog.Proofs.Checksum
import TxnLog.Proofs.FileHeader
import TxnLog.Proofs.Tailer.Turn
import TxnLog.Proofs.Tailer.Run
import TxnLog.Proofs.Tailer.Waits
import TxnLog.Proofs.Tailer.Bookkeeping
import TxnLog.Proofs.Log
import TxnLog.Proofs.Tailer.Reading
import TxnLog.Proofs.Tailer.Complete
import TxnLog.Proofs.Tailer.Following
import TxnLog.Proofs.Tailer.Torn
import TxnLog.Proofs.Tailer.Damaged
import TxnLog.Proofs.Tailer.Lifecycle
import TxnLog.Proofs.Text.Utf8
import TxnLog.Proofs.Archive
import TxnLog.Proofs.Txn.Form
import TxnLog.Proofs.Txn.RoundTrip
import TxnLog.Proofs.Line
import TxnLog.Proofs.Tailer.Cancelled
import TxnLog.Proofs.Tailer.Displayed
import TxnLog.Proofs.Tailer.Bounds
import TxnLog.Proofs.Tailer.Reported
import TxnLog.Proofs.Settings
import TxnLog.Proofs.Settings.Load
import TxnLog.Proofs.Settings.Document
import TxnLog.Proofs.Frame.Outcome
import TxnLog.Proofs.Text.Breaks
import TxnLog.Proofs.Tailer.Printed
import TxnLog.Proofs.Settings.Interval
import TxnLog.Proofs.CommandLine.Exit
import TxnLog.Proofs.Settings.Obstruction
import TxnLog.Proofs.Settings.Reports
import TxnLog.Proofs.CommandLine.Faults
import TxnLog.Proofs.Archive.Delimited
import TxnLog.Proofs.Txn.Layout
import TxnLog.Proofs.Txn.Appended
import TxnLog.Proofs.Txn.Cut
import TxnLog.Proofs.Frame.Stream
import TxnLog.Proofs.Archive.Refused
import TxnLog.Proofs.Archive.Honest
import TxnLog.Proofs.Txn.Members
import TxnLog.Proofs.Txn.Bounds
import TxnLog.Proofs.Text.Digits
import TxnLog.Proofs.Text.Printable
import TxnLog.Proofs.Text.PrefixFree
import TxnLog.Proofs.Text.Quoted
import TxnLog.Proofs.Txn.Dump
import TxnLog.Proofs.Calendar
import TxnLog.Proofs.Timestamp
import TxnLog.Proofs.Txn.Summary
import TxnLog.Proofs.Checksum.Swap
import TxnLog.Proofs.Text.Utf8.WellFormed
import TxnLog.Proofs.Text.Base64
import TxnLog.Proofs.Text.Rendered
import TxnLog.Proofs.Txn.Payload
import TxnLog.Proofs.Calendar.Succession
import TxnLog.Proofs.Timestamp.Reading
import TxnLog.Proofs.Settings.Update
import TxnLog.Proofs.Archive.Forms
import TxnLog.Proofs.Archive.Performed
