import TxnLog.Calendar
import TxnLog.Number.Literal

/-!
# Timestamps

A time in milliseconds since 1970 is shown as a date and a time of day in UTC. Times outside
the years 1 to 9999 have no date and are shown as they are, if they are not too long for that
(`format`). No time of 64 bits is, and `render` shows these.
-/

namespace TxnLog

/-- A moment of the years 1 to 9999, to the millisecond. -/
structure Timestamp where
  date : Calendar.Date
  /-- Milliseconds since midnight. -/
  millis : Nat
  deriving DecidableEq, Repr

namespace Timestamp

/-- The number of milliseconds in a day. -/
def dayLength : Nat := 86400000

/-- The moment `ms` milliseconds after the start of 1970, if it has a date. -/
def ofMillis? (ms : Int) : Option Timestamp :=
  let day := ms / dayLength + Calendar.epoch
  if 0 ≤ day ∧ day < Calendar.dayLimit then
    some { date := Calendar.Date.ofOrdinal day.toNat, millis := (ms % dayLength).toNat }
  else none

/-- The number of milliseconds from the start of 1970 to the moment. -/
def toMillis (t : Timestamp) : Int :=
  ((t.date.ordinal : Int) - Calendar.epoch) * dayLength + t.millis

/-- Date and time of day; the year alone is not padded. -/
def text (t : Timestamp) : String :=
  let seconds := t.millis / 1000
  Text.decimal t.date.year ++ "-" ++ Text.decimalPadded 2 t.date.month ++ "-"
    ++ Text.decimalPadded 2 t.date.day ++ " " ++ Text.decimalPadded 2 (seconds / 3600) ++ ":"
    ++ Text.decimalPadded 2 (seconds / 60 % 60) ++ ":" ++ Text.decimalPadded 2 (seconds % 60)
    ++ "." ++ Text.decimalPadded 3 (t.millis % 1000) ++ "Z"

/-- Shows a time in milliseconds since 1970, unless it has no date and more digits than may be
written. -/
def format (ms : Int) : Except Literal.Unwritable String :=
  match ofMillis? ms with
  | some t => .ok t.text
  | none => (Literal.write ms).map fun number => "<invalid time " ++ number ++ ">"

/-- How a time in milliseconds since 1970 is shown, where it may be written. -/
def render (ms : Int) : String :=
  match ofMillis? ms with
  | some t => t.text
  | none => "<invalid time " ++ Text.decimal ms ++ ">"

end Timestamp

end TxnLog
