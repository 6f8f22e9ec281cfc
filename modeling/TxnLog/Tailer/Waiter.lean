import TxnLog.Value

/-!
# Waits that can be cancelled

A waiter sleeps for a number of seconds and tells afterwards whether it was cancelled. Once it
is cancelled it does not sleep any more, and does not even look at the number of seconds.
-/

namespace TxnLog.Tailer

/-- A wait that can be cancelled. -/
structure Waiter where
  /-- It is cancelled, and stays so. -/
  cancelled : Bool := false
  deriving DecidableEq, Repr

namespace Waiter

/-- Why a waiter does not sleep. -/
inductive Fault where
  /-- The number of seconds is below zero. -/
  | negative
  /-- The number of nanoseconds does not fit into 64 bits. -/
  | tooLong
  /-- The number of seconds is the double that is not a number. -/
  | nan
  /-- What is given as the number of seconds is no number. -/
  | notNumber
  deriving DecidableEq, Repr

/-- The text of a fault. -/
def Fault.message : Fault → String
  | .negative => "timeout must be non-negative"
  | .tooLong => "timeout is too large"
  | .nan => "Invalid value NaN (not a number)"
  | .notNumber => "timeout must be a number"

/-- The number of nanoseconds in as many seconds does not fit into 64 bits. -/
def isTooLong : Number → Bool
  | .whole n => n * 1000000000 < -0x8000000000000000 || 0x8000000000000000 ≤ n * 1000000000
  | .real (.finite _ m q) =>
    0x8000000000000000 * Binary64.power 2 (-q) ≤ m * Binary64.power 2 q * 1000000000
  | .real _ => true

/-- The waiter after it is cancelled. -/
def cancel (w : Waiter) : Waiter := { w with cancelled := true }

/-- Sleeps for so many seconds, while nobody cancels; tells whether the waiter is cancelled. -/
def wait (w : Waiter) (timeout : Value) : Except Fault Bool :=
  if w.cancelled then .ok true
  else
    match timeout with
    | .truth _ => .ok false
    | .number (.real .nan) => .error .nan
    | .number n =>
      if isTooLong n then .error .tooLong
      else if n.isNegative then .error .negative
      else .ok false
    | .null | .text _ | .bytes _ | .other _ | .list _ | .mapping _ => .error .notNumber

end Waiter

end TxnLog.Tailer
