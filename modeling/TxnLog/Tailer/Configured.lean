import TxnLog.Settings.Tailing
import TxnLog.Tailer

/-!
# Tailers from settings

A tailer waits for a number of seconds, where its settings count milliseconds. An interval of
too many milliseconds has no number of seconds, and then there is no tailer.
-/

namespace TxnLog.Settings

/-- The tailer of the log at a path that settings describe, before its first run. -/
def Tailing.tailer (t : Tailing) (path : String) (display : Display) : Except Fault Tailer := do
  let interval ← seconds t.pollMs
  let verboseInterval ← seconds t.verbosePollMs
  return {
    options := {
      path
      display
      algorithm := t.algorithm
      frameLimit := t.frameLimit
      interval
      verboseInterval } }

end TxnLog.Settings
