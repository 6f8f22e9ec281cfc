import TxnLog.Text.Quoted

/-!
# The phases of a tailing run

A run reads the header, then looks for a frame over and over: a frame is emitted, unwritten
space is slept on and read again, and the end of the file ends the run. A sleep can be
cancelled, and whatever is not yet over can fail.
-/

namespace TxnLog.Tailer

/-- Where a run stands. -/
inductive Phase where
  | init
  | headerRead
  | frameWait
  | frameReady
  | emit
  | tailWait
  | sleep
  | rewind
  | done
  | cancelled
  | fatal
  deriving DecidableEq, Repr

namespace Phase

/-- All phases. -/
def all : List Phase := [
  .init, .headerRead, .frameWait, .frameReady, .emit, .tailWait, .sleep, .rewind, .done,
  .cancelled, .fatal]

/-- The name of a phase. -/
def name : Phase → String
  | .init => "INIT"
  | .headerRead => "HEADER_READ"
  | .frameWait => "FRAME_WAIT"
  | .frameReady => "FRAME_READY"
  | .emit => "EMIT"
  | .tailWait => "TAIL_WAIT"
  | .sleep => "SLEEP"
  | .rewind => "REWIND"
  | .done => "DONE"
  | .cancelled => "CANCELLED"
  | .fatal => "FATAL"

/-- The phase with the given name. -/
def ofName? (s : String) : Option Phase := all.find? (·.name == s)

/-- What is said of a name that no phase has. -/
def unknownName (s : String) : String :=
  Text.Quoted.text s ++ " is not a valid TailerState"

/-- The run is over. -/
def isTerminal : Phase → Bool
  | .done | .cancelled | .fatal => true
  | _ => false

/-- The phases that may follow a phase, failure apart. -/
def successors : Phase → List Phase
  | .init => [.headerRead]
  | .headerRead => [.frameWait]
  | .frameWait => [.frameReady, .tailWait, .done, .cancelled]
  | .frameReady => [.emit]
  | .emit => [.frameWait]
  | .tailWait => [.sleep]
  | .sleep => [.rewind, .cancelled]
  | .rewind => [.frameWait]
  | .done | .cancelled | .fatal => []

/-- Phase `p` may be followed by `q`. -/
def canMoveTo (p q : Phase) : Bool :=
  if q = .fatal then !p.isTerminal else p.successors.contains q

end Phase

end TxnLog.Tailer
