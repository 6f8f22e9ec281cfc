import TxnLog.Edit
import TxnLog.Frame

/-!
# A stream of frames

A reader of frames has a stream and nothing else: the frame that it reads next is the one at the
stream's cursor. The cursor can be asked for and moved between two reads, and a writer may change
the content. Each of these is a `Use` of the stream. A read leaves the cursor where its last call
has left it, also if there is no frame, and a cursor that cannot be moved stays where it is.
-/

namespace TxnLog

/-- A byte string that can be read and changed, with a cursor. -/
structure Stream where
  /-- The bytes. -/
  content : Bytes
  /-- The position of the cursor, which may be beyond the end. -/
  position : Nat
  deriving DecidableEq, Repr

namespace Stream

/-- What is done with a stream. -/
inductive Use where
  /-- Reads what is at the cursor, with calls that fall short as the limit tells. -/
  | read (limit : CallLimit)
  /-- Asks for the position of the cursor. -/
  | tell
  /-- Moves the cursor. -/
  | rewind (position : Int)
  /-- Changes the content. -/
  | edit (e : Edit)

/-- What a use gives. -/
inductive Answer where
  /-- What a read has found. -/
  | found (result : Except FrameError Found)
  /-- The position of the cursor. -/
  | position (p : Nat)
  /-- The cursor is moved. -/
  | moved
  /-- The cursor cannot be moved. -/
  | refused (cause : Cursor.SeekError)
  /-- The content is changed. -/
  | edited

/-- What is done with a stream, by a reader of frames whose payloads have at most `most` bytes. -/
def use (most : Int) (s : Stream) : Use → Answer × Stream
  | .read limit =>
    let (result, next) := Frame.read limit most (Cursor.seek s.content s.position)
    (.found result, { s with position := next.position })
  | .tell => (.position s.position, s)
  | .rewind p =>
    match Cursor.seek? s.content p with
    | .ok c => (.moved, { s with position := c.position })
    | .error cause => (.refused cause, s)
  | .edit e => (.edited, { s with content := e.apply s.content })

/-- What is done with a stream one after the other. -/
def uses (most : Int) (s : Stream) : List Use → List Answer × Stream
  | [] => ([], s)
  | u :: us =>
    let (a, next) := s.use most u
    let (as, last) := next.uses most us
    (a :: as, last)

end Stream

end TxnLog
