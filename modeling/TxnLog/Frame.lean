import TxnLog.Cursor
import TxnLog.Text.Digits

/-!
# Frames

After the file header a log is a sequence of frames, each an eight-byte checksum, a four-byte
payload length, the payload and a trailer byte. The writer extends the file with zeros ahead of
time, so a length of zero marks the space that is not yet written, and the end of the file
inside a frame only means that the frame is still being written. A length that no frame can
have and a wrong byte in the trailer's place are errors.
-/

namespace TxnLog

/-- One record of the log, as stored. -/
structure Frame where
  /-- The position of the frame's first byte. -/
  offset : Nat
  /-- The stored checksum. -/
  checksum : Nat
  /-- The serialized transaction. -/
  payload : Bytes
  /-- The byte after the payload. -/
  trailer : UInt8
  deriving DecidableEq, Repr

/-- What a reader finds at the cursor. -/
inductive Found where
  /-- A complete frame. -/
  | frame (f : Frame)
  /-- Space that is not yet written. -/
  | emptyTail (offset : Nat)
  /-- The end of the file, `pending` bytes into a frame. -/
  | endOfFile (offset pending : Nat)
  deriving DecidableEq, Repr

/-- Why no frame can be at the cursor. -/
inductive FrameError where
  /-- A length that is negative or over the limit. -/
  | unreasonableLength (length : Int) (offset : Nat)
  /-- The file ends right after the payload. -/
  | missingTrailer (offset : Nat)
  /-- Another byte in the trailer's place. -/
  | wrongTrailer (byte : UInt8) (offset : Nat)
  deriving DecidableEq, Repr

/-- The text of a frame error. -/
def FrameError.message : FrameError → String
  | .unreasonableLength length offset =>
    "Unreasonable frame length " ++ Text.decimal length ++ " at offset " ++ Text.decimal offset
  | .missingTrailer offset =>
    "Last transaction was partial: missing trailer at offset " ++ Text.decimal offset
  | .wrongTrailer byte offset =>
    "Last transaction was partial: trailer " ++ Text.hexMarked 4 byte.toNat ++ " at offset "
      ++ Text.decimal offset

namespace Frame

/-- The trailer of every frame, the letter `B`. -/
def mark : UInt8 := 0x42

/-- The number of bytes before the payload: checksum and length. -/
def prefixSize : Nat := 12

/-- The largest payload that the default settings accept. -/
def defaultLimit : Int := 1049599

/-- The number of bytes the frame takes in the file. -/
def size (f : Frame) : Nat := prefixSize + f.payload.length + 1

/-- The position after the frame. -/
def endOffset (f : Frame) : Nat := f.offset + f.size

/-- The frame as it is stored. -/
def encode (f : Frame) : Bytes :=
  BigEndian.ofNat 8 f.checksum ++ BigEndian.ofNat 4 f.payload.length ++ f.payload ++ [f.trailer]

/-- Reads what is at the cursor; `limit` bounds single read calls and `most` the payload. -/
def read (limit : CallLimit) (most : Int) (c : Cursor) : Except FrameError Found × Cursor :=
  let (head, c₁) := c.read limit prefixSize
  if head.length < prefixSize then (.ok (.endOfFile c.position head.length), c₁)
  else
    let length := BigEndian.toInt (head.drop 8)
    if length = 0 then (.ok (.emptyTail c.position), c₁)
    else if length < 0 ∨ most < length then
      (.error (.unreasonableLength length c.position), c₁)
    else
      let (payload, c₂) := c₁.read limit length.toNat
      if payload.length < length.toNat then
        (.ok (.endOfFile c.position (prefixSize + payload.length)), c₂)
      else
        let (last, c₃) := c₂.read limit 1
        match last with
        | [] => (.error (.missingTrailer (c.position + prefixSize + length.toNat)), c₃)
        | byte :: _ =>
          if byte ≠ mark then
            (.error (.wrongTrailer byte (c.position + prefixSize + length.toNat)), c₃)
          else
            (.ok (.frame {
              offset := c.position
              checksum := BigEndian.toNat (head.take 8)
              payload
              trailer := byte }), c₃)

/-- Reading a frame uses up as many bytes as the frame takes. -/
theorem length_of_read {limit : CallLimit} {most : Int} {c next : Cursor} {f : Frame}
    (h : read limit most c = (.ok (.frame f), next)) : next.rest.length < c.rest.length := by
  simp only [read] at h
  have h₁ := Cursor.length_of_read limit prefixSize c
  split at h
  · simp at h
  · next hprefix =>
    split at h
    · simp at h
    · split at h
      · simp at h
      · split at h
        · simp at h
        · split at h
          · simp at h
          · split at h
            · simp at h
            · simp only [Prod.mk.injEq] at h
              rw [← h.2]
              have h₂ := Cursor.length_of_read limit
                (BigEndian.toInt ((c.read limit prefixSize).1.drop 8)).toNat
                (c.read limit prefixSize).2
              have h₃ := Cursor.length_of_read limit 1
                ((c.read limit prefixSize).2.read limit
                  (BigEndian.toInt ((c.read limit prefixSize).1.drop 8)).toNat).2
              simp only [prefixSize] at *
              omega

end Frame

end TxnLog
