import TxnLog.Settings.Fault

/-!
# The text of a settings file

A settings file is read in pieces and decoded as it is read: bytes at the end of a piece that
start a character are kept for the next one. Where the bytes are no UTF-8, the fault gives their
positions counted from the start of the piece, or of what was kept for it. Line breaks of all
systems become line feeds. The decoded text is taken in blocks, and a block with a fault in it
is not seen at all; `Source.text` gives the text of the blocks before it, and the fault.
-/

namespace TxnLog.Settings.Document

/-- What remains to be taken of a settings file. -/
structure Source where
  /-- The bytes that are not read yet. -/
  bytes : Bytes
  /-- The bytes at the end of the last piece that start a character. -/
  kept : Bytes := []
  /-- The last piece ended with a carriage return, which a line feed may follow. -/
  afterReturn : Bool := false
  /-- The characters that are decoded and not taken yet. -/
  ready : List Char := []
  /-- The numbers of bytes and of characters of the last piece. -/
  density : Nat × Nat := (1, 1)

namespace Source

/-- The least number of bytes in a piece, unless the file ends. -/
def leastPiece : Nat := 8192

/-- The number of characters in a block, unless the file ends. -/
def blockSize : Nat := 4096

/-- The first two bytes of three that would encode a surrogate. Those are no character, but that
is noticed only when the third byte is there. -/
def isCutSurrogate : Bytes → Bool
  | [a, b] => a = 0xed && 0xa0 ≤ b && b ≤ 0xbf
  | _ => false

/-- The characters of a piece, and the bytes that are kept for the next one. -/
def decode (bs : Bytes) : Except Text.Utf8.Fault (List Char × Bytes) :=
  match Text.Utf8.decode bs with
  | .ok s => .ok (s.toList, [])
  | .error f =>
    if f.reason = .unexpectedEnd ∨ isCutSurrogate (bs.drop f.start) then
      (Text.Utf8.decode (bs.take f.start)).map fun s => (s.toList, bs.drop f.start)
    else .error f

/-- Characters with line feeds as their line breaks. -/
def unified : List Char → List Char
  | [] => []
  | '\r' :: '\n' :: cs => '\n' :: unified cs
  | '\r' :: cs => '\n' :: unified cs
  | c :: cs => c :: unified cs

/-- The size of a piece that is to hold `wanted` characters, if they need as many bytes as those
of the last piece did. -/
def pieceSize (s : Source) (wanted : Nat) : Nat :=
  max leastPiece (max wanted (s.density.1 * wanted / s.density.2))

/-- The source after a piece of so many bytes is read. -/
def refill (s : Source) (size : Nat) : Except Text.Utf8.Fault Source := do
  let piece := s.bytes.take size
  let (cs, kept) ← decode (s.kept ++ piece)
  let cs := if s.afterReturn ∧ !cs.isEmpty then '\r' :: cs else cs
  let endsWithReturn := cs.getLast? = some '\r'
  let ready := unified (if endsWithReturn then cs.dropLast else cs)
  return {
    bytes := s.bytes.drop size
    kept
    afterReturn := endsWithReturn || (s.afterReturn && cs.isEmpty)
    ready
    density := if ready.isEmpty then (1, 1) else (piece.length, ready.length) }

/-- Reading a piece leaves the bytes behind it. -/
theorem bytes_of_refill {s next : Source} {size : Nat} (h : s.refill size = .ok next) :
    next.bytes = s.bytes.drop size := by
  simp only [refill, bind, Except.bind] at h
  split at h
  · simp at h
  · cases h
    rfl

/-- Takes `wanted` more characters behind those of `done`, or all that are left if they are
fewer. -/
def take (s : Source) (wanted : Nat) (done : List Char) :
    Except Text.Utf8.Fault (List Char × Source) :=
  let got := s.ready.take wanted
  let left := { s with ready := s.ready.drop wanted }
  if got.length = wanted then .ok (done ++ got, left)
  else
    match _hb : s.bytes with
    | _ :: _ =>
      match _h : s.refill (s.pieceSize (wanted - got.length)) with
      | .error f => .error f
      | .ok next => take next (wanted - got.length) (done ++ got)
    | [] =>
      match Text.Utf8.decode s.kept with
      | .error f => .error f
      | .ok _ =>
        .ok (done ++ got ++ (if s.afterReturn then ['\n'] else []),
          { left with afterReturn := false })
termination_by s.bytes.length
decreasing_by
  have := bytes_of_refill _h
  rw [this, _hb, List.length_drop]
  simp only [List.length_cons, pieceSize, leastPiece]
  omega

/-- Characters that may occur in a settings file. -/
def isAllowed (c : Char) : Bool :=
  c = '\t' || c = '\n' || (' ' ≤ c && c ≤ '~') || c.toNat = 0x85
    || (0xa0 ≤ c.toNat && c.toNat ≤ 0xfffd) || 0x10000 ≤ c.toNat

/-- Adds the text of the further blocks to `done`, and gives the fault that ends it; `blocks`
bounds their number. -/
def further (done : List Char) : (blocks : Nat) → Source → List Char × Option Fault
  | 0, _ => (done, none)
  | blocks + 1, s =>
    match s.take blockSize [] with
    | .error f => (done, some (.notText f))
    | .ok ([], _) => (done, none)
    | .ok (block, s) =>
      if block.all isAllowed then further (done ++ block) blocks s else (done, some .malformed)

/-- The text of a settings file up to its first fault, and that fault. The first block is as
large as two. -/
def text (bs : Bytes) : List Char × Option Fault :=
  let source : Source := { bytes := bs }
  let first := do
    let (front, source) ← source.take blockSize []
    source.take blockSize front
  match first with
  | .error f => ([], some (.notText f))
  | .ok (block, source) =>
    if block.all isAllowed then source.further block bs.length else ([], some .malformed)

end Source

end TxnLog.Settings.Document
