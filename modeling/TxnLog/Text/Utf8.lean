import TxnLog.Bytes
import TxnLog.Text.Digits

/-!
# UTF-8

`decode` reads a byte string as UTF-8 in its strict form: no overlong forms, no surrogates, no
code points beyond `U+10FFFF`, no sequence cut short. What it refuses it refuses at the first
sequence that is none, with the positions of the bytes at fault. `encode` writes text as UTF-8.
-/

namespace TxnLog.Text.Utf8

/-- Why bytes are no UTF-8 sequence. -/
inductive Reason where
  /-- The first byte starts no sequence. -/
  | invalidStart
  /-- The text ends inside the sequence. -/
  | unexpectedEnd
  /-- A byte that does not continue the sequence. -/
  | invalidContinuation
  deriving DecidableEq, Repr

/-- The text of a reason. -/
def Reason.message : Reason → String
  | .invalidStart => "invalid start byte"
  | .unexpectedEnd => "unexpected end of data"
  | .invalidContinuation => "invalid continuation byte"

/-- The first place where bytes stop being UTF-8. -/
structure Fault where
  /-- The position of the faulty sequence. -/
  start : Nat
  /-- Its first byte. -/
  lead : UInt8
  /-- The number of bytes at fault, the first one included. -/
  extent : Nat
  /-- What is wrong with them. -/
  reason : Reason
  deriving DecidableEq, Repr

/-- The text of a fault: a single byte is shown, several are named by their positions. -/
def Fault.message (f : Fault) : String :=
  let place :=
    if f.extent ≤ 1 then
      "byte " ++ hexMarked 4 f.lead.toNat ++ " in position " ++ decimal f.start
    else
      "bytes in position " ++ decimal f.start ++ "-" ++ decimal (f.start + f.extent - 1)
  "'utf-8' codec can't decode " ++ place ++ ": " ++ f.reason.message

/-- What a first byte promises: the bits it holds, the number of bytes to follow, and the range
of the first of them. -/
structure Lead where
  /-- The highest bits of the code point. -/
  bits : Nat
  /-- The number of continuation bytes. -/
  more : Nat
  /-- The least second byte. -/
  low : UInt8
  /-- The greatest second byte. -/
  high : UInt8

/-- The sequences that start with byte `b`, if any do. The ranges of the second byte exclude
overlong forms, surrogates and what is beyond `U+10FFFF`. -/
def lead? (b : UInt8) : Option Lead :=
  let n := b.toNat
  if n < 0x80 then some ⟨n, 0, 0x80, 0xbf⟩
  else if n < 0xc2 then none
  else if n < 0xe0 then some ⟨n - 0xc0, 1, 0x80, 0xbf⟩
  else if n < 0xf0 then
    some ⟨n - 0xe0, 2, if n = 0xe0 then 0xa0 else 0x80, if n = 0xed then 0x9f else 0xbf⟩
  else if n < 0xf5 then
    some ⟨n - 0xf0, 3, if n = 0xf0 then 0x90 else 0x80, if n = 0xf4 then 0x8f else 0xbf⟩
  else none

/-- Adds `more` continuation bytes to `bits`, the first of them between `low` and `high`; an
error tells how many bytes did fit. -/
def continuation (bits : Nat) (low high : UInt8) :
    (more : Nat) → Bytes → Except (Nat × Reason) (Nat × Bytes)
  | 0, bs => .ok (bits, bs)
  | _ + 1, [] => .error (0, .unexpectedEnd)
  | more + 1, b :: bs =>
    if low ≤ b ∧ b ≤ high then
      match continuation (bits * 64 + (b.toNat - 0x80)) 0x80 0xbf more bs with
      | .ok r => .ok r
      | .error (fit, reason) => .error (fit + 1, reason)
    else .error (0, .invalidContinuation)

/-- The character whose sequence starts with `b` and goes on in `bs`, the number of bytes it
goes on for, and the bytes after it; an error tells how many bytes are at fault. -/
def decodeChar (b : UInt8) (bs : Bytes) : Except (Nat × Reason) (Char × Nat × Bytes) :=
  match lead? b with
  | none => .error (1, .invalidStart)
  | some lead =>
    match continuation lead.bits lead.low lead.high lead.more bs with
    | .ok (n, rest) => .ok (Char.ofNat n, lead.more, rest)
    | .error (fit, reason) => .error (fit + 1, reason)

/-- The continuation bytes are those that the rest lacks. -/
theorem length_of_continuation {bits : Nat} {low high : UInt8} {more : Nat} {bs : Bytes}
    {r : Nat × Bytes} (h : continuation bits low high more bs = .ok r) :
    r.2.length + more = bs.length := by
  induction more generalizing bits low high bs with
  | zero => simp [continuation] at h; simp [← h]
  | succ more ih =>
    cases bs with
    | nil => simp [continuation] at h
    | cons b bs =>
      simp only [continuation] at h
      split at h
      · split at h
        · next heq =>
          cases h
          have := ih heq
          simp; omega
        · simp at h
      · simp at h

/-- A character's bytes after the first are those that the rest lacks. -/
theorem length_of_decodeChar {b : UInt8} {bs : Bytes} {r : Char × Nat × Bytes}
    (h : decodeChar b bs = .ok r) : r.2.2.length + r.2.1 = bs.length := by
  simp only [decodeChar] at h
  split at h
  · simp at h
  · split at h
    · next heq =>
      cases h
      have := length_of_continuation heq
      exact this
    · simp at h

/-- Decodes `bs`, which follows the characters `done` (latest first) and starts at position
`p`. -/
def decodeFrom (done : List Char) (p : Nat) : Bytes → Except Fault (List Char)
  | [] => .ok done.reverse
  | b :: bs =>
    match _h : decodeChar b bs with
    | .ok (c, more, rest) => decodeFrom (c :: done) (p + 1 + more) rest
    | .error (extent, reason) => .error ⟨p, b, extent, reason⟩
termination_by bs => bs.length
decreasing_by
  have := length_of_decodeChar _h
  simp at this ⊢; omega

/-- The text that the bytes encode. -/
def decode (bs : Bytes) : Except Fault String :=
  match decodeFrom [] 0 bs with
  | .ok cs => .ok (String.ofList cs)
  | .error f => .error f

/-- The bytes of a text. -/
def encode (s : String) : Bytes := s.toList.flatMap String.utf8EncodeChar

end TxnLog.Text.Utf8
