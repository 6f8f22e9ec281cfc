import TxnLog.Bytes
import TxnLog.Text.Digits

/-!
# A position in a byte string

A `Cursor` is a position together with the bytes from there to the end, so that what a reader
does depends on nothing else. A read call may return fewer bytes than asked for; `read` repeats
calls until it has all bytes or a call returns none. So it sees the same bytes however the calls
fall short, as long as none of them comes back empty before the end.
-/

namespace TxnLog

/-- A position and the bytes from it to the end. -/
structure Cursor where
  /-- The number of bytes before the cursor. -/
  position : Nat
  /-- The bytes from the cursor to the end. -/
  rest : Bytes

/-- How far single read calls fall short: a call at position `p` returns at most `limit p`
bytes; `none` sets no limit. -/
abbrev CallLimit := Nat → Option Nat

/-- Calls that return all bytes asked for, as those on a regular file do. -/
def CallLimit.unlimited : CallLimit := fun _ => none

namespace Cursor

/-- The cursor before the first byte. -/
def ofBytes (bs : Bytes) : Cursor := ⟨0, bs⟩

/-- The cursor at position `p` of `content`, which may be beyond its end. -/
def seek (content : Bytes) (p : Nat) : Cursor := ⟨p, content.drop p⟩

/-- The cursor after `n` more bytes. -/
def advance (c : Cursor) (n : Nat) : Cursor := ⟨c.position + n, c.rest.drop n⟩

/-- One read call that asks for `n` bytes. -/
def call (limit : CallLimit) (n : Nat) (c : Cursor) : Bytes × Cursor :=
  let most := match limit c.position with
    | none => n
    | some k => min n k
  let got := c.rest.take most
  (got, c.advance got.length)

/-- Repeats read calls until `n` bytes are gathered or a call returns none; `parts` holds what
the calls before returned, latest first. -/
def gather (limit : CallLimit) (n : Nat) (c : Cursor) (parts : List Bytes) :
    List Bytes × Cursor :=
  if n = 0 then (parts, c)
  else match c.call limit n with
    | ([], _) => (parts, c)
    | (b :: bs, next) => gather limit (n - (bs.length + 1)) next ((b :: bs) :: parts)
termination_by n

/-- Reads `n` bytes, or all that are left if they are fewer. -/
def read (limit : CallLimit) (n : Nat) (c : Cursor) : Bytes × Cursor :=
  let (parts, next) := c.gather limit n []
  (parts.reverse.flatten, next)

/-- What a call returns and what remains make up what was there. -/
theorem length_of_call (limit : CallLimit) (n : Nat) (c : Cursor) :
    (c.call limit n).1.length + (c.call limit n).2.rest.length = c.rest.length := by
  simp only [call, advance, List.length_take, List.length_drop]
  omega

/-- What is gathered and what remains make up what was gathered before and what was there. -/
theorem length_of_gather (limit : CallLimit) (n : Nat) (c : Cursor) (parts : List Bytes) :
    (c.gather limit n parts).1.flatten.length + (c.gather limit n parts).2.rest.length
      = parts.flatten.length + c.rest.length := by
  fun_induction gather limit n c parts with
  | case1 => rfl
  | case2 => rfl
  | case3 n c parts _ b bs next heq ih =>
    have := length_of_call limit n c
    rw [heq] at this
    simp only [List.flatten_cons, List.length_append, List.length_cons] at ih this ⊢
    omega

/-- What is read and what remains make up what was there. -/
theorem length_of_read (limit : CallLimit) (n : Nat) (c : Cursor) :
    (c.read limit n).1.length + (c.read limit n).2.rest.length = c.rest.length := by
  have h := length_of_gather limit n c []
  simp only [read]
  rw [List.length_flatten, List.map_reverse, List.sum_reverse, ← List.length_flatten]
  simpa using h

/-- The positions are those that a signed number of 64 bits can hold. -/
def positions : Nat := 0x8000000000000000

/-- Why a cursor cannot be moved. -/
inductive SeekError
  /-- A position before the first byte. -/
  | negative (position : Int)
  /-- A number too large or too small to be a position. -/
  | tooFar (position : Int)
  deriving DecidableEq, Repr

/-- The text of a seek error. -/
def SeekError.message : SeekError → String
  | .negative p => "negative seek value " ++ Text.decimal p
  | .tooFar _ => "position does not fit in 64 bits"

/-- The cursor at position `p` of `content`, which may be beyond its end but not negative. -/
def seek? (content : Bytes) (p : Int) : Except SeekError Cursor :=
  if p < -positions ∨ positions ≤ p then .error (.tooFar p)
  else if p < 0 then .error (.negative p)
  else .ok (seek content p.toNat)

end Cursor

end TxnLog
