import TxnLog.Bytes
import TxnLog.Text.Digits
import TxnLog.Text.Printable

/-!
# Quoted texts and byte strings

A quoted form shows every character: it stands between single quotes, or between double quotes
if it holds single ones only; the quote in use and the backslash are escaped by a backslash,
line breaks and tabs by a letter, and whatever is not printable by its hexadecimal code. So a
quoted form never holds a line break or a control character.
-/

namespace TxnLog.Text.Quoted

/-- The single quote. -/
def single : Char := '\x27'

/-- The double quote. -/
def double : Char := '\x22'

/-- The hexadecimal digits of `n`, on `width` places at least. -/
def code (width n : Nat) : List Char :=
  let digits := Nat.toDigits 16 n
  List.replicate (width - digits.length) '0' ++ digits

/-- The quote to use for a text that holds single quotes (`hasSingle`) or double ones. -/
def quote (hasSingle hasDouble : Bool) : Char :=
  if hasSingle && !hasDouble then double else single

/-- A character of a text between quotes `q`. -/
def char (q c : Char) : List Char :=
  if c = q ∨ c = '\\' then ['\\', c]
  else if c = '\n' then ['\\', 'n']
  else if c = '\r' then ['\\', 'r']
  else if c = '\t' then ['\\', 't']
  else if isPrintable c then [c]
  else if c.toNat < 0x100 then '\\' :: 'x' :: code 2 c.toNat
  else if c.toNat < 0x10000 then '\\' :: 'u' :: code 4 c.toNat
  else '\\' :: 'U' :: code 8 c.toNat

/-- A byte of a byte string between quotes `q`: printable ASCII stands for itself. -/
def byte (q : Char) (b : UInt8) : List Char :=
  let c := Char.ofNat b.toNat
  if c = q ∨ c = '\\' then ['\\', c]
  else if c = '\n' then ['\\', 'n']
  else if c = '\r' then ['\\', 'r']
  else if c = '\t' then ['\\', 't']
  else if 0x20 ≤ b ∧ b ≤ 0x7e then [c]
  else '\\' :: 'x' :: code 2 b.toNat

/-- A text in quotes. -/
def text (s : String) : String :=
  let cs := s.toList
  let q := quote (cs.contains single) (cs.contains double)
  String.ofList (q :: (cs.flatMap (char q) ++ [q]))

/-- A byte string in quotes, marked by the letter `b`. -/
def bytes (bs : Bytes) : String :=
  let q := quote (bs.contains 0x27) (bs.contains 0x22)
  String.ofList ('b' :: q :: (bs.flatMap (byte q) ++ [q]))

end TxnLog.Text.Quoted
