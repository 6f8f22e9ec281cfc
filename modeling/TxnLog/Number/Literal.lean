import TxnLog.Text.DecimalDigit
import TxnLog.Text.Digits

/-!
# Integer literals

An integer literal is a sign, if any, and decimal digits of any script, between which single
underscores may stand; blanks around it are ignored. There is a limit to the number of its
digits, and the same limit holds where an integer is written as text. The limit is looked at as
soon as the digits end, so a literal with too many of them is too long, whatever follows.
-/

namespace TxnLog.Literal

/-- The most digits that an integer may have in a text. -/
def maxDigits : Nat := 4300

/-- Why a text stands for no integer. -/
inductive Fault where
  /-- The text is no literal. -/
  | malformed
  /-- The literal has so many digits, more than are allowed. -/
  | tooLong (digits : Nat)
  deriving DecidableEq, Repr

/-- Whether there is a minus sign, and the characters after the sign, if there is one. -/
def unsigned : List Char → Bool × List Char
  | '-' :: cs => (true, cs)
  | '+' :: cs => (false, cs)
  | cs => (false, cs)

/-- A digit, or an underscore between digits. -/
def isPart (c : Char) : Bool := c = '_' || (Text.digitValue? c).isSome

/-- Every underscore stands between two digits, and there is a digit; `afterDigit` tells whether
one stands in front. -/
def isGrouped (afterDigit : Bool) : List Char → Bool
  | [] => afterDigit
  | c :: cs => if c = '_' then afterDigit && isGrouped false cs else isGrouped true cs

/-- The number that digits spell. -/
def number (digits : List Nat) : Nat := digits.foldl (fun n d => n * 10 + d) 0

/-- The integer that a text stands for, if it has at most `most` digits. -/
def int (most : Nat) (s : String) : Except Fault Int :=
  let (negative, cs) := unsigned (s.toList.dropWhile Text.isBlank)
  let part := cs.takeWhile isPart
  let digits := part.filterMap Text.digitValue?
  if !isGrouped false part then .error .malformed
  else if most < digits.length then .error (.tooLong digits.length)
  else if !(cs.dropWhile isPart).all Text.isBlank then .error .malformed
  else .ok (if negative then -(number digits : Int) else number digits)

/-- The least number with more than `maxDigits` digits. -/
def bound : Nat := Nat.pow 10 maxDigits

/-- An integer has at most `maxDigits` digits, and so may be written as text. -/
def isWritable (n : Int) : Bool := n.natAbs < bound

/-- An integer may be written if and only if it is below the bound. -/
theorem isWritable_iff {n : Int} : isWritable n = true ↔ n.natAbs < bound := decide_eq_true_iff

/-- A number with fewer digits is below the bound. -/
theorem pow_le_bound {k : Nat} (h : k ≤ maxDigits) : Nat.pow 10 k ≤ bound := by
  unfold bound
  -- Nobody is to compute this power.
  generalize maxDigits = most at h ⊢
  exact Nat.pow_le_pow_right (by decide) h

/-- The limit to the digits of an integer that is read or written as text. -/
def limitText : String :=
  "Exceeds the limit (" ++ Text.decimal maxDigits ++ " digits) for integer string conversion"

/-- How to go beyond that limit. -/
def limitAdvice : String := "; use sys.set_int_max_str_digits() to increase the limit"

/-- Why an integer is not written. -/
inductive Unwritable where
  /-- It has too many digits. -/
  | tooLong
  deriving DecidableEq, Repr

/-- The text of that. -/
def Unwritable.message : Unwritable → String
  | .tooLong => limitText ++ limitAdvice

/-- An integer as text. -/
def write (n : Int) : Except Unwritable String :=
  if isWritable n then .ok (Text.decimal n) else .error .tooLong

end TxnLog.Literal
