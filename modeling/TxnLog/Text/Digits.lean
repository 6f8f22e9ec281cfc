/-!
# Numerals

Integers as text: decimal, hexadecimal in lower case, and zero padding to a width.
-/

namespace TxnLog.Text

/-- The decimal numeral of `n`, with a minus sign if `n` is negative. -/
def decimal : Int → String
  | .ofNat n => String.ofList (Nat.toDigits 10 n)
  | .negSucc n => "-" ++ String.ofList (Nat.toDigits 10 (n + 1))

/-- The hexadecimal digits of `n`, in lower case and without a mark. -/
def hexDigits (n : Nat) : String := String.ofList (Nat.toDigits 16 n)

/-- The text `s` with zeros in front, up to the given width. -/
def padZeros (width : Nat) (s : String) : String :=
  String.ofList (List.replicate (width - s.length) '0') ++ s

/-- The number `n` in decimal, with zeros in front up to the given width. -/
def decimalPadded (width : Nat) (n : Nat) : String := padZeros width (decimal n)

/-- The number `n` as a sign, the mark `0x` and hexadecimal digits, with zeros between mark and
digits so that the whole is at least `width` characters wide. -/
def hexMarked (width : Nat) (n : Int) : String :=
  if n < 0 then "-0x" ++ padZeros (width - 3) (hexDigits n.natAbs)
  else "0x" ++ padZeros (width - 2) (hexDigits n.natAbs)

end TxnLog.Text
