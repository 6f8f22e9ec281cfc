import TxnLog.Settings.Fault

/-!
# Integers from settings

A setting that is to be an integer may be given as one, as a truth value, as a double, whose
fraction is dropped, or as a text or a byte string that holds an integer literal.
-/

namespace TxnLog.Settings

/-- The integer that a literal stands for; `otherwise` is the fault of what is none. -/
def integerOfLiteral (s : String) (otherwise : Fault) : Except Fault Int :=
  match Literal.int Literal.maxDigits s with
  | .ok n => .ok n
  | .error .malformed => .error otherwise
  | .error (.tooLong digits) => .error (.longLiteral digits)

/-- The integer that a text stands for. -/
def integerOfText (s : String) : Except Fault Int := integerOfLiteral s (.notInteger s)

/-- The integer that a byte string stands for. Bytes beyond ASCII are part of no literal. -/
def integerOfBytes (bs : Bytes) : Except Fault Int :=
  let char (b : UInt8) : Char := if b < 0x80 then Char.ofNat b.toNat else '\ufffd'
  integerOfLiteral (String.ofList (bs.map char)) (.notIntegerBytes bs)

/-- The integer that a value stands for. -/
def integer : Value → Except Fault Int
  | .truth b => .ok (if b then 1 else 0)
  | .number (.whole n) => .ok n
  | .number (.real .nan) => .error .nanInteger
  | .number (.real (.infinite _)) => .error .infiniteInteger
  | .number (.real (.finite negative m q)) => .ok (Binary64.truncate negative m q)
  | .text s => integerOfText s
  | .bytes bs => integerOfBytes bs
  | .null | .other _ | .list _ | .mapping _ => .error .notNumber

end TxnLog.Settings
