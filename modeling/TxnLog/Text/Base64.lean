import TxnLog.Bytes

/-!
# Base64

The standard alphabet with padding: three bytes become four characters of six bits each, and
one or two bytes left over are padded with `=`. `encode` writes this form and `decode?` reads it.
-/

namespace TxnLog.Text.Base64

/-- The character of a six-bit number. -/
def digit (n : Nat) : Char :=
  if n < 26 then Char.ofNat (0x41 + n)
  else if n < 52 then Char.ofNat (0x61 + (n - 26))
  else if n < 62 then Char.ofNat (0x30 + (n - 52))
  else if n = 62 then '+'
  else '/'

/-- The characters of three bytes. -/
def triple (a b c : UInt8) : List Char :=
  let n := a.toNat * 65536 + b.toNat * 256 + c.toNat
  [digit (n / 262144), digit (n / 4096 % 64), digit (n / 64 % 64), digit (n % 64)]

/-- The characters of one or two last bytes, padded to four. -/
def last : Bytes → List Char
  | [a] => (triple a 0 0).take 2 ++ ['=', '=']
  | [a, b] => (triple a b 0).take 3 ++ ['=']
  | _ => []

/-- Encodes the bytes behind the characters `done`, which are latest first. -/
def encodeFrom (done : List Char) : Bytes → List Char
  | a :: b :: c :: rest => encodeFrom ((triple a b c).reverse ++ done) rest
  | bs => done.reverse ++ last bs

/-- The base64 form of the bytes. -/
def encode (bs : Bytes) : String := String.ofList (encodeFrom [] bs)

/-- The six-bit number of a character of the alphabet. -/
def value? (c : Char) : Option Nat :=
  let n := c.toNat
  if 0x41 ≤ n ∧ n ≤ 0x5a then some (n - 0x41)
  else if 0x61 ≤ n ∧ n ≤ 0x7a then some (n - 0x61 + 26)
  else if 0x30 ≤ n ∧ n ≤ 0x39 then some (n - 0x30 + 52)
  else if c = '+' then some 62
  else if c = '/' then some 63
  else none

/-- The three bytes of four characters. -/
def untriple? (p q r s : Char) : Option Bytes := do
  let n := (← value? p) * 262144 + (← value? q) * 4096 + (← value? r) * 64 + (← value? s)
  pure [UInt8.ofNat (n / 65536), UInt8.ofNat (n / 256), UInt8.ofNat n]

/-- The bytes of a sequence of groups of four characters, of which the last may be padded. -/
def decodeGroups? : List Char → Option Bytes
  | [] => some []
  | [p, q, '=', '='] => (untriple? p q 'A' 'A').map (·.take 1)
  | [p, q, r, '='] => (untriple? p q r 'A').map (·.take 2)
  | p :: q :: r :: s :: rest => do pure ((← untriple? p q r s) ++ (← decodeGroups? rest))
  | _ => none

/-- The bytes whose base64 form the text is. -/
def decode? (s : String) : Option Bytes := decodeGroups? s.toList

end TxnLog.Text.Base64
