/-!
# Binary floating point on 64 bits

A `Binary64` is a number `± m * 2^q` of the double format, an infinity or no number. `ofRatio`
rounds a ratio of integers to the nearest such number, ties to an even significand; it is exact
integer arithmetic throughout.
-/

namespace TxnLog

/-- A number of the double format. -/
inductive Binary64 where
  /-- Not a number. -/
  | nan
  | infinite (negative : Bool)
  /-- The number `mantissa * 2 ^ exponent`, or its negative. -/
  | finite (negative : Bool) (mantissa : Nat) (exponent : Int)
  deriving DecidableEq, Repr

namespace Binary64

/-- The least exponent of a significand. -/
def minExponent : Int := -1074

/-- The greatest exponent of a significand. -/
def maxExponent : Int := 971

/-- The least significand of 53 bits. -/
def leastFull : Nat := 0x10000000000000

/-- The integer nearest to `num / den`, the even one of two equally near. -/
def roundHalfEven (num den : Nat) : Nat :=
  let q := num / den
  let r := num % den
  if 2 * r < den ∨ (2 * r = den ∧ q % 2 = 0) then q else q + 1

/-- The number `b ^ k`, or 1 if `k` is negative. -/
def power (b : Nat) (k : Int) : Nat := Nat.pow b k.toNat

/-- The ratio `num / den / 2 ^ q`. -/
def scaled (num den : Nat) (q : Int) : Nat × Nat := (num * power 2 (-q), den * power 2 q)

/-- The exponent at which `num / den` has a significand of 53 bits, or the least exponent if
that is greater. -/
def exponentOf (num den : Nat) : Int :=
  let e : Int := (Nat.log2 num : Int) - Nat.log2 den
  let (n, d) := scaled num den e
  max minExponent (if n < d then e - 53 else e - 52)

/-- The number nearest to `num / den`, or to its negative. -/
def ofRatio (negative : Bool) (num den : Nat) : Binary64 :=
  if num = 0 then .finite negative 0 minExponent
  else
    let q := exponentOf num den
    let (n, d) := scaled num den q
    let m := roundHalfEven n d
    let (m, q) := if m = 2 * leastFull then (leastFull, q + 1) else (m, q)
    if maxExponent < q then .infinite negative else .finite negative m q

/-- The number nearest to an integer divided by a positive one. -/
def ofIntRatio (num : Int) (den : Nat) : Binary64 := ofRatio (num < 0) num.natAbs den

/-- The number nearest to `m * 10 ^ e`. As `10 ^ e` is at least `8 ^ e` for a positive `e` and at
most that for a negative one, an exponent far from zero settles the number by itself. -/
def ofDecimal (negative : Bool) (m : Nat) (e : Int) : Binary64 :=
  let bits : Int := Nat.log2 m
  if m ≠ 0 ∧ 0 < e ∧ 1024 < bits + 3 * e then .infinite negative
  else if m = 0 ∨ (e < 0 ∧ bits + 3 * e < -1076) then .finite negative 0 minExponent
  else ofRatio negative (m * power 10 e) (power 10 (-e))

/-- The number with a sign. -/
def withSign (negative : Bool) : Binary64 → Binary64
  | .nan => .nan
  | .infinite _ => .infinite negative
  | .finite _ m q => .finite negative m q

/-- The number nearest to the number times `num / den`. -/
def mulRatio (x : Binary64) (num den : Nat) : Binary64 :=
  match x with
  | .finite negative m q => ofRatio negative (m * num * power 2 q) (den * power 2 (-q))
  | other => other

/-- The number nearest to the sum of two numbers that are not negative. -/
def add (x y : Binary64) : Binary64 :=
  match x, y with
  | .finite _ m q, .finite _ n r =>
    let k := min q r
    ofRatio false ((m * power 2 (q - k) + n * power 2 (r - k)) * power 2 k) (power 2 (-k))
  | .finite .., y => y
  | x, _ => x

/-- The integer part of a finite number, toward zero. -/
def truncate (negative : Bool) (m : Nat) (q : Int) : Int :=
  let n : Int := (m * power 2 q / power 2 (-q) : Nat)
  if negative then -n else n

/-- The number is below zero. -/
def isNegative : Binary64 → Bool
  | .nan => false
  | .infinite negative => negative
  | .finite negative m _ => negative && m != 0

/-- The number is zero, of either sign. -/
def isZero : Binary64 → Bool
  | .finite _ m _ => m == 0
  | _ => false

end Binary64

end TxnLog
