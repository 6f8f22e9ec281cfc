import TxnLog.Number.Binary64
import TxnLog.Text.Digits

/-!
# The shortest decimal of a double

A double is written with the fewest digits that read back as the same double, and of those with
the digits nearest to it, the even one of two equally near. If any point of a decimal grid
reads back, so does one of the two grid points around the number; so it is enough to try those
two on ever finer grids.
-/

namespace TxnLog.Binary64

/-- A decimal `digits * 10 ^ exponent`. -/
structure Decimal where
  digits : Nat
  exponent : Int
  deriving DecidableEq, Repr

/-- The point of the grid of multiples of `10 ^ k` that reads back as `m * 2 ^ q`, the nearer
one if both points around the number do. With quarters of the last place as the unit, the
numbers that read back lie between `low` and `4 * m + 2`, ends included if `m` is even. -/
def onGrid? (m : Nat) (q k : Int) : Option Nat :=
  let low := if m = leastFull ∧ minExponent < q then 4 * m - 1 else 4 * m - 2
  let high := 4 * m + 2
  -- a grid point `c` and a number of units `x` compare as `c * step` and `x * unit`
  let step := power 10 k * power 2 (2 - q)
  let unit := power 10 (-k) * power 2 (q - 2)
  let below := 4 * m * unit / step
  let readsBack (c : Nat) : Bool :=
    if m % 2 = 0 then low * unit ≤ c * step && c * step ≤ high * unit
    else low * unit < c * step && c * step < high * unit
  match readsBack below, readsBack (below + 1) with
  | false, false => none
  | true, false => some below
  | false, true => some (below + 1)
  | true, true =>
    let shortBy := 4 * m * unit - below * step
    let longBy := (below + 1) * step - 4 * m * unit
    if shortBy < longBy ∨ (shortBy = longBy ∧ below % 2 = 0) then some below else some (below + 1)

/-- Tries the grids of `10 ^ k`, `10 ^ (k - 1)` and so on, `tries` of them. -/
def search (m : Nat) (q : Int) : (tries : Nat) → (k : Int) → Decimal
  | 0, k => ⟨0, k⟩
  | tries + 1, k =>
    match onGrid? m q k with
    | some c => ⟨c, k⟩
    | none => search m q tries (k - 1)

/-- The shortest decimal that reads back as `m * 2 ^ q`, where `m` is not zero. The first grid
tried is too coarse, and seventeen digits are always enough. -/
def shortest (m : Nat) (q : Int) : Decimal :=
  let bits : Int := Nat.log2 m + 1 + q
  search m q 24 (bits * 30103 / 100000 + 2)

/-- The decimal in positional notation with a point, if its exponent allows. -/
def Decimal.positional (digits : String) (point : Int) : String :=
  let n := digits.length
  if point ≤ 0 then "0." ++ Text.padZeros (n + (-point).toNat) digits
  else if n ≤ point then
    digits ++ String.ofList (List.replicate (point.toNat - n) '0') ++ ".0"
  else
    String.ofList (digits.toList.take point.toNat) ++ "."
      ++ String.ofList (digits.toList.drop point.toNat)

/-- The decimal with one digit before the point and an exponent of two digits at least. -/
def Decimal.scientific (digits : String) (point : Int) : String :=
  let exponent := point - 1
  let fraction := String.ofList (digits.toList.drop 1)
  String.ofList (digits.toList.take 1) ++ (if fraction.isEmpty then "" else "." ++ fraction)
    ++ "e" ++ (if exponent < 0 then "-" else "+") ++ Text.decimalPadded 2 exponent.natAbs

/-- A decimal is written by position if its point is at most four places before and sixteen
after its first digit. -/
def Decimal.text (d : Decimal) : String :=
  let digits := Text.decimal d.digits
  let point := digits.length + d.exponent
  if -4 < point ∧ point ≤ 16 then positional digits point else scientific digits point

/-- A double as text. -/
def text : Binary64 → String
  | .nan => "nan"
  | .infinite negative => if negative then "-inf" else "inf"
  | .finite negative m q =>
    (if negative then "-" else "")
      ++ (if m = 0 then "0.0" else (shortest m q).text)

end TxnLog.Binary64
