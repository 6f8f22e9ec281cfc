import TxnLog.Settings.Fault
import TxnLog.Text.Split

/-!
# Numbers in plain scalars

An integer is binary after `0b`, hexadecimal after `0x`, octal after `0`, or else decimal. Parts
that colons separate are the digits of a number in base 60. A double has a point. Underscores among
digits do not count.
-/

namespace TxnLog.Settings.Scalar

/-- The value of a digit, in either case for letters. -/
def digit? (base : Nat) (c : Char) : Option Nat :=
  let d :=
    if '0' ≤ c ∧ c ≤ '9' then some (c.toNat - 0x30)
    else if 'a' ≤ c ∧ c ≤ 'f' then some (c.toNat - 0x61 + 10)
    else if 'A' ≤ c ∧ c ≤ 'F' then some (c.toNat - 0x41 + 10)
    else none
  d.filter (· < base)

/-- The digits among characters, if the others are underscores. -/
def digits? (base : Nat) (cs : List Char) : Option (List Nat) :=
  (cs.filter (· ≠ '_')).mapM (digit? base)

/-- The number that digits in some base spell. -/
def number (base : Nat) (digits : List Nat) : Nat := digits.foldl (fun n d => n * base + d) 0

/-- The number that digits in some base spell, underscores left out, if there are only such. -/
def nat? (base : Nat) (cs : List Char) : Option Nat := (digits? base cs).map (number base)

/-- A digit of base 60, of one or two places. -/
def isSixtieth : List Char → Bool
  | [c] => (digit? 10 c).isSome
  | [c, d] => (digit? 6 c).isSome && (digit? 10 d).isSome
  | _ => false

/-- The number in a base with a mark, which needs a digit. -/
def marked? (base : Nat) (cs : List Char) : Option (Except Fault Nat) :=
  (digits? base cs).map fun
    | [] => .error (.noDigits base)
    | d :: ds => .ok (number base (d :: ds))

/-- The number in base 10, which may not have too many digits. -/
def decimal? (cs : List Char) : Option (Except Fault Nat) :=
  (digits? 10 cs).map fun digits =>
    if Literal.maxDigits < digits.length then .error (.longLiteral digits.length)
    else .ok (number 10 digits)

/-- The integer that the characters after a sign spell. -/
def magnitude? : List Char → Option (Except Fault Nat)
  | ['0'] => some (.ok 0)
  | '0' :: 'b' :: c :: cs => marked? 2 (c :: cs)
  | '0' :: 'x' :: c :: cs => marked? 16 (c :: cs)
  | '0' :: cs => (nat? 8 cs).map .ok
  | c :: cs =>
    if '1' ≤ c ∧ c ≤ '9' then
      match Text.split ':' (c :: cs) with
      | first :: more =>
        if more.all isSixtieth then
          (decimal? first).map fun r => r.map fun n =>
            more.foldl (fun n part => n * 60 + (nat? 10 part).getD 0) n
        else none
      | [] => none
    else none
  | [] => none

/-- The integer that a scalar spells. -/
def int? (cs : List Char) : Option (Except Fault Int) :=
  let (negative, cs) := Literal.unsigned cs
  (magnitude? cs).map fun r => r.map fun n => if negative then -(n : Int) else n

/-- The exponent that characters spell: none at all, or a letter, a sign and digits. -/
def exponent? : List Char → Option Int
  | [] => some 0
  | e :: sign :: c :: cs =>
    if (e = 'e' ∨ e = 'E') ∧ (sign = '+' ∨ sign = '-') ∧ !(c :: cs).contains '_' then
      (nat? 10 (c :: cs)).map fun n => if sign = '-' then -(n : Int) else n
    else none
  | _ => none

/-- A digit or an underscore. -/
def isFractional (c : Char) : Bool := c = '_' || (digit? 10 c).isSome

/-- The double that a point between digits spells, with an exponent if it may have one. -/
def pointed? (negative mayHaveExponent : Bool) (whole after : List Char) : Option Binary64 := do
  let fraction := after.takeWhile isFractional
  let m ← nat? 10 (whole ++ fraction)
  let rest := after.dropWhile isFractional
  if !mayHaveExponent ∧ !rest.isEmpty then none
  let e ← exponent? rest
  let places := (fraction.filter (· ≠ '_')).length
  return Binary64.ofDecimal negative m (e - places)

/-- The double that the parts of a scalar with a point in the last part spell in base 60, the
greatest part first. -/
def sixtieths? (parts : List (List Char)) : Option Binary64 := do
  let (last, front) ← match parts.reverse with
    | last :: first :: more => some (last, first :: more)
    | _ => none
  let whole := last.takeWhile (· ≠ '.')
  let least ← match last.dropWhile (· ≠ '.') with
    | _ :: after => pointed? false false whole after
    | [] => none
  let startsWithDigit := (front.getLast?.bind (·.head?)).any fun c => (digit? 10 c).isSome
  if !(isSixtieth whole && front.dropLast.all isSixtieth && startsWithDigit) then none
  let front ← front.mapM (nat? 10)
  let (sum, _) := front.foldl
    (fun (sum, weight) n =>
      (sum.add ((Binary64.ofRatio false n 1).mulRatio weight 1), weight * 60))
    (least, 60)
  return sum

/-- The double that a scalar with a point spells. -/
def double? (cs : List Char) : Option Binary64 :=
  let (negative, body) := Literal.unsigned cs
  let whole := body.takeWhile isFractional
  match body.dropWhile isFractional with
  | '.' :: after =>
    let wellFormed := match whole with
      | [] => cs = body && ((after.head?.bind (digit? 10)).isSome)
      | c :: _ => c ≠ '_'
    if wellFormed then pointed? negative true whole after else none
  | ':' :: _ => (sixtieths? (Text.split ':' body)).map (·.withSign negative)
  | _ => none

/-- The double that a scalar spells. -/
def real? (cs : List Char) : Option Binary64 :=
  let (negative, body) := Literal.unsigned cs
  if [".inf", ".Inf", ".INF"].contains (String.ofList body) then some (.infinite negative)
  else if [".nan", ".NaN", ".NAN"].contains (String.ofList cs) then some .nan
  else double? cs

end TxnLog.Settings.Scalar
