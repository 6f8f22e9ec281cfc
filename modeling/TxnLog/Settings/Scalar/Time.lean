import TxnLog.Calendar
import TxnLog.Settings.Scalar.Number

/-!
# Dates and times in plain scalars

A date is `2001-12-14`. A time of day may follow it, behind a `T` or blanks, to the microsecond, and
behind that the zone: `Z`, or how much its clocks are ahead of UTC. With a time of day, months and
days may have a single digit. What has the form of a date but is in no calendar is at fault.
-/

namespace TxnLog.Settings.Scalar

/-- A time of day with its date, as it stands in a scalar. -/
structure Moment where
  date : Calendar.Date
  hour : Nat
  minute : Nat
  second : Nat
  micros : Nat
  /-- How many minutes the clocks of the zone are ahead of UTC, if a zone is named. -/
  ahead : Option Int
  deriving DecidableEq, Repr

/-- What has the form of a date or a time. -/
inductive Time where
  | day (d : Calendar.Date)
  | moment (m : Moment)
  deriving DecidableEq, Repr

/-! ### Forms -/

/-- The number that at least `least` and at most `most` digits in front spell, and what follows. -/
def leading? (least most : Nat) (cs : List Char) : Option (Nat × List Char) :=
  -- Behind the digits stands another character or nothing, so reading the most is right.
  let front := (cs.take most).takeWhile fun c => (digit? 10 c).isSome
  if least ≤ front.length then (nat? 10 front).map (·, cs.drop front.length) else none

/-- What follows the character `c` in front. -/
def behind? (c : Char) : List Char → Option (List Char)
  | [] => none
  | d :: cs => if d = c then some cs else none

/-- A blank that may stand before a time of day or a zone. -/
def isGap (c : Char) : Bool := c = ' ' || c = '\t'

/-- What follows the mark between a date and a time of day. -/
def behindMark? : List Char → Option (List Char)
  | [] => none
  | c :: cs =>
    if c = 'T' ∨ c = 't' then some cs
    else if isGap c then some (cs.dropWhile isGap)
    else none

/-- The date in front, with at least `least` digits for month and day, and what follows. -/
def date? (least : Nat) (cs : List Char) : Option (Calendar.Date × List Char) := do
  let (year, cs) ← leading? 4 4 cs
  let (month, cs) ← leading? least 2 (← behind? '-' cs)
  let (day, cs) ← leading? least 2 (← behind? '-' cs)
  return (⟨year, month, day⟩, cs)

/-- The millionths that a fraction in front spells, of which the seventh and later digits do not
count, and what follows; there need not be a fraction. -/
def micros : List Char → Nat × List Char
  | '.' :: cs =>
    let digits := cs.takeWhile fun c => (digit? 10 c).isSome
    (((nat? 10 ((digits ++ List.replicate 6 '0').take 6)).getD 0), cs.drop digits.length)
  | cs => (0, cs)

/-- How many minutes a zone of so many hours, and of the minutes that follow, is off. -/
def distance? (hours : Nat) (cs : List Char) : Option Nat :=
  match cs with
  | [] => some (hours * 60)
  | cs => do
    let (minutes, rest) ← leading? 2 2 (← behind? ':' cs)
    if rest.isEmpty then return hours * 60 + minutes else none

/-- How many minutes the clocks of a zone are ahead of UTC, if the characters name one. -/
def ahead? (cs : List Char) : Option (Option Int) :=
  match cs with
  | [] => some none
  | cs =>
    match cs.dropWhile isGap with
    | ['Z'] => some (some 0)
    | '+' :: cs => do
      let (hours, cs) ← leading? 1 2 cs
      return some (← distance? hours cs : Nat)
    | '-' :: cs => do
      let (hours, cs) ← leading? 1 2 cs
      return some (-(← distance? hours cs : Nat))
    | _ => none

/-- The time of day behind a date. -/
def moment? (date : Calendar.Date) (cs : List Char) : Option Moment := do
  let (hour, cs) ← leading? 1 2 (← behindMark? cs)
  let (minute, cs) ← leading? 2 2 (← behind? ':' cs)
  let (second, cs) ← leading? 2 2 (← behind? ':' cs)
  let (micros, cs) := micros cs
  return { date, hour, minute, second, micros, ahead := ← ahead? cs }

/-- The date or time that a scalar has the form of. -/
def time? (cs : List Char) : Option Time :=
  match date? 2 cs with
  | some (d, []) => some (.day d)
  -- Single digits for month and day need a time of day behind them.
  | _ => do
    let (d, cs) ← date? 1 cs
    return .moment (← moment? d cs)

/-! ### Faults -/

/-- Why a date is in no calendar. -/
def dateFault? (d : Calendar.Date) : Option String :=
  if d.year = 0 then some "year 0 is out of range"
  else if d.month = 0 ∨ 12 < d.month then some "month must be in 1..12"
  else if ¬ d.Valid then some "day is out of range for month"
  else none

/-- The number of minutes in a day. -/
def dayMinutes : Nat := 1440

/-- A duration of whole minutes written out: days, which may be below zero, and seconds of a
day. -/
def durationLiteral (minutes : Int) : String :=
  let part (name : String) (n : Int) : List String :=
    if n = 0 then [] else [name ++ "=" ++ Text.decimal n]
  let parts := part "days" (minutes / dayMinutes) ++ part "seconds" (minutes % dayMinutes * 60)
  "datetime.timedelta(" ++ (if parts.isEmpty then "0" else ", ".intercalate parts) ++ ")"

namespace Moment

/-- Why a time stands for none. A zone is looked at first. -/
def fault? (m : Moment) : Option String :=
  let zoneFault := m.ahead.bind fun minutes =>
    if minutes.natAbs < dayMinutes then none
    else some ("offset must be a timedelta strictly between -timedelta(hours=24) and " ++
      "timedelta(hours=24), not " ++ durationLiteral minutes ++ ".")
  let clockFault :=
    if 23 < m.hour then some "hour must be in 0..23"
    else if 59 < m.minute then some "minute must be in 0..59"
    else if 59 < m.second then some "second must be in 0..59"
    else none
  (zoneFault.or (dateFault? m.date)).or clockFault

end Moment

/-! ### Values -/

/-- A date as text. -/
def dateText (d : Calendar.Date) : String :=
  "-".intercalate [Text.decimalPadded 4 d.year, Text.decimalPadded 2 d.month,
    Text.decimalPadded 2 d.day]

/-- The value that a date is. -/
def dateValue (d : Calendar.Date) : Other where
  kind := "date"
  text := dateText d
  literal := "datetime.date("
    ++ ", ".intercalate ([d.year, d.month, d.day].map fun n : Nat => Text.decimal n) ++ ")"
  identity := dateText d

namespace Moment

/-- A zone as text. -/
def zoneText (minutes : Int) : String :=
  (if minutes < 0 then "-" else "+") ++ Text.decimalPadded 2 (minutes.natAbs / 60) ++ ":"
    ++ Text.decimalPadded 2 (minutes.natAbs % 60)

/-- A zone written out. -/
def zoneLiteral (minutes : Int) : String :=
  if minutes = 0 then "datetime.timezone.utc"
  else "datetime.timezone(" ++ durationLiteral minutes ++ ")"

/-- Date and time of day as text. -/
def text (m : Moment) : String :=
  dateText m.date ++ " "
    ++ ":".intercalate ([m.hour, m.minute, m.second].map (Text.decimalPadded 2 ·))
    ++ (if m.micros = 0 then "" else "." ++ Text.decimalPadded 6 m.micros)
    ++ (m.ahead.map zoneText).getD ""

/-- The time written out. Seconds and microseconds are left out if they, and what follows them, are
zero. -/
def literal (m : Moment) : String :=
  let fine :=
    if m.micros ≠ 0 then [m.second, m.micros] else if m.second ≠ 0 then [m.second] else []
  let numbers := [m.date.year, m.date.month, m.date.day, m.hour, m.minute] ++ fine
  "datetime.datetime(" ++ ", ".intercalate (numbers.map (fun n : Nat => Text.decimal n)
    ++ (m.ahead.map fun minutes => "tzinfo=" ++ zoneLiteral minutes).toList) ++ ")"

/-- The microseconds from the start of year 1 in UTC to a time whose zone is so far ahead. -/
def instant (m : Moment) (minutes : Int) : Int :=
  let ours : Int := (m.date.ordinal * dayMinutes + m.hour * 60 + m.minute : Nat)
  ((ours - minutes) * 60 + m.second) * 1000000 + m.micros

/-- The value that a time is. Times of different zones are the same key if they are the same
instant; a time without a zone is that of no other. -/
def value (m : Moment) : Other where
  kind := "datetime"
  text := m.text
  literal := m.literal
  identity := (m.ahead.map fun minutes => Text.decimal (m.instant minutes)).getD m.text

end Moment

namespace Time

/-- Why a date or a time stands for none. -/
def fault? : Time → Option String
  | .day d => dateFault? d
  | .moment m => m.fault?

/-- The value that it is otherwise. -/
def content : Time → Other
  | .day d => dateValue d
  | .moment m => m.value

/-- What a date or a time stands for. -/
def value (t : Time) : Except Fault Value :=
  match t.fault? with
  | some reason => .error (.noDate reason)
  | none => .ok (.other t.content)

end Time

end TxnLog.Settings.Scalar
