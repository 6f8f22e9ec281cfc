import TxnLog.Settings.Scalar.Number
import TxnLog.Settings.Scalar.Time

/-!
# Plain scalars

A scalar without quotes stands for nothing, a truth value, an integer, a double, a date, a date with
a time of day or, if it has none of their forms, for itself. The forms are those of YAML 1.1.
-/

namespace TxnLog.Settings.Scalar

/-- The spellings of nothing. -/
def nulls : List String := ["", "~", "null", "Null", "NULL"]

/-- The spellings of true. -/
def trues : List String := ["yes", "Yes", "YES", "true", "True", "TRUE", "on", "On", "ON"]

/-- The spellings of false. -/
def falses : List String := ["no", "No", "NO", "false", "False", "FALSE", "off", "Off", "OFF"]

/-- The spelling of a key whose value is laid under the mapping that holds it. -/
def merge : String := "<<"

/-- The spellings with a meaning of their own, which no value can have. -/
def reserved : List String := ["=", merge]

/-- What a plain scalar stands for. -/
def resolve (s : String) : Except Fault Value :=
  if nulls.contains s then .ok .null
  else if trues.contains s then .ok (.truth true)
  else if falses.contains s then .ok (.truth false)
  else if reserved.contains s then .error .malformed
  else
    match int? s.toList, real? s.toList, time? s.toList with
    | some r, _, _ => r.map .int
    | none, some x, _ => .ok (.number (.real x))
    | none, none, some t => t.value
    | none, none, none => .ok (.text s)

end TxnLog.Settings.Scalar
