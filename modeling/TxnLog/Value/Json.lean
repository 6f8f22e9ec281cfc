import TxnLog.Value

/-!
# Values as JSON

A value is written on one line of ASCII: what is not ASCII is escaped by its UTF-16 units, and what
has no form in JSON is written out in a string. A key of such a kind keeps the value that holds it
from being written, as an integer with too many digits does; `jsonFault?` tells which of these comes
first.
-/

namespace TxnLog

/-- What keeps a value from being written as JSON. -/
inductive JsonFault where
  /-- An integer has too many digits. -/
  | longInteger
  /-- A key is of a kind that has no form in JSON. -/
  | foreignKey
  deriving DecidableEq, Repr

/-- What keeps a key from being written. -/
def Key.jsonFault? : Key → Option JsonFault
  | .null | .truth _ | .text _ => none
  | .number n => if n.isWritable then none else some .longInteger
  | .bytes _ | .other _ => some .foreignKey

namespace Value

mutual

/-- What keeps a value from being written, the first of it in the order of writing. -/
def jsonFault? : Value → Option JsonFault
  | .null | .truth _ | .text _ | .bytes _ => none
  | .number n => if n.isWritable then none else some .longInteger
  | .other o => if o.isWritable then none else some .longInteger
  | .list items => jsonFaultOfItems? items
  | .mapping entries => jsonFaultOfEntries? entries

/-- What keeps the elements of a list from being written. -/
def jsonFaultOfItems? : List Value → Option JsonFault
  | [] => none
  | v :: vs => (jsonFault? v).or (jsonFaultOfItems? vs)

/-- What keeps the entries of a mapping from being written. -/
def jsonFaultOfEntries? : List (Key × Value) → Option JsonFault
  | [] => none
  | (k, v) :: entries => (k.jsonFault?.or (jsonFault? v)).or (jsonFaultOfEntries? entries)

end

/-- A UTF-16 unit, escaped. -/
def jsonUnit (n : Nat) : String := "\\u" ++ Text.padZeros 4 (Text.hexDigits n)

/-- A character of a JSON string. -/
def jsonChar (c : Char) : String :=
  if c = '\x22' ∨ c = '\\' then String.ofList ['\\', c]
  else if c = '\n' then "\\n"
  else if c = '\r' then "\\r"
  else if c = '\t' then "\\t"
  else if c = '\x08' then "\\b"
  else if c = '\x0c' then "\\f"
  else if ' ' ≤ c ∧ c ≤ '~' then c.toString
  else
    let n := c.toNat
    if n < 0x10000 then jsonUnit n
    else jsonUnit (0xd800 + (n - 0x10000) / 0x400) ++ jsonUnit (0xdc00 + (n - 0x10000) % 0x400)

/-- A JSON string. -/
def jsonString (s : String) : String := "\"" ++ String.join (s.toList.map jsonChar) ++ "\""

/-- A number. The infinities and what is no number have names of their own. -/
def jsonNumber : Number → String
  | .real .nan => "NaN"
  | .real (.infinite negative) => if negative then "-Infinity" else "Infinity"
  | n => n.text

/-- A key as JSON, where all keys are strings. The last two kinds are not written. -/
def jsonKey : Key → String
  | .null => jsonString "null"
  | .truth b => jsonString (if b then "true" else "false")
  | .number n => jsonString (jsonNumber n)
  | .text s => jsonString s
  | .bytes bs => jsonString (Text.Quoted.bytes bs)
  | .other o => jsonString o.literal

mutual

/-- A value as JSON. -/
def json : Value → String
  | .null => "null"
  | .truth b => if b then "true" else "false"
  | .number n => jsonNumber n
  | .text s => jsonString s
  | .bytes bs => jsonString (Text.Quoted.bytes bs)
  | .other o => jsonString o.literal
  | .list [] => "[]"
  | .list (v :: vs) => jsonItems ("[" ++ json v) vs ++ "]"
  | .mapping [] => "\x7b\x7d"
  | .mapping ((k, v) :: entries) =>
    jsonEntries ("\x7b" ++ jsonKey k ++ ": " ++ json v) entries ++ "\x7d"

/-- Further elements of a list behind the text `done`. -/
def jsonItems (done : String) : List Value → String
  | [] => done
  | v :: vs => jsonItems (done ++ ", " ++ json v) vs

/-- Further entries of a mapping behind the text `done`. -/
def jsonEntries (done : String) : List (Key × Value) → String
  | [] => done
  | (k, v) :: entries => jsonEntries (done ++ ", " ++ jsonKey k ++ ": " ++ json v) entries

end

end Value

end TxnLog
