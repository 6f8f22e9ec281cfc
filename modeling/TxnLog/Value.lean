import TxnLog.Number.Literal
import TxnLog.Number.Shortest
import TxnLog.Text.Quoted

/-!
# Values

What a settings file, a setting or a field of a diagnostic record can hold: nothing, truth
values, numbers, texts, byte strings, lists and mappings, and values of further kinds, such as
dates, that are only written. A mapping keeps its keys in the order in which they came. Keys are
texts as a rule, but whatever is no list and no mapping can be a key as well.
-/

namespace TxnLog

/-- A number of a setting: an integer of any size, or a double. -/
inductive Number where
  | whole (n : Int)
  | real (x : Binary64)
  deriving DecidableEq, Repr

namespace Number

/-- The number as text. -/
def text : Number → String
  | .whole n => Text.decimal n
  | .real x => x.text

/-- The number is below zero. -/
def isNegative : Number → Bool
  | .whole n => n < 0
  | .real x => x.isNegative

/-- The number is zero or below. -/
def isNonPositive : Number → Bool
  | .whole n => n ≤ 0
  | .real x => x.isNegative || x.isZero

/-- A number equal to an integer as that integer, any other as it is. -/
def normal : Number → Number
  | .whole n => .whole n
  | .real (.finite negative m q) =>
    let n := Binary64.truncate negative m q
    if m * Binary64.power 2 q = n.natAbs * Binary64.power 2 (-q) then .whole n
    else .real (.finite negative m q)
  | .real x => .real x

/-- The number may be written as text. -/
def isWritable : Number → Bool
  | .whole n => Literal.isWritable n
  | .real _ => true

end Number

/-- A value of a kind that nobody looks into, such as a date, a time or a set: what counts of it is
how it is written, and whether it can be a key. -/
structure Other where
  /-- The name of its kind. -/
  kind : String
  /-- The value as a text. -/
  text : String
  /-- The value written out. -/
  literal : String
  /-- What tells it apart from others of its kind where it is a key. -/
  identity : String
  /-- It can be a key, and be looked up like one. -/
  isKey : Bool := true
  /-- The value may be written as text. -/
  isWritable : Bool := true
  deriving DecidableEq, Repr

/-- A key of a mapping. -/
inductive Key where
  | null
  | truth (b : Bool)
  | number (n : Number)
  | text (s : String)
  | bytes (bs : Bytes)
  | other (o : Other)
  deriving Repr, Inhabited

namespace Key

instance : Coe String Key := ⟨.text⟩

/-- What tells keys apart: nothing, a number, a text, a byte string, or what tells values of some
further kind apart. -/
inductive Identity where
  | null
  | number (n : Number)
  | text (s : String)
  | bytes (bs : Bytes)
  | other (kind identity : String)
  deriving DecidableEq, Repr

/-- What a key counts as: truth values count as 0 and 1, and numbers by what they are equal to,
not by how they are kept. -/
def identity : Key → Identity
  | .null => .null
  | .truth b => .number (.whole (if b then 1 else 0))
  | .number n => .number n.normal
  | .text s => .text s
  | .bytes bs => .bytes bs
  | .other o => .other o.kind o.identity

instance : BEq Key := ⟨fun a b => decide (a.identity = b.identity)⟩

/-- Keys are the same if they count as the same. -/
theorem beq_iff {a b : Key} : (a == b) = true ↔ a.identity = b.identity := by
  simp [BEq.beq]

/-- A text is the same key as that text alone. -/
@[simp] theorem text_beq_text {s t : String} : (Key.text s == Key.text t) = true ↔ s = t := by
  simp [beq_iff, identity]

/-- The key written out, a text in quotes. -/
def literal : Key → String
  | .null => "None"
  | .truth b => if b then "True" else "False"
  | .number n => n.text
  | .text s => Text.Quoted.text s
  | .bytes bs => Text.Quoted.bytes bs
  | .other o => o.literal

/-- The key may be written as text. -/
def isWritable : Key → Bool
  | .number n => n.isWritable
  | .other o => o.isWritable
  | .null | .truth _ | .text _ | .bytes _ => true

end Key

/-- A value of a settings file or a diagnostic record. -/
inductive Value where
  | null
  | truth (b : Bool)
  | number (n : Number)
  | text (s : String)
  | bytes (bs : Bytes)
  | other (o : Other)
  | list (items : List Value)
  | mapping (entries : List (Key × Value))
  deriving Repr, Inhabited

namespace Value

/-- An integer value. -/
def int (n : Int) : Value := .number (.whole n)

/-- The name of the kind of a value. -/
def kind : Value → String
  | .null => "NoneType"
  | .truth _ => "bool"
  | .number (.whole _) => "int"
  | .number (.real _) => "float"
  | .text _ => "str"
  | .bytes _ => "bytes"
  | .other o => o.kind
  | .list _ => "list"
  | .mapping _ => "dict"

mutual

/-- The value written out, texts in quotes. -/
def literal : Value → String
  | .null => "None"
  | .truth b => if b then "True" else "False"
  | .number n => n.text
  | .text s => Text.Quoted.text s
  | .bytes bs => Text.Quoted.bytes bs
  | .other o => o.literal
  | .list [] => "[]"
  | .list (v :: vs) => literals ("[" ++ literal v) vs ++ "]"
  | .mapping [] => "\x7b\x7d"
  | .mapping ((k, v) :: entries) =>
    entryLiterals ("\x7b" ++ k.literal ++ ": " ++ literal v) entries ++ "\x7d"

/-- Further elements of a list behind the text `done`. -/
def literals (done : String) : List Value → String
  | [] => done
  | v :: vs => literals (done ++ ", " ++ literal v) vs

/-- Further entries of a mapping behind the text `done`. -/
def entryLiterals (done : String) : List (Key × Value) → String
  | [] => done
  | (k, v) :: entries =>
    entryLiterals (done ++ ", " ++ k.literal ++ ": " ++ literal v) entries

end

mutual

/-- The value may be written as text: no integer in it has too many digits. -/
def isWritable : Value → Bool
  | .null | .truth _ | .text _ | .bytes _ => true
  | .number n => n.isWritable
  | .other o => o.isWritable
  | .list items => areWritable items
  | .mapping entries => entriesAreWritable entries

/-- All elements of a list may be written. -/
def areWritable : List Value → Bool
  | [] => true
  | v :: vs => isWritable v && areWritable vs

/-- All entries of a mapping may be written. -/
def entriesAreWritable : List (Key × Value) → Bool
  | [] => true
  | (k, v) :: entries => k.isWritable && isWritable v && entriesAreWritable entries

end

/-- The value as a text: a text stands for itself. -/
def display : Value → String
  | .text s => s
  | .other o => o.text
  | v => v.literal

end Value

end TxnLog
