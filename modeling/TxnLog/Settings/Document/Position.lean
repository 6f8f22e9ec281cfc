import TxnLog.Settings.Fault

/-!
# Positions in a document

A `Position` is a place in the text of a document with the characters from there on. Lines end at
a line feed and at three further characters, of which the first reads as a line feed. A line that
starts with three dashes or dots is a mark of the start or the end of a document.
-/

namespace TxnLog.Settings.Document

/-- A character that ends a line. -/
def isBreak (c : Char) : Bool := c = '\n' || c = '\x85' || c = '\u2028' || c = '\u2029'

/-- A space or a tab. -/
def isBlank (c : Char) : Bool := c = ' ' || c = '\t'

/-- A blank, the end of the line or the end of the text comes next. -/
def atGap : List Char → Bool
  | [] => true
  | c :: _ => isBlank c || isBreak c

/-- The mark of the start of a document. -/
def startMark : List Char := ['-', '-', '-']

/-- The mark of the end of a document. -/
def endMark : List Char := ['.', '.', '.']

/-- A mark comes next, if this is the start of a line. -/
def atMark (mark : List Char) (cs : List Char) : Bool := cs.take 3 = mark && atGap (cs.drop 3)

/-- A mark of either kind comes next, if this is the start of a line. -/
def atAnyMark (cs : List Char) : Bool := atMark startMark cs || atMark endMark cs

/-- What a line break reads as. -/
def breakText (c : Char) : Char := if c = '\x85' then '\n' else c

/-- What the line break `first` in a scalar reads as when the breaks of empty lines follow: a
single line feed reads as a space, and before others it does not count. -/
def folded (first : Char) (more : List Char) : List Char :=
  if breakText first ≠ '\n' then first :: more
  else if more.isEmpty then [' '] else more

/-- The characters up to the next line that is not empty, if `cs` starts at the start of a line
or behind one, as `atStart` tells, and whether that line is a mark. Lines with blanks alone, as
`skips` tells, are empty. -/
def emptyLines (skips : Char → Bool) (atStart : Bool) : List Char → List Char × Bool
  | [] => ([], false)
  | c :: cs =>
    if atStart && atAnyMark (c :: cs) then ([], true)
    else if isBreak c then
      let (taken, marked) := emptyLines skips true cs
      (c :: taken, marked)
    else if skips c then
      let (taken, marked) := emptyLines skips false cs
      (c :: taken, marked)
    else ([], false)

/-- What the breaks among characters read as. -/
def breaksOf (cs : List Char) : List Char := (cs.filter isBreak).map breakText

/-- The number of characters after the last break. -/
def columnAfter (cs : List Char) : Nat := (cs.reverse.takeWhile fun c => !isBreak c).length

/-- A place in a document. -/
structure Position where
  /-- The characters from here on. -/
  chars : List Char
  /-- Their number. -/
  left : Nat
  line : Nat := 0
  column : Nat := 0

namespace Position

/-- The start of a text. -/
def start (cs : List Char) : Position := { chars := cs, left := cs.length }

/-- The place behind the next character. A byte order mark takes no column. -/
def next (p : Position) : Position :=
  match p.chars with
  | [] => p
  | c :: cs =>
    if isBreak c then ⟨cs, p.left - 1, p.line + 1, 0⟩
    else ⟨cs, p.left - 1, p.line, if c = '\ufeff' then p.column else p.column + 1⟩

/-- The place behind the next `n` characters. -/
def skip (p : Position) : (n : Nat) → Position
  | 0 => p
  | n + 1 => p.next.skip n

end Position

end TxnLog.Settings.Document
