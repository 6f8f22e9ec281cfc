import TxnLog.Settings.Document.Position
import TxnLog.Settings.Scalar

/-!
# Quoted scalars

A scalar in single quotes holds a quote where two stand; one in double quotes has escapes. In
both a line break and the blanks around it read as a space, and empty lines as line breaks.
-/

namespace TxnLog.Settings.Document

/-- Why a scalar cannot be read. -/
inductive Stuck where
  /-- The text ends inside the scalar. -/
  | ended
  /-- The text has a fault. -/
  | fault (f : Fault)

/-- The text of a scalar, latest character first, and the number of characters it takes. -/
structure Extent where
  text : List Char
  taken : Nat

namespace Quoted

/-- The characters that a letter after a backslash stands for. -/
def escapes : List (Char × Char) := [
  ('0', '\x00'), ('a', '\x07'), ('b', '\x08'), ('t', '\t'), ('\t', '\t'), ('n', '\n'),
  ('v', '\x0b'), ('f', '\x0c'), ('r', '\r'), ('e', '\x1b'), (' ', ' '), ('\x22', '\x22'),
  ('/', '/'), ('\\', '\\'), ('N', '\x85'), ('_', '\xa0'), ('L', '\u2028'), ('P', '\u2029')]

/-- The number of digits of the code after a letter that announces one. -/
def codeWidths : List (Char × Nat) := [('x', 2), ('u', 4), ('U', 8)]

/-- The character with a code of so many hexadecimal digits. -/
def coded (width : Nat) (cs : List Char) : Except Stuck Char :=
  match (cs.take width).mapM (Scalar.digit? 16) with
  | none => .error (.fault .malformed)
  | some digits =>
    let n := Scalar.number 16 digits
    if digits.length < width then .error .ended
    else if 0x80000000 ≤ n then .error (.fault .longCode)
    else if 0x110000 ≤ n then .error (.fault .noCharacter)
    else .ok (Char.ofNat n)

/-- A line break between two lines of the scalar, and the characters up to the second one. -/
def fold (first : Char) (after : List Char) : Except Stuck Extent :=
  let (taken, marked) := emptyLines isBlank true after
  if marked then .error (.fault .malformed)
  else .ok ⟨(folded first (breaksOf taken)).reverse, taken.length⟩

/-- A line break behind a backslash, which does not count, and the characters up to the next
line. -/
def joined (after : List Char) : Except Stuck Extent :=
  let (taken, marked) := emptyLines isBlank true after
  if marked then .error (.fault .malformed) else .ok ⟨(breaksOf taken).reverse, taken.length⟩

/-- What stands behind a backslash. -/
def escaped : List Char → Except Stuck Extent
  | [] => .error .ended
  | c :: cs =>
    match codeWidths.lookup c, escapes.lookup c with
    | some width, _ => (coded width cs).map fun d => ⟨[d], width + 1⟩
    | none, some d => .ok ⟨[d], 1⟩
    | none, none =>
      if isBreak c then (joined cs).map fun e => ⟨e.text, e.taken + 1⟩
      else .error (.fault .malformed)

/-- What blanks in front of `cs` stand for: themselves, unless a line break follows. -/
def blanks (given : List Char) : (cs : List Char) → Except Stuck Extent
  | [] => .error .ended
  | c :: cs =>
    if isBreak c then (fold c cs).map fun e => ⟨e.text, given.length + 1 + e.taken⟩
    else .ok ⟨given.reverse, given.length⟩

/-- Reads a scalar behind its first quote, of which `done` is known already. -/
def read (quote : Char) (done : Extent) : List Char → Except Stuck Extent
  | [] => .error .ended
  | c :: cs =>
    if c = quote then
      if quote = '\x27' ∧ cs.head? = some '\x27' then
        read quote ⟨c :: done.text, done.taken + 2⟩ (cs.drop 1)
      else .ok ⟨done.text, done.taken + 1⟩
    else if c = '\\' ∧ quote = '\x22' then do
      let e ← escaped cs
      read quote ⟨e.text ++ done.text, done.taken + 1 + e.taken⟩ (cs.drop e.taken)
    else if isBlank c || isBreak c then do
      let given := (c :: cs).takeWhile isBlank
      let e ← blanks given ((c :: cs).drop given.length)
      read quote ⟨e.text ++ done.text, done.taken + max 1 e.taken⟩ (cs.drop (e.taken - 1))
    else read quote ⟨c :: done.text, done.taken + 1⟩ cs
termination_by cs => cs.length
decreasing_by all_goals simp only [List.length_cons, List.length_drop]; omega

end Quoted

end TxnLog.Settings.Document
