import TxnLog.Settings.Document.Quoted

/-!
# Plain scalars in a document

A scalar without quotes is made of words. It goes on over gaps of spaces and over line breaks as
long as the next line is indented, and ends at a comment, at a colon that separates a key from
its value and, between brackets or braces, at the characters that structure what is there.
-/

namespace TxnLog.Settings.Document.Plain

/-- Characters that a plain scalar cannot start with. -/
def indicators : List Char := [
  '-', '?', ':', ',', '[', ']', '\x7b', '\x7d', '#', '&', '*', '!', '|', '>', '\x27', '\x22', '%',
  '@', '\x60']

/-- A plain scalar can start here; `inFlow` tells whether this is between brackets or braces. -/
def starts (inFlow : Bool) : List Char → Bool
  | [] => false
  | c :: cs =>
    !(isBlank c || isBreak c || indicators.contains c)
      || (!atGap cs && (c = '-' || (!inFlow && (c = '?' || c = ':'))))

/-- Characters that structure a flow node. -/
def isFlow (c : Char) : Bool := [',', '[', ']', '\x7b', '\x7d'].contains c

/-- A word ends here. -/
def endsWord (inFlow : Bool) : List Char → Bool
  | [] => true
  | c :: cs =>
    isBlank c || isBreak c
      || (c = ':' && (atGap cs || (inFlow && (cs.head?.map isFlow).getD false)))
      || (inFlow && (isFlow c || c = '?'))

/-- A gap behind a word. -/
structure Gap where
  /-- What it reads as, if another word follows. -/
  text : List Char
  /-- The number of characters it takes. -/
  taken : Nat
  /-- The column of what follows, if that is on another line. -/
  column? : Option Nat
  /-- No word can follow. -/
  isLast : Bool

/-- The gap at the start of `cs`. -/
def gap (cs : List Char) : Gap :=
  let spaces := cs.takeWhile (· = ' ')
  match cs.drop spaces.length with
  | c :: after =>
    if isBreak c then
      let (taken, marked) := emptyLines (· = ' ') true after
      { text := folded c (breaksOf taken)
        taken := spaces.length + 1 + taken.length
        column? := some (columnAfter taken)
        isLast := marked }
    else { text := spaces, taken := spaces.length, column? := none, isLast := spaces.isEmpty }
  | [] => { text := spaces, taken := spaces.length, column? := none, isLast := spaces.isEmpty }

/-- A plain scalar, with what is behind it. -/
structure Result where
  extent : Extent
  /-- It ends with a line break. -/
  endsLine : Bool

/-- Reads a plain scalar from inside a word, of which `done` is known already; further lines are
indented by `least` columns at least. -/
def read (inFlow : Bool) (least : Nat) (done : Extent) : List Char → Result
  | [] => ⟨done, false⟩
  | c :: cs =>
    if endsWord inFlow (c :: cs) then
      let g := gap (c :: cs)
      let rest := (c :: cs).drop g.taken
      let isIndented := inFlow || g.column?.all (least ≤ ·)
      if g.isLast ∨ g.taken = 0 ∨ rest.head? = some '#' ∨ !isIndented ∨ endsWord inFlow rest then
        ⟨⟨done.text, done.taken + g.taken⟩, g.column?.isSome⟩
      else read inFlow least ⟨g.text.reverse ++ done.text, done.taken + g.taken⟩ rest
    else read inFlow least ⟨c :: done.text, done.taken + 1⟩ cs
termination_by cs => cs.length
decreasing_by
  · rename_i h
    have : (gap (c :: cs)).taken ≠ 0 := fun none => h (.inr (.inl none))
    simp only [List.length_cons, List.length_drop]
    omega
  · simp

end TxnLog.Settings.Document.Plain
