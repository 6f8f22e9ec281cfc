import TxnLog.Settings.Document.Plain

/-!
# Tokens of a document

A document is a sequence of tokens: scalars, the characters that structure it, and three kinds of
tokens that no character stands for. A block collection starts where a key or a dash is indented
by more columns than those before and ends where something is indented by less; and a key is
recognised by the colon behind it, so its token comes in front of what is read already.

`Token.ofText` gives the tokens of a text. The last of them says that the text ends, or which
fault keeps it from being read on.
-/

namespace TxnLog.Settings.Document

/-- A token of a document. -/
inductive Token where
  | documentStart
  | documentEnd
  /-- A block sequence starts. -/
  | blockList
  /-- A block mapping starts. -/
  | blockMapping
  /-- A block collection ends. -/
  | blockEnd
  | flowList
  | flowListEnd
  | flowMapping
  | flowMappingEnd
  /-- The dash before an element of a block sequence. -/
  | entry
  /-- The comma between elements of a flow collection. -/
  | comma
  /-- A key comes next. -/
  | key
  /-- The value of a key comes next. -/
  | value
  | scalar (text : String) (isPlain : Bool)
  /-- The text ends. -/
  | ended
  /-- The text cannot be read on. -/
  | fault (f : Fault)

/-- A place where a key may have started, if a colon follows on its line. -/
structure KeyStart where
  /-- The number of tokens before it. -/
  slot : Nat
  /-- A colon has to follow. -/
  required : Bool
  /-- The number of characters from its start on. -/
  left : Nat
  line : Nat
  column : Nat

/-- What is read of a document. -/
structure Layout where
  position : Position
  tokens : Array Token := #[]
  /-- The columns of the open block collections, the innermost first. -/
  columns : List Nat := []
  /-- A key may start here. -/
  allowsKey : Bool := true
  /-- Where a key may have started, inside the present pair of brackets or braces. -/
  keyStart : Option KeyStart := none
  /-- The same for the pairs around it, the innermost first, and for the text around all. -/
  outer : List (Option KeyStart) := []
  /-- The text has ended. -/
  isDone : Bool := false

namespace Layout

/-- The place is inside brackets or braces. -/
def inFlow (s : Layout) : Bool := !s.outer.isEmpty

/-- The most characters between the start of a key and its colon. -/
def keyReach : Nat := 1024

/-- Adds a token. -/
def push (s : Layout) (t : Token) : Layout := { s with tokens := s.tokens.push t }

/-- Moves on by so many characters. -/
def advance (s : Layout) (n : Nat) : Layout := { s with position := s.position.skip n }

/-- Forgets a start of a key that no colon can reach any more. -/
def reachable (p : Position) (start : Option KeyStart) : Except Stuck (Option KeyStart) :=
  match start with
  | none => .ok none
  | some k =>
    if k.line = p.line ∧ k.left - p.left ≤ keyReach then .ok start
    else if k.required then .error (.fault .malformed)
    else .ok none

/-- Forgets all starts of keys that no colon can reach any more. -/
def forgetKeys (s : Layout) : Except Stuck Layout := do
  let keyStart ← reachable s.position s.keyStart
  let outer ← s.outer.mapM (reachable s.position)
  return { s with keyStart, outer }

/-- Forgets the start of a key inside the present pair. -/
def dropKey (s : Layout) : Except Stuck Layout :=
  if s.keyStart.any (·.required) then .error (.fault .malformed)
  else .ok { s with keyStart := none }

/-- Notes that a key may start here. -/
def noteKey (s : Layout) : Except Stuck Layout :=
  let p := s.position
  if s.allowsKey then do
    let s ← s.dropKey
    let required := !s.inFlow && s.columns.head? = some p.column
    return { s with keyStart := some ⟨s.tokens.size, required, p.left, p.line, p.column⟩ }
  else .ok s

/-- The number of tokens before the first that may turn out to be a key. -/
def settled (s : Layout) : Nat :=
  (s.keyStart :: s.outer).foldl (fun n start => (start.map fun k => min n k.slot).getD n)
    s.tokens.size

/-- Ends the block collections that `isInside` does not keep open. -/
def endBlocks (s : Layout) (isInside : Nat → Bool) : Layout :=
  if s.inFlow then s
  else
    let ended := s.columns.takeWhile fun column => !isInside column
    { s with
      columns := s.columns.drop ended.length
      tokens := s.tokens ++ Array.replicate ended.length .blockEnd }

/-- Starts a block collection at a column, if it is indented by more than those before; `insert`
puts its token in place. -/
def startBlock (s : Layout) (column : Nat) (insert : Layout → Layout) : Layout :=
  if s.columns.head?.all (· < column) then insert { s with columns := column :: s.columns }
  else s

/-- Moves on to the next token, over spaces, comments and line breaks. -/
def skipGap (s : Layout) : Layout :=
  let rec go (allowsKey inComment : Bool) (taken : Nat) : List Char → Bool × Nat
    | [] => (allowsKey, taken)
    | c :: cs =>
      if isBreak c then go (allowsKey || !s.inFlow) false (taken + 1) cs
      else if inComment || c = ' ' then go allowsKey inComment (taken + 1) cs
      else if c = '#' then go allowsKey true (taken + 1) cs
      else (allowsKey, taken)
  let (allowsKey, taken) := go s.allowsKey false 0 s.position.chars
  { s.advance taken with allowsKey }

/-- Reads a mark of the start or the end of a document. -/
def readMark (s : Layout) (t : Token) : Except Stuck Layout := do
  let s ← (s.endBlocks fun _ => false).dropKey
  return { (s.advance 3).push t with allowsKey := false }

/-- Reads an opening bracket or brace. -/
def readOpening (s : Layout) (t : Token) : Except Stuck Layout := do
  let s ← s.noteKey
  return { (s.advance 1).push t with
    keyStart := none, outer := s.keyStart :: s.outer, allowsKey := true }

/-- Reads a closing bracket or brace. -/
def readClosing (s : Layout) (t : Token) : Except Stuck Layout := do
  let s ← s.dropKey
  return { (s.advance 1).push t with
    keyStart := s.outer.head?.join, outer := s.outer.drop 1, allowsKey := false }

/-- Reads a comma. -/
def readComma (s : Layout) : Except Stuck Layout := do
  let s ← s.dropKey
  return { (s.advance 1).push .comma with allowsKey := true }

/-- Starts a block collection here, unless the place is inside brackets or braces. -/
def startBlockHere (s : Layout) (t : Token) : Except Stuck Layout :=
  if s.inFlow then .ok s
  else if s.allowsKey then .ok (s.startBlock s.position.column (·.push t))
  else .error (.fault .malformed)

/-- Reads the dash before an element of a block sequence. -/
def readEntry (s : Layout) : Except Stuck Layout := do
  let s ← (← s.startBlockHere .blockList).dropKey
  return { (s.advance 1).push .entry with allowsKey := true }

/-- Reads the question mark before a key. -/
def readKey (s : Layout) : Except Stuck Layout := do
  let s ← (← s.startBlockHere .blockMapping).dropKey
  return { (s.advance 1).push .key with allowsKey := !s.inFlow }

/-- Reads the colon before a value. If a key may have started, it has. -/
def readValue (s : Layout) : Except Stuck Layout :=
  match s.keyStart with
  | some k =>
    let insert (t : Token) (s : Layout) : Layout :=
      { s with tokens := s.tokens.insertIdxIfInBounds k.slot t }
    let s := insert .key { s with keyStart := none, allowsKey := false }
    let s := if s.inFlow then s else s.startBlock k.column (insert .blockMapping)
    .ok ((s.advance 1).push .value)
  | none => do
    let s ← s.startBlockHere .blockMapping
    return { (s.advance 1).push .value with allowsKey := !s.inFlow }

/-- Reads a quoted scalar. -/
def readQuoted (s : Layout) (quote : Char) (behind : List Char) : Except Stuck Layout := do
  let s ← s.noteKey
  let e ← Quoted.read quote ⟨[], 1⟩ behind
  return { (s.advance e.taken).push (.scalar (String.ofList e.text.reverse) false) with
    allowsKey := false }

/-- Reads a plain scalar. -/
def readPlain (s : Layout) : Except Stuck Layout := do
  let s ← s.noteKey
  let least := (s.columns.head?.map (· + 1)).getD 0
  let ⟨e, endsLine⟩ := Plain.read s.inFlow least ⟨[], 0⟩ s.position.chars
  return { (s.advance e.taken).push (.scalar (String.ofList e.text.reverse) true) with
    allowsKey := endsLine }

/-- Reads the end of the text. -/
def readEnd (s : Layout) : Except Stuck Layout := do
  let s ← (s.endBlocks fun _ => false).dropKey
  return { s.push .ended with isDone := true }

/-- Reads the next token. Directives, anchors, tags and block scalars are refused. -/
def readToken (s : Layout) : Except Stuck Layout := do
  let s ← s.skipGap.forgetKeys
  let column := s.position.column
  let s := s.endBlocks (· ≤ column)
  match s.position.chars with
  | [] => s.readEnd
  | c :: cs =>
    let separates := s.inFlow || atGap cs
    if column = 0 ∧ atMark startMark (c :: cs) then s.readMark .documentStart
    else if column = 0 ∧ atMark endMark (c :: cs) then s.readMark .documentEnd
    else if c = '[' then s.readOpening .flowList
    else if c = '\x7b' then s.readOpening .flowMapping
    else if c = ']' then s.readClosing .flowListEnd
    else if c = '\x7d' then s.readClosing .flowMappingEnd
    else if c = ',' then s.readComma
    else if c = '-' ∧ atGap cs then s.readEntry
    else if c = '?' ∧ separates then s.readKey
    else if c = ':' ∧ separates then s.readValue
    else if c = '\x27' ∨ c = '\x22' then s.readQuoted c cs
    else if Plain.starts s.inFlow (c :: cs) then s.readPlain
    else .error (.fault .malformed)

end Layout

namespace Token

/-- The tokens of a document from a place on, of a text that `problem` cuts short. Where a token
cannot be read, those that may be keys are not known either. -/
def read (problem : Option Fault) (s : Layout) : List Token :=
  let stop (f : Fault) (known : Nat) : List Token := s.tokens.toList.take known ++ [.fault f]
  match s.forgetKeys with
  | .error _ => stop .malformed s.settled
  | .ok known =>
    match known.readToken with
    | .error .ended => stop (problem.getD .malformed) known.settled
    | .error (.fault f) => stop f known.settled
    | .ok next =>
      match problem with
      | some f =>
        if next.position.chars.isEmpty then stop f known.settled
        else if next.position.left < s.position.left then read (some f) next
        else stop .malformed known.settled
      | none =>
        if next.isDone then next.tokens.toList
        else if next.position.left < s.position.left then read none next
        else stop .malformed known.settled
termination_by s.position.left

/-- The tokens of a text, up to its end or to the fault that cuts it short. A byte order mark at
its start does not count. -/
def ofText (cs : List Char) (problem : Option Fault) : List Token :=
  let start := Position.start cs
  read problem { position := if cs.head? = some '\ufeff' then start.next else start }

end Token

end TxnLog.Settings.Document
