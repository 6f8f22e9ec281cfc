import TxnLog.Settings.Document.Token

/-!
# Nodes of a document

A document is a tree of scalars, sequences and mappings. A node that is left out is an empty
plain scalar. Every reader is given a depth, which the number of tokens bounds, as each step down
takes a token at least.
-/

namespace TxnLog.Settings.Document

/-- A node of a document. -/
inductive Node where
  | scalar (text : String) (isPlain : Bool)
  | list (items : List Node)
  | mapping (entries : List (Node × Node))
  deriving Repr, Inhabited

namespace Node

/-- A node that is left out. -/
def empty : Node := .scalar "" true

/-- The fault of tokens of which the first should not be there. -/
def unexpected {α : Type} : List Token → Except Fault α
  | .fault f :: _ => .error f
  | _ => .error .malformed

/-- The node behind the dash of a block sequence is left out. -/
def noItem : List Token → Bool
  | .entry :: _ | .blockEnd :: _ => true
  | _ => false

/-- The node behind a dash at the column of a block mapping is left out. -/
def noLooseItem : List Token → Bool
  | .entry :: _ | .key :: _ | .value :: _ | .blockEnd :: _ => true
  | _ => false

/-- The key or the value in a block mapping is left out. -/
def noPart : List Token → Bool
  | .key :: _ | .value :: _ | .blockEnd :: _ => true
  | _ => false

/-- The key in a flow collection is left out. -/
def noFlowKey : List Token → Bool
  | .value :: _ | .comma :: _ | .flowListEnd :: _ | .flowMappingEnd :: _ => true
  | _ => false

/-- The value in a flow collection is left out. -/
def noFlowValue : List Token → Bool
  | .comma :: _ | .flowListEnd :: _ | .flowMappingEnd :: _ => true
  | _ => false

mutual

/-- Reads a node; one that is no block collection, if `allowsBlock` does not allow for one. -/
def read (depth : Nat) (allowsBlock : Bool) (ts : List Token) :
    Except Fault (Node × List Token) :=
  match depth, ts with
  | _, .scalar s isPlain :: ts => .ok (.scalar s isPlain, ts)
  | depth + 1, .flowList :: ts => readFlowItems depth [] ts
  | depth + 1, .flowMapping :: ts => readFlowEntries depth [] ts
  | depth + 1, .blockList :: after =>
    if allowsBlock then readItems depth [] after else unexpected ts
  | depth + 1, .blockMapping :: after =>
    if allowsBlock then readEntries depth [] after else unexpected ts
  | _, ts => unexpected ts

/-- Reads the elements of a block sequence behind those of `done`, latest first. -/
def readItems (depth : Nat) (done : List Node) (ts : List Token) :
    Except Fault (Node × List Token) :=
  match depth, ts with
  | depth + 1, .entry :: ts =>
    if noItem ts then readItems depth (empty :: done) ts
    else do
      let (item, ts) ← read depth true ts
      readItems depth (item :: done) ts
  | _, .blockEnd :: ts => .ok (.list done.reverse, ts)
  | _, ts => unexpected ts

/-- Reads the elements of a block sequence at the column of the mapping that it is in, behind
those of `done`, latest first. -/
def readLooseItems (depth : Nat) (done : List Node) (ts : List Token) :
    Except Fault (Node × List Token) :=
  match depth, ts with
  | depth + 1, .entry :: ts =>
    if noLooseItem ts then readLooseItems depth (empty :: done) ts
    else do
      let (item, ts) ← read depth true ts
      readLooseItems depth (item :: done) ts
  | _, ts => .ok (.list done.reverse, ts)

/-- Reads a key or a value in a block mapping, which may be left out. -/
def readPart (depth : Nat) (ts : List Token) : Except Fault (Node × List Token) :=
  match depth, ts with
  | depth + 1, .entry :: after => readLooseItems depth [] (.entry :: after)
  | depth + 1, ts => if noPart ts then .ok (empty, ts) else read depth true ts
  | 0, ts => unexpected ts

/-- Reads the entries of a block mapping behind those of `done`, latest first. -/
def readEntries (depth : Nat) (done : List (Node × Node)) (ts : List Token) :
    Except Fault (Node × List Token) :=
  match depth, ts with
  | depth + 1, .key :: ts => do
    let (key, ts) ← readPart depth ts
    match ts with
    | .value :: ts =>
      let (value, ts) ← readPart depth ts
      readEntries depth ((key, value) :: done) ts
    | ts => readEntries depth ((key, empty) :: done) ts
  | _, .blockEnd :: ts => .ok (.mapping done.reverse, ts)
  | _, ts => unexpected ts

/-- Reads a key and its value in a flow collection, either of which may be left out. -/
def readFlowPair (depth : Nat) (ts : List Token) : Except Fault ((Node × Node) × List Token) :=
  match depth with
  | 0 => unexpected ts
  | depth + 1 => do
    let (key, ts) ← if noFlowKey ts then pure (empty, ts) else read depth false ts
    match ts with
    | .value :: ts =>
      let (value, ts) ← if noFlowValue ts then pure (empty, ts) else read depth false ts
      return ((key, value), ts)
    | ts => return ((key, empty), ts)

/-- Reads the elements of a flow sequence behind those of `done`, latest first. -/
def readFlowItems (depth : Nat) (done : List Node) (ts : List Token) :
    Except Fault (Node × List Token) :=
  match depth, ts with
  | _, .flowListEnd :: ts => .ok (.list done.reverse, ts)
  | depth + 1, .key :: ts => do
    let (pair, ts) ← readFlowPair depth ts
    readFlowItemsEnd depth (.mapping [pair] :: done) ts
  | depth + 1, ts => do
    let (item, ts) ← read depth false ts
    readFlowItemsEnd depth (item :: done) ts
  | 0, ts => unexpected ts

/-- Reads what follows the elements `done` of a flow sequence. -/
def readFlowItemsEnd (depth : Nat) (done : List Node) (ts : List Token) :
    Except Fault (Node × List Token) :=
  match depth, ts with
  | _, .flowListEnd :: ts => .ok (.list done.reverse, ts)
  | depth + 1, .comma :: ts => readFlowItems depth done ts
  | _, ts => unexpected ts

/-- Reads the entries of a flow mapping behind those of `done`, latest first. -/
def readFlowEntries (depth : Nat) (done : List (Node × Node)) (ts : List Token) :
    Except Fault (Node × List Token) :=
  match depth, ts with
  | _, .flowMappingEnd :: ts => .ok (.mapping done.reverse, ts)
  | depth + 1, .key :: ts => do
    let (pair, ts) ← readFlowPair depth ts
    readFlowEntriesEnd depth (pair :: done) ts
  | depth + 1, ts => do
    let (key, ts) ← read depth false ts
    readFlowEntriesEnd depth ((key, empty) :: done) ts
  | 0, ts => unexpected ts

/-- Reads what follows the entries `done` of a flow mapping. -/
def readFlowEntriesEnd (depth : Nat) (done : List (Node × Node)) (ts : List Token) :
    Except Fault (Node × List Token) :=
  match depth, ts with
  | _, .flowMappingEnd :: ts => .ok (.mapping done.reverse, ts)
  | depth + 1, .comma :: ts => readFlowEntries depth done ts
  | _, ts => unexpected ts

end

/-- The document is left out behind the mark of its start. -/
def noDocument : List Token → Bool
  | .documentStart :: _ | .documentEnd :: _ | .ended :: _ => true
  | _ => false

/-- Nothing but marks of the end of a document follows a document. -/
def readEnd : List Token → Except Fault Unit
  | .documentEnd :: ts => readEnd ts
  | [.ended] => .ok ()
  | ts => unexpected ts

/-- The root node of the one document that tokens make up, if there is one. -/
def ofTokens (ts : List Token) : Except Fault (Option Node) :=
  let depth := 2 * ts.length + 2
  match ts with
  | [.ended] => .ok none
  | .documentStart :: ts => do
    let (node, ts) ← if noDocument ts then pure (empty, ts) else read depth true ts
    readEnd ts
    return some node
  | ts => do
    let (node, ts) ← read depth true ts
    readEnd ts
    return some node

end Node

end TxnLog.Settings.Document
