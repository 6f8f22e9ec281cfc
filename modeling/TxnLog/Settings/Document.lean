import TxnLog.Settings
import TxnLog.Settings.Document.Node
import TxnLog.Settings.Document.Source

/-!
# Settings files

A settings file is a YAML document of a plain kind: block mappings and sequences, told apart
by indentation, flow mappings and sequences in braces and brackets, and plain or quoted
scalars. Anchors, tags, and with them byte strings and sets, directives, block scalars and several
documents in one file are refused.

The text of the file is read as tokens, the tokens as a tree of nodes, and the tree as a value.
Where several scalars of the tree stand for no value, the fault is that of the one that is least
deep, and of several equally deep ones that of the first.

This is the reader that the command has. What the program does is said for any reader, and for all
values that one may give.
-/

namespace TxnLog.Settings.Document

/-- A fault in a tree of nodes, and how deep it is. -/
structure Misfit where
  depth : Nat
  fault : Fault

/-- What a node stands for. -/
abbrev Meaning (α : Type) : Type := Except Misfit α

namespace Meaning

/-- A fault of the node itself. -/
def fail {α : Type} (f : Fault) : Meaning α := .error ⟨0, f⟩

/-- The meaning of something inside a node. -/
def inside {α : Type} : Meaning α → Meaning α
  | .ok a => .ok a
  | .error m => .error ⟨m.depth + 1, m.fault⟩

/-- Joins two meanings. Of two faults the less deep one counts, and else the first. -/
def join {α β γ : Type} (f : α → β → γ) : Meaning α → Meaning β → Meaning γ
  | .ok a, .ok b => .ok (f a b)
  | .ok _, .error m => .error m
  | .error m, .ok _ => .error m
  | .error m, .error n => .error (if n.depth < m.depth then n else m)

end Meaning

/-- The entries of a mapping, of which some are laid under the others. -/
structure Entries where
  under : Meaning (List (Key × Value))
  own : Meaning (List (Key × Value))

/-- All entries in the order in which they are put. -/
def Entries.all (e : Entries) : Meaning (List (Key × Value)) := e.under.join (· ++ ·) e.own

/-- The mapping that holds entries, of which a later one replaces one before with its key. -/
def mappingOf (entries : List (Key × Value)) : Value :=
  .mapping (entries.foldl (fun s (k, v) => put k v s) [])

/-- The key that a value is. -/
def keyOf : Value → Meaning Key
  | .null => .ok .null
  | .truth b => .ok (.truth b)
  | .number n => .ok (.number n)
  | .text s => .ok (.text s)
  | .bytes bs => .ok (.bytes bs)
  | .other o => if o.isKey then .ok (.other o) else .fail .malformed
  | .list _ | .mapping _ => .fail .malformed

/-- The key that a node stands for. -/
def key : Node → Meaning Key
  | .scalar s isPlain =>
    if isPlain ∧ s ≠ "=" then
      match Scalar.resolve s with
      | .ok v => keyOf v
      | .error f => .fail f
    else .ok (.text s)
  | .list _ | .mapping _ => .fail .malformed

/-- The value of the key is laid under the other entries of its mapping. -/
def isMerge : Node → Bool
  | .scalar s isPlain => isPlain && s = Scalar.merge
  | .list _ | .mapping _ => false

mutual

/-- The value that a node stands for. -/
def value : Node → Meaning Value
  | .scalar s isPlain =>
    if isPlain then
      match Scalar.resolve s with
      | .ok v => .ok v
      | .error f => .fail f
    else .ok (.text s)
  | .list items => (values items).inside.map .list
  | .mapping es => (entries es).all.inside.map mappingOf

/-- The values of the elements of a sequence. -/
def values : List Node → Meaning (List Value)
  | [] => .ok []
  | item :: items => (value item).join (· :: ·) (values items)

/-- The entries of a mapping. -/
def entries : List (Node × Node) → Entries
  | [] => ⟨.ok [], .ok []⟩
  | (k, v) :: more =>
    let rest := entries more
    if isMerge k then { rest with under := (merged v).join (· ++ ·) rest.under }
    else
      let entry := (key k).join Prod.mk (value v)
      { rest with own := entry.join (· :: ·) rest.own }

/-- The entries of a node that is laid under a mapping: of a mapping, or of a sequence of them, in
which the earlier ones are laid over the later ones. -/
def merged : Node → Meaning (List (Key × Value))
  | .scalar _ _ => .fail .malformed
  | .mapping es => (entries es).all
  | .list items => mergedAll items

/-- The entries of the mappings of a sequence, the last mapping first. -/
def mergedAll : List Node → Meaning (List (Key × Value))
  | [] => .ok []
  | .mapping es :: items => (mergedAll items).join (· ++ ·) (entries es).all
  | .scalar _ _ :: _ | .list _ :: _ => .fail .malformed

end

/-- The value that the bytes of a settings file hold. -/
def ofBytes (bs : Bytes) : Except Fault Value := do
  let (text, problem) := Source.text bs
  match ← Node.ofTokens (Token.ofText text problem) with
  | none => return .null
  | some node =>
    match value node with
    | .ok v => return v
    | .error m => throw m.fault

end TxnLog.Settings.Document
