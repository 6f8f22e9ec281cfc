import TxnLog.Attempt
import TxnLog.Settings

/-!
# Settings that are changed in place

A value is put under a dotted key by a walk down the sections that its segments name. The walk
changes the settings as it goes: a section that is missing is created before the walk goes into
it, and nothing is undone where the walk cannot go on. What the walk comes to need not be a section.
It is asked for the next name all the same, and texts and lists have answers of their own.

A value is a tree and has no part in two places, so what is changed in one place stays as it is
everywhere else.
-/

namespace TxnLog.Settings

/-- The characters of `part` stand in a row somewhere in the text. -/
def isPart (part : List Char) : List Char → Bool
  | [] => part.isEmpty
  | c :: cs => part.isPrefixOf (c :: cs) || isPart part cs

/-- Whether a name is in the value: a key of a mapping, a part of a text, an element of a list.
Other values cannot be asked; a set could be, but it has no entries, so nothing would change. -/
def holds (name : String) : Attempt Value Fault Bool := fun v =>
  match v with
  | .mapping entries => (.ok (entries.lookup (.text name)).isSome, v)
  | .text s => (.ok (isPart name.toList s.toList), v)
  | .list items => (.ok (items.any fun | .text s => s == name | _ => false), v)
  | .null | .truth _ | .number _ | .bytes _ | .other _ => (.error .notSection, v)

/-- Puts an entry into the value. Only a mapping takes entries. -/
def store (name : String) (item : Value) : Attempt Value Fault Unit := fun v =>
  match v with
  | .mapping entries => (.ok (), .mapping (put name item entries))
  | _ => (.error .notSection, v)

/-- Goes on with what the value has under a name. What becomes of that stays in its place, also
after a failure. Only a mapping has something under a name. -/
def within {α : Type} (name : String) (act : Attempt Value Fault α) : Attempt Value Fault α :=
  fun v =>
    match v with
    | .mapping entries =>
      match entries.lookup (.text name) with
      | some item =>
        let (result, left) := act item
        (result, .mapping (put name left entries))
      | none => (.error .notSection, v)
    | _ => (.error .notSection, v)

/-- Puts an item at the end of a path of names, down from the value. -/
def walk (item : Value) : List String → Attempt Value Fault Unit
  | [] => pure ()
  | [name] => store name item
  | name :: path => do
    unless ← holds name do store name (.mapping [])
    within name (walk item path)

/-- The entries of a value, of which only mappings have any. -/
def entriesOf : Value → Settings
  | .mapping entries => entries
  | _ => []

/-- Puts a value under a dotted key, in place. -/
def update (key : String) (v : Value) : Attempt Settings Fault Unit := fun s =>
  let (result, top) := walk v (segments key) (.mapping s)
  (result, entriesOf top)

/-- Puts values under dotted keys one after the other, whether those before could be put or
not. -/
def updates (s : Settings) : List (String × Value) → Settings
  | [] => s
  | (key, v) :: more => updates (update key v s).2 more

end TxnLog.Settings
