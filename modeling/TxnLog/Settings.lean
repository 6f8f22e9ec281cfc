import TxnLog.Settings.Fault
import TxnLog.Text.Split

/-!
# Settings

Settings are a tree of sections, named by dotted keys. `get?` finds what a key names, `set`
puts a value under a key and creates the sections on the way, and `merge` lays one tree over
another, section by section. The segments of a dotted key are texts, so what a settings file
holds under a key that is no text has no dotted key.
-/

namespace TxnLog

/-- A tree of settings: the entries of its top section. -/
abbrev Settings := List (Key × Value)

namespace Settings

/-- The segments of a dotted key, at least one. -/
def segments (key : String) : List String := (Text.split '.' key.toList).map String.ofList

/-- Puts an entry in place of the one with the same key, or else at the end. -/
def put (key : Key) (v : Value) : Settings → Settings
  | [] => [(key, v)]
  | (k, old) :: entries => if k == key then (k, v) :: entries else (k, old) :: put key v entries

/-- What a path of names leads to from a value. -/
def find? : List String → Value → Option Value
  | [], v => some v
  | name :: path, .mapping entries => (entries.lookup (.text name)).bind (find? path)
  | _ :: _, _ => none

/-- What a dotted key names. -/
def get? (s : Settings) (key : String) : Option Value := find? (segments key) (.mapping s)

/-- What a dotted key names, or else a default. -/
def getD (s : Settings) (key : String) (default : Value) : Value := (s.get? key).getD default

/-- Puts a value at the end of a path of names. Missing sections are created; what is not a
mapping is in the way. -/
def assign (v : Value) : List String → Settings → Except Fault Settings
  | [], s => .ok s
  | [name], s => .ok (put name v s)
  | name :: path, s =>
    match s.lookup (.text name) with
    | none => (assign v path []).map fun sub => put name (.mapping sub) s
    | some (.mapping section') => (assign v path section').map fun sub => put name (.mapping sub) s
    | some _ => .error .notSection

/-- Puts a value under a dotted key. -/
def set (s : Settings) (key : String) (v : Value) : Except Fault Settings :=
  assign v (segments key) s

mutual

/-- Lays entries over others. -/
def merge (base : Settings) : Settings → Settings
  | [] => base
  | (key, v) :: more => merge (put key (overlay (base.lookup key) v) base) more

/-- What becomes of a value over which another is laid: mappings are merged, all else is
replaced. -/
def overlay (old : Option Value) : Value → Value
  | .mapping entries =>
    match old with
    | some (.mapping base) => .mapping (merge base entries)
    | _ => .mapping entries
  | v => v

end

/-- The built-in settings. -/
def defaults : Settings := [
  ("tail", .mapping [("poll_interval_ms", .int 500), ("verbose_poll_interval_ms", .int 5000)]),
  ("log", .mapping [("checksum", .text "adler32"), ("max_frame_size", .int 1049599)]),
  ("logging", .mapping [("level", .text "WARNING"), ("format", .text "console")])]

end Settings

end TxnLog
