import TxnLog.CommandLine.Program

/-!
# Announcing the settings

The program announces its settings before it opens the log, and writes the announcement whether its
level is kept or not. That works if no integer in the settings has too many digits and, where
diagnostics are JSON, if JSON has a form for every key in them (`Session.isAnnounceable`). Settings
that have an integer or a key of the other kind are not announced (`Session.Unannounced`), and
nothing else keeps them from it (`Session.announce_cases`).
-/

namespace TxnLog

/-! ### Values as JSON -/

/-- The kind of the key has a form in JSON. -/
def Key.isJson : Key → Bool
  | .null | .truth _ | .number _ | .text _ => true
  | .bytes _ | .other _ => false

namespace Value

mutual

/-- All keys in the value are of kinds that have a form in JSON. -/
def hasJsonKeys : Value → Bool
  | .null | .truth _ | .number _ | .text _ | .bytes _ | .other _ => true
  | .list items => haveJsonKeys items
  | .mapping entries => entriesHaveJsonKeys entries

/-- All keys in the elements of a list are. -/
def haveJsonKeys : List Value → Bool
  | [] => true
  | v :: vs => hasJsonKeys v && haveJsonKeys vs

/-- All keys of and in the entries of a mapping are. -/
def entriesHaveJsonKeys : List (Key × Value) → Bool
  | [] => true
  | (k, v) :: entries => k.isJson && hasJsonKeys v && entriesHaveJsonKeys entries

end

end Value

/-- What is found to keep a value from being written as JSON, if anything is, agrees with whether
the value may be written at all and whether JSON has a form for all its keys. -/
inductive JsonFault.Explains : Option JsonFault → (isWritable hasJsonKeys : Bool) → Prop where
  | none : Explains none true true
  | longInteger {hasJsonKeys : Bool} : Explains (some .longInteger) false hasJsonKeys
  | foreignKey {isWritable : Bool} : Explains (some .foreignKey) isWritable false

/-- Of two things that are written one after the other, the first one with a fault counts. -/
theorem JsonFault.Explains.or {first second : Option JsonFault} {w w' k k' : Bool}
    (hfirst : Explains first w k) (hsecond : Explains second w' k') :
    Explains (first.or second) (w && w') (k && k') := by
  cases hfirst with
  | none => exact hsecond
  | longInteger => exact .longInteger
  | foreignKey =>
    rw [Bool.false_and]
    exact .foreignKey

/-- A number may be written, or has too many digits. -/
theorem JsonFault.explains_of_isWritable (w : Bool) :
    Explains (if w then .none else some .longInteger) w true := by
  cases w with
  | true => exact .none
  | false => exact .longInteger

/-- What keeps a key from being written. -/
theorem Key.explains_jsonFault? (k : Key) :
    JsonFault.Explains k.jsonFault? k.isWritable k.isJson := by
  cases k with
  | number n => exact JsonFault.explains_of_isWritable n.isWritable
  | null | truth | text => exact .none
  | bytes | other => exact .foreignKey

namespace Value

mutual

/-- What keeps a value from being written. -/
theorem explains_jsonFault? : ∀ v : Value,
    JsonFault.Explains v.jsonFault? v.isWritable v.hasJsonKeys
  | .null | .truth _ | .text _ | .bytes _ => .none
  | .number n => JsonFault.explains_of_isWritable n.isWritable
  | .other o => JsonFault.explains_of_isWritable o.isWritable
  | .list items => explains_jsonFaultOfItems? items
  | .mapping entries => explains_jsonFaultOfEntries? entries

/-- What keeps the elements of a list from being written. -/
theorem explains_jsonFaultOfItems? : ∀ items : List Value,
    JsonFault.Explains (jsonFaultOfItems? items) (areWritable items) (haveJsonKeys items)
  | [] => .none
  | v :: vs => (explains_jsonFault? v).or (explains_jsonFaultOfItems? vs)

/-- What keeps the entries of a mapping from being written. -/
theorem explains_jsonFaultOfEntries? : ∀ entries : List (Key × Value),
    JsonFault.Explains (jsonFaultOfEntries? entries) (entriesAreWritable entries)
      (entriesHaveJsonKeys entries)
  | [] => .none
  | (k, v) :: entries =>
    (k.explains_jsonFault?.or (explains_jsonFault? v)).or (explains_jsonFaultOfEntries? entries)

end

end Value

namespace CommandLine

open Diagnostics (Format Level Record Setup consoleText record text?)
open Settings (Fault)

/-! ### The announcement -/

/-- A record in which neither a stack nor an exception stands is written for reading. -/
theorem exists_consoleText {r : Record} (hstack : text? r "stack" = .ok none)
    (hexception : text? r "exception" = .ok none) : ∃ text, consoleText r = .ok text := by
  unfold consoleText
  rw [hstack, hexception]
  exact ⟨_, rfl⟩

/-- A report whose fields have names that are free is written, and its record is given if its level
is kept. -/
theorem report_eq {fields : Record} (setup : Setup) (logger : String) (level : Level)
    (event : Value)
    (hnames : (fields.any fun (name, _) => Diagnostics.reservedNames.contains name) = false)
    (hrecord : fields.lookup (.text "_record") = none) :
    setup.report logger level event fields
      = match setup.format.render (record logger level event fields) with
        | .ok _ => .ok (if setup.level.isKept level then some (record logger level event fields)
            else none)
        | .error e => .error e := by
  unfold Setup.report
  rw [hnames, hrecord]
  dsimp only
  cases setup.format.render (record logger level event fields) with
  | ok text => rfl
  | error e => rfl

namespace Session

variable {s : Session}

/-- The record of an announcement of the settings. -/
def announcement (s : Session) : Record := [
  (.text "config", .mapping s.settings), (.text "event", .text "Loaded configuration"),
  (.text "level", .text "debug"), (.text "logger", .text ownLogger),
  (.text "app", .text "txntail")]

/-- An announcement may be written if the settings may be. -/
theorem isWritable_announcement (s : Session) :
    (Value.mapping s.announcement).isWritable = (Value.mapping s.settings).isWritable := by
  simp [announcement, Value.isWritable, Value.entriesAreWritable, Key.isWritable]

/-- What keeps an announcement from being written as JSON is in the settings. -/
theorem jsonFault?_announcement (s : Session) :
    (Value.mapping s.announcement).jsonFault? = (Value.mapping s.settings).jsonFault? := by
  simp [announcement, Value.jsonFault?, Value.jsonFaultOfEntries?, Key.jsonFault?]

/-- The settings can be announced in the format of the session's diagnostics. -/
def isAnnounceable (s : Session) : Bool :=
  (Value.mapping s.settings).isWritable
    && (s.setup.format != .json || (Value.mapping s.settings).hasJsonKeys)

/-- Why settings are not announced. -/
inductive Unannounced (s : Session) : Fault → Prop where
  /-- An integer in them has too many digits. -/
  | unwritable (h : (Value.mapping s.settings).isWritable = false) : Unannounced s .unwritable
  /-- A key in them has no form in JSON, and JSON is what they are to be written as. -/
  | foreignKey (hformat : s.setup.format = .json)
    (h : (Value.mapping s.settings).hasJsonKeys = false) : Unannounced s .foreignKey

/-- The settings are announced if their announcement is written. -/
theorem announce_eq (s : Session) :
    s.announce = match s.setup.format.render s.announcement with
      | .ok _ => .ok (if s.setup.level.isKept .debug then some s.announcement else none)
      | .error .foreignKey => .error .foreignKey
      | .error _ => .error .unwritable := by
  have hrecord : record ownLogger .debug (.text "Loaded configuration")
      [("config", .mapping s.settings)] = s.announcement := rfl
  have hnames : ([((.text "config" : Key), Value.mapping s.settings)].any
      fun (name, _) => Diagnostics.reservedNames.contains name) = false := rfl
  unfold announce
  rw [report_eq _ _ _ _ hnames rfl, hrecord]
  cases s.setup.format.render s.announcement with
  | ok text => rfl
  | error e => cases e <;> rfl

/-- Settings are announced if and only if they can be, and otherwise the fault is theirs. -/
theorem announce_cases (s : Session) :
    (s.isAnnounceable = true ∧ ∃ announced, s.announce = .ok announced)
      ∨ s.isAnnounceable = false ∧ ∃ f, s.announce = .error f ∧ s.Unannounced f := by
  rw [announce_eq]
  unfold Format.render isAnnounceable
  rw [isWritable_announcement, jsonFault?_announcement]
  cases hformat : s.setup.format with
  -- For reading, every key is written, so only integers count.
  | console =>
    cases hwritable : (Value.mapping s.settings).isWritable with
    | true =>
      obtain ⟨text, htext⟩ := exists_consoleText (r := s.announcement) rfl rfl
      exact .inl ⟨rfl, by simp [htext]⟩
    | false => exact .inr ⟨rfl, _, rfl, .unwritable hwritable⟩
  -- As JSON the first thing that cannot be written decides what the fault is.
  | json =>
    have hexplains := (Value.mapping s.settings).explains_jsonFault?
    generalize hfault : (Value.mapping s.settings).jsonFault? = fault at hexplains
    generalize hwritable : (Value.mapping s.settings).isWritable = w at hexplains
    generalize hkeys : (Value.mapping s.settings).hasJsonKeys = k at hexplains
    cases hexplains with
    | none => exact .inl ⟨rfl, _, rfl⟩
    | longInteger => exact .inr ⟨rfl, _, rfl, .unwritable hwritable⟩
    | foreignKey => exact .inr ⟨by simp, _, rfl, .foreignKey hformat hkeys⟩

/-- Settings that can be announced are. -/
theorem announce_of_isAnnounceable (h : s.isAnnounceable = true) :
    ∃ announced, s.announce = .ok announced := by
  obtain ⟨-, hannounce⟩ | ⟨hnot, -⟩ := s.announce_cases
  · exact hannounce
  · rw [h] at hnot
    contradiction

/-- Settings that cannot be announced are not, for a reason that is theirs. -/
theorem unannounced_of_not_isAnnounceable (h : s.isAnnounceable = false) :
    ∃ f, s.announce = .error f ∧ s.Unannounced f := by
  obtain ⟨hable, -⟩ | ⟨-, hfault⟩ := s.announce_cases
  · rw [h] at hable
    contradiction
  · exact hfault

end Session

end CommandLine

end TxnLog
