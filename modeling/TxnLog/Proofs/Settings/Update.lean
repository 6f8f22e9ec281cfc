import TxnLog.Proofs.Attempt
import TxnLog.Proofs.Settings.Obstruction
import TxnLog.Settings.Update

/-!
# Settings are changed as a whole or not at all

A walk that puts a value creates sections as it goes and undoes nothing. It still leaves nothing
half done. A section that it creates is empty, so from there on nothing is in its way
(`not_obstructed_empty`): it can only fail before it has created any. Hence the walk does what an
assignment does that gives new settings or none (`walk_mapping`), and what is known of assignments
is known of it: `update_atomic` says when a value cannot be put, that the settings then stay as they
are, and what they hold otherwise.
-/

namespace TxnLog.Settings

variable {s entries : Settings} {key name : String} {v w item : Value} {path : List String}

/-! ### Entries that are put again -/

/-- What is under a key already may be put there. -/
theorem put_eq_self {key : Key} (h : s.lookup key = some v) : put key v s = s := by
  induction s with
  | nil => contradiction
  | cons e s ih =>
    obtain ⟨k, old⟩ := e
    rw [lookup_cons, Key.beq_comm] at h
    rw [put]
    split
    · next hsame =>
      rw [if_pos hsame] at h
      rw [Option.some.inj h]
    · next hother =>
      rw [if_neg hother] at h
      rw [ih h]

/-- Of two values that are put under one key the second one stays. -/
theorem put_put (key : Key) (v w : Value) (s : Settings) :
    put key w (put key v s) = put key w s := by
  induction s with
  | nil =>
    show put key w [(key, v)] = [(key, w)]
    rw [put, if_pos (Key.beq_self key)]
  | cons e s ih =>
    obtain ⟨k, old⟩ := e
    by_cases hsame : (k == key) = true
    · rw [put, if_pos hsame, put, if_pos hsame, put, if_pos hsame]
    · rw [put, if_neg hsame, put, if_neg hsame, put, if_neg hsame, ih]

/-! ### Walks -/

/-- A walk with more than one name to go enters the section of the first one, which is created if it
is missing. -/
theorem walk_cons (item : Value) (name : String) (hpath : path ≠ []) :
    walk item (name :: path) = (do
      unless ← holds name do store name (.mapping [])
      within name (walk item path)) := by
  cases path with
  | nil => contradiction
  | cons => rfl

section

variable (hw : ∀ entries, w ≠ .mapping entries)
include hw

/-- Nothing is put into what is no mapping. -/
theorem store_of_ne (name : String) (item : Value) :
    store name item w = (.error .notSection, w) := by
  cases w with
  | mapping entries => exact absurd rfl (hw entries)
  | _ => rfl

/-- Nothing goes on inside of what is no mapping. -/
theorem within_of_ne (name : String) (act : Attempt Value Fault Unit) :
    within name act w = (.error .notSection, w) := by
  cases w with
  | mapping entries => exact absurd rfl (hw entries)
  | _ => rfl

/-- What is no mapping may be asked for a name or not, and is not changed by that. -/
theorem holds_of_ne (name : String) :
    holds name w = (.error .notSection, w) ∨ ∃ b, holds name w = (.ok b, w) := by
  cases w with
  | mapping entries => exact absurd rfl (hw entries)
  | text | list => exact .inr ⟨_, rfl⟩
  | null | truth | number | bytes | other => exact .inl rfl

/-- Whatever a value that is no mapping says of the name, the walk stops at it and leaves it as it
is. -/
theorem walk_of_ne (item : Value) (hpath : path ≠ []) :
    walk item path w = (.error .notSection, w) := by
  cases path with
  | nil => contradiction
  | cons name path =>
    by_cases hlast : path = []
    · subst hlast
      exact store_of_ne hw name item
    rw [walk_cons item name hlast, Attempt.bind_apply]
    obtain hholds | ⟨b, hholds⟩ := holds_of_ne hw name
    · rw [hholds]
    · rw [hholds]
      cases b with
      -- The name is not there, and no section can be created.
      | false =>
        show (store name (.mapping []) >>= fun _ => within name (walk item path)) w = _
        rw [Attempt.bind_apply, store_of_ne hw]
      -- The name is there, but there is no section of that name.
      | true => exact within_of_ne hw name (walk item path)

end

/-- A walk that enters a section does there what is left of it, in place. -/
theorem walk_section (item : Value) (hpath : path ≠ [])
    (hlookup : entries.lookup (.text name) = some v) :
    walk item (name :: path) (.mapping entries)
      = ((walk item path v).1, .mapping (put name (walk item path v).2 entries)) := by
  have hholds : holds name (.mapping entries) = (.ok true, .mapping entries) := by
    rw [holds, hlookup]
    rfl
  rw [walk_cons item name hpath, Attempt.bind_apply, hholds]
  show within name (walk item path) (.mapping entries) = _
  rw [within, hlookup]

/-- A walk that finds no section creates it and goes on in it. -/
theorem walk_missing (item : Value) (hpath : path ≠ [])
    (hlookup : entries.lookup (.text name) = none) :
    walk item (name :: path) (.mapping entries)
      = ((walk item path (.mapping [])).1,
        .mapping (put name (walk item path (.mapping [])).2 entries)) := by
  have hholds : holds name (.mapping entries) = (.ok false, .mapping entries) := by
    rw [holds, hlookup]
    rfl
  rw [walk_cons item name hpath, Attempt.bind_apply, hholds]
  show (store name (.mapping []) >>= fun _ => within name (walk item path)) (.mapping entries) = _
  rw [Attempt.bind_apply, store]
  dsimp only
  rw [within, lookup_put_self]
  dsimp only
  rw [put_put]

/-- Where nothing is in the way, an assignment gives settings. -/
theorem exists_assign (item : Value) (h : ¬ Obstructed path (.mapping s)) :
    ∃ s', assign item path s = .ok s' := by
  cases hassign : assign item path s with
  | ok s' => exact ⟨s', rfl⟩
  | error f => exact absurd (assign_eq_error_iff.mp hassign).2 h

/-- A walk from a mapping does what an assignment does, and leaves the mapping as it is where that
fails. -/
theorem walk_mapping (item : Value) (path : List String) (s : Settings) :
    walk item path (.mapping s) = match assign item path s with
      | .ok s' => (.ok (), .mapping s')
      | .error f => (.error f, .mapping s) := by
  induction path generalizing s with
  | nil => rfl
  | cons name path ih =>
    by_cases hlast : path = []
    · subst hlast
      rfl
    rw [assign]
    · cases hlookup : s.lookup (.text name) with
      | none =>
        -- In the section that is created nothing is in the way.
        obtain ⟨sub, hsub⟩ := exists_assign item (not_obstructed_empty path)
        rw [walk_missing item hlast hlookup, ih, hsub]
        rfl
      | some v =>
        rw [walk_section item hlast hlookup]
        by_cases hv : ∃ inner, v = .mapping inner
        · obtain ⟨inner, rfl⟩ := hv
          rw [ih]
          dsimp only
          cases assign item path inner with
          | ok sub => rfl
          -- The section is put back as it was.
          | error f =>
            dsimp only [Except.map]
            rw [put_eq_self hlookup]
        · have hne : ∀ inner, v ≠ .mapping inner := fun inner hinner => hv ⟨inner, hinner⟩
          rw [walk_of_ne hne item hlast, put_eq_self hlookup]
          cases v with
          | mapping inner => exact absurd rfl (hne inner)
          | _ => rfl
    · exact hlast

/-! ### Settings -/

/-- To put a value in place is to set it, and to leave the settings as they are where it cannot be
set. -/
theorem update_eq (key : String) (v : Value) (s : Settings) :
    update key v s = match s.set key v with
      | .ok s' => (.ok (), s')
      | .error f => (.error f, s) := by
  rw [update, walk_mapping]
  show _ = match assign v (segments key) s with
    | .ok s' => (Except.ok (), s')
    | .error f => (.error f, s)
  cases assign v (segments key) s <;> rfl

/-- What becomes of settings in which a value is put under a key. -/
structure Updated (s : Settings) (key : String) (v : Value) (s' : Settings) : Prop where
  /-- The key names the value. -/
  found : s'.get? key = some v
  /-- Every section on the way to it is there. -/
  sections : ∀ front back, segments key = front ++ back → back ≠ [] →
    ∃ entries, find? front (.mapping s') = some (.mapping entries)
  /-- A key names what it named before if neither of the two keys is, or is in, the other. -/
  elsewhere : ∀ other, Apart (segments key) (segments other) → s'.get? other = s.get? other

/-- A part of the key that ends before its last segment names something that is no section. -/
def Blocked (s : Settings) (key : String) : Prop :=
  ∃ front back w, front ≠ [] ∧ back ≠ [] ∧ segments key = front ++ back
    ∧ find? front (.mapping s) = some w ∧ ∀ entries, w ≠ .mapping entries

/-- Settings are a mapping themselves, so only a part of the key that is not empty can name
something in the way. -/
theorem blocked_iff : s.Blocked key ↔ Obstructed (segments key) (.mapping s) := by
  constructor
  · rintro ⟨front, back, w, -, hback, hkey, hfind, hw⟩
    exact ⟨front, back, w, hkey, hback, hfind, hw⟩
  · rintro ⟨front, back, w, hkey, hback, hfind, hw⟩
    refine ⟨front, back, w, ?_, hback, hkey, hfind, hw⟩
    rintro rfl
    exact hw s (Option.some.inj hfind).symm

/-- A path that leads on leads from a mapping. -/
theorem exists_mapping_of_find? {front back : List String} (hback : back ≠ [])
    (h : find? (front ++ back) w = some v) :
    ∃ entries, find? front w = some (.mapping entries) := by
  rw [find?_append, Option.bind_eq_some_iff] at h
  obtain ⟨u, hfront, hrest⟩ := h
  obtain ⟨name, rest, rfl⟩ := List.exists_cons_of_ne_nil hback
  cases u with
  | mapping entries => exact ⟨entries, hfront⟩
  | _ => contradiction

/-- What is put in place is found, behind sections that are there, and everything apart from it is
as before. -/
theorem updated_of_set {s' : Settings} (h : s.set key v = .ok s') : Updated s key v s' := by
  refine ⟨get?_set h, ?_, fun other => get?_set_of_apart h⟩
  intro front back hkey hback
  have hfound : find? (segments key) (.mapping s') = some v := get?_set h
  rw [hkey] at hfound
  exact exists_mapping_of_find? hback hfound

/-- Values that are put one after the other change nothing apart from their keys. -/
theorem get?_updates_of_apart (s : Settings) {calls : List (String × Value)}
    (h : ∀ call ∈ calls, Apart (segments call.1) (segments key)) :
    (s.updates calls).get? key = s.get? key := by
  induction calls generalizing s with
  | nil => rfl
  | cons call calls ih =>
    obtain ⟨hfirst, hmore⟩ := List.forall_mem_cons.mp h
    rw [updates, ih _ hmore, update_eq]
    cases hset : s.set call.1 call.2 with
    | ok s' => exact get?_set_of_apart hset hfirst
    | error f => rfl

/-- Whatever settings hold, a value can be put under a key unless a part of the key that ends before
its last segment names something that is no section. Then nothing at all is changed, although the
walk creates sections as it goes. Otherwise the key names the value, the sections on the way to it
are there, and keys apart from it name what they named before, also after any number of calls. -/
theorem update_atomic (s : Settings) (key : String) (v : Value) :
    (match update key v s with
      | (.error f, s') => f.kind = .type ∧ s' = s ∧ s.Blocked key
      | (.ok (), s') => ¬ s.Blocked key ∧ Updated s key v s')
    ∧ ∀ calls, (∀ call ∈ calls, Apart (segments call.1) (segments key)) →
      (s.updates calls).get? key = s.get? key := by
  refine ⟨?_, fun calls => get?_updates_of_apart s⟩
  rw [update_eq, blocked_iff]
  cases hset : s.set key v with
  | error f =>
    obtain ⟨rfl, hobstructed⟩ := set_eq_error_iff.mp hset
    exact ⟨rfl, rfl, hobstructed⟩
  | ok s' =>
    refine ⟨fun hobstructed => ?_, updated_of_set hset⟩
    have herror := (set_eq_error_iff (v := v)).mpr ⟨rfl, hobstructed⟩
    rw [hset] at herror
    contradiction

/-- Settings with a section that holds a text. -/
def logSection : Settings := [("log", .mapping [("name", .text "log.bin"), ("size", .int 7)])]

/-- Below the text nothing can be put, also where the name is a part of it. Beside it two sections
are created, and one call after the other leaves the number alone. -/
theorem update_atomic_sample :
    update "log.name.bin" .null logSection = (.error .notSection, logSection)
      ∧ logSection.Blocked "log.name.bin"
      ∧ ∃ s', update "log.old.first.name" .null logSection = (.ok (), s')
        ∧ s'.get? "log.old.first.name" = some .null
        ∧ (∃ entries, find? ["log", "old"] (.mapping s') = some (.mapping entries))
        ∧ s'.get? "log.name" = some (.text "log.bin")
        ∧ (logSection.updates [("log.name.bin", .null), ("log.old.first.name", .null)]).get?
            "log.size" = some (.int 7) := by
  have hfail : update "log.name.bin" .null logSection = (.error .notSection, logSection) := rfl
  have hput : update "log.old.first.name" .null logSection
      = (Except.ok (), [(Key.text "log", Value.mapping [("name", .text "log.bin"), ("size", .int 7),
        ("old", .mapping [("first", .mapping [("name", .null)])])])]) := rfl
  have hblocked := (update_atomic logSection "log.name.bin" .null).1
  have hupdated := (update_atomic logSection "log.old.first.name" .null).1
  have hcalls := (update_atomic logSection "log.size" .null).2
    [("log.name.bin", .null), ("log.old.first.name", .null)] (by decide)
  rw [hfail] at hblocked
  rw [hput] at hupdated
  obtain ⟨-, hupdated⟩ := hupdated
  refine ⟨hfail, hblocked.2.2, _, hput, hupdated.found, ?_, ?_, hcalls⟩
  · exact hupdated.sections ["log", "old"] ["first", "name"] rfl (by simp)
  · exact hupdated.elsewhere "log.name" (by decide)

end TxnLog.Settings
