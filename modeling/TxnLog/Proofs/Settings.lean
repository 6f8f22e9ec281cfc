import TxnLog.Proofs.Except
import TxnLog.Settings

/-!
# What settings hold

A lookup finds the same under keys that count as the same, whether a key was put (`lookup_put`) or
one tree was laid over another (`lookup_merge`). With these two, what a path leads to is known after
each operation on a tree: after an overlay by `find?_overlay_mapping`, one name after the other, and
after an assignment by `find?_assign` and `find?_assign_of_apart`.

A tree that comes from a settings file is `Unambiguous`: no mapping in it has a key twice. Only such
trees are laid over others.
-/

namespace TxnLog

/-! ### Keys -/

/-- Keys that are the same are the same as any other key alike. -/
theorem Key.beq_congr {a b : Key} (h : (a == b) = true) (c : Key) : (a == c) = (b == c) := by
  have hidentity := Key.beq_iff.mp h
  show decide (a.identity = c.identity) = decide (b.identity = c.identity)
  rw [hidentity]

/-- Whether keys are the same does not depend on their order. -/
theorem Key.beq_comm (a b : Key) : (a == b) = (b == a) := by
  show decide (a.identity = b.identity) = decide (b.identity = a.identity)
  exact decide_eq_decide.mpr eq_comm

/-- A key is the same as itself. -/
theorem Key.beq_self (a : Key) : (a == a) = true := Key.beq_iff.mpr rfl

namespace Settings

variable {s base file : Settings} {key k : Key} {v w : Value}

/-- No two entries have the same key. -/
def Distinct (s : Settings) : Prop := s.Pairwise fun a b => (a.1 == b.1) = false

instance (s : Settings) : Decidable s.Distinct :=
  inferInstanceAs (Decidable (s.Pairwise fun a b => (a.1 == b.1) = false))

/-- A lookup goes by whether the first entry has the key. -/
theorem lookup_cons (key : Key) (v : Value) (s : Settings) (k : Key) :
    List.lookup k ((key, v) :: s) = if k == key then some v else s.lookup k := by
  rw [List.lookup_cons]
  cases k == key <;> rfl

/-- What is found under keys that are the same is the same. -/
theorem lookup_congr (h : (k == key) = true) (s : Settings) : s.lookup k = s.lookup key := by
  induction s with
  | nil => rfl
  | cons e s ih => rw [lookup_cons, lookup_cons, ih, Key.beq_congr h]

/-- Nothing is found under a key that no entry has. -/
theorem lookup_eq_none (h : ∀ e ∈ s, (k == e.1) = false) : s.lookup k = none := by
  induction s with
  | nil => rfl
  | cons e s ih =>
    have hhead := h e List.mem_cons_self
    have htail := ih fun e' he' => h e' (List.mem_cons_of_mem _ he')
    rw [lookup_cons, hhead, htail, if_neg Bool.false_ne_true]

/-- What is found is the value of an entry. -/
theorem mem_of_lookup (h : s.lookup k = some v) : ∃ e ∈ s, e.2 = v := by
  induction s with
  | nil => contradiction
  | cons e s ih =>
    rw [lookup_cons] at h
    split at h
    · exact ⟨e, List.mem_cons_self, Option.some.inj h⟩
    · obtain ⟨e', he', hv⟩ := ih h
      exact ⟨e', List.mem_cons_of_mem _ he', hv⟩

/-! ### Putting -/

/-- What is put is found under its key, and everything else as before. -/
theorem lookup_put (key : Key) (v : Value) (s : Settings) (k : Key) :
    (put key v s).lookup k = if k == key then some v else s.lookup k := by
  induction s with
  | nil => exact lookup_cons key v [] k
  | cons e s ih =>
    obtain ⟨k', old⟩ := e
    rw [put]
    split
    -- The entry keeps its own key, which is found where the key put is.
    · next hsame =>
      have hk : (k == k') = (k == key) := by
        rw [Key.beq_comm k, Key.beq_comm k, Key.beq_congr hsame]
      rw [lookup_cons, lookup_cons, hk]
      split <;> rfl
    · next hother =>
      rw [lookup_cons, lookup_cons, ih]
      -- No key is the same as both.
      by_cases hk : (k == k') = true
      · have hne : (k == key) = false := by
          rw [Key.beq_congr hk]
          exact Bool.eq_false_iff.mpr hother
        rw [hk, hne]
        rfl
      · rw [if_neg hk, if_neg hk]

/-- An entry after something is put was there before, or has the key and the value put. -/
theorem of_mem_put {e : Key × Value} (he : e ∈ put key v s) :
    e ∈ s ∨ (e.1 == key) = true ∧ e.2 = v := by
  induction s with
  | nil =>
    obtain rfl := List.mem_singleton.mp he
    exact .inr ⟨Key.beq_self key, rfl⟩
  | cons e' s ih =>
    obtain ⟨k', old⟩ := e'
    rw [put] at he
    split at he
    · next hsame =>
      obtain rfl | he := List.mem_cons.mp he
      · exact .inr ⟨hsame, rfl⟩
      · exact .inl (List.mem_cons_of_mem _ he)
    · obtain rfl | he := List.mem_cons.mp he
      · exact .inl List.mem_cons_self
      · exact (ih he).imp_left (List.mem_cons_of_mem _)

/-- Keys stay distinct when something is put. -/
theorem Distinct.put (h : Distinct s) (key : Key) (v : Value) : Distinct (put key v s) := by
  induction s with
  | nil => exact List.pairwise_singleton ..
  | cons e s ih =>
    obtain ⟨k', old⟩ := e
    obtain ⟨hhead, htail⟩ := List.pairwise_cons.mp h
    rw [Settings.put]
    split
    · exact List.pairwise_cons.mpr ⟨hhead, htail⟩
    · next hother =>
      refine List.pairwise_cons.mpr ⟨fun e he => ?_, ih htail⟩
      obtain he | ⟨hkey, -⟩ := of_mem_put he
      · exact hhead e he
      · rw [Key.beq_comm, Key.beq_congr hkey, Key.beq_comm]
        exact Bool.eq_false_iff.mpr hother

/-! ### Laying over -/

/-- Unless both are mappings, what is laid over something replaces it. -/
theorem overlay_eq_self {old : Option Value}
    (h : ∀ base entries, old = some (.mapping base) → v ≠ .mapping entries) :
    overlay old v = v := by
  cases v with
  | mapping entries =>
    cases old with
    | none => rfl
    | some w =>
      cases w with
      | mapping base => exact absurd rfl (h base entries rfl)
      | _ => rfl
  | _ => rfl

/-- A value laid over nothing is that value. -/
theorem overlay_none (v : Value) : overlay none v = v := overlay_eq_self (by simp)

/-- Of entries laid over others each is laid over what was under its key. -/
theorem lookup_merge (h : Distinct file) (base : Settings) (k : Key) :
    (merge base file).lookup k = match file.lookup k with
      | none => base.lookup k
      | some v => some (overlay (base.lookup k) v) := by
  induction file generalizing base with
  | nil => rfl
  | cons e more ih =>
    obtain ⟨key, v⟩ := e
    obtain ⟨hhead, htail⟩ := List.pairwise_cons.mp h
    rw [merge, ih htail, lookup_put, lookup_cons]
    by_cases hk : (k == key) = true
    -- No other entry has the key.
    · have hmore : more.lookup k = none := by
        refine lookup_eq_none fun e he => ?_
        rw [Key.beq_congr hk]
        exact hhead e he
      rw [hmore, if_pos hk, if_pos hk, lookup_congr hk]
    · rw [if_neg hk, if_neg hk]

/-! ### Paths -/

/-- On the way along the path, before its end, stands a value that is no mapping. -/
def Obstructed (path : List String) (v : Value) : Prop :=
  ∃ front back w, path = front ++ back ∧ back ≠ [] ∧ find? front v = some w
    ∧ ∀ entries, w ≠ .mapping entries

/-- Keys of which neither is the other, nor a section that the other is in. -/
def Apart (path other : List String) : Prop := ¬ path <+: other ∧ ¬ other <+: path

instance (path other : List String) : Decidable (Apart path other) :=
  inferInstanceAs (Decidable (_ ∧ _))

/-- A path leads from a mapping to where its tail leads from the value under its head. -/
theorem find?_cons_mapping (name : String) (path : List String) (entries : Settings) :
    find? (name :: path) (.mapping entries) = (entries.lookup (.text name)).bind (find? path) := rfl

/-- No path leads on from what is no mapping. -/
theorem find?_cons_of_ne (name : String) (path : List String)
    (hv : ∀ entries, v ≠ .mapping entries) : find? (name :: path) v = none := by
  cases v with
  | mapping entries => exact absurd rfl (hv entries)
  | _ => rfl

/-- A path leads to where its parts lead one after the other. -/
theorem find?_append (front back : List String) (v : Value) :
    find? (front ++ back) v = (find? front v).bind (find? back) := by
  induction front generalizing v with
  | nil => rfl
  | cons name front ih =>
    cases v with
    | mapping entries =>
      rw [List.cons_append, find?_cons_mapping, find?_cons_mapping]
      cases entries.lookup (.text name) with
      | none => rfl
      | some v => exact ih v
    | _ => rfl

/-- What a path leads to from something is where its tail leads from what its head leads to. -/
theorem bind_find?_cons (old : Option Value) (name : String) (path : List String) :
    old.bind (find? (name :: path)) = (old.bind (find? [name])).bind (find? path) := by
  rw [Option.bind_assoc]
  exact congrArg old.bind (funext fun v => find?_append [name] path v)

/-- A path from a mapping is obstructed if its tail is, from the value under its head. -/
theorem obstructed_cons_mapping {name : String} {path : List String} {entries : Settings} :
    Obstructed (name :: path) (.mapping entries)
      ↔ ∃ v, entries.lookup (.text name) = some v ∧ Obstructed path v := by
  constructor
  · rintro ⟨front, back, w, hpath, hback, hfind, hw⟩
    cases front with
    -- The mapping itself is no obstruction.
    | nil =>
      obtain rfl := Option.some.inj hfind
      exact absurd rfl (hw entries)
    | cons name' front =>
      obtain ⟨rfl, rfl⟩ := List.cons.inj hpath
      rw [find?_cons_mapping, Option.bind_eq_some_iff] at hfind
      obtain ⟨v, hlookup, hfind⟩ := hfind
      exact ⟨v, hlookup, front, back, w, rfl, hback, hfind, hw⟩
  · rintro ⟨v, hlookup, front, back, w, rfl, hback, hfind, hw⟩
    refine ⟨name :: front, back, w, rfl, hback, ?_, hw⟩
    rw [find?_cons_mapping, hlookup]
    exact hfind

/-- A path that goes on from what is no mapping is obstructed. -/
theorem obstructed_of_ne {path : List String} (hpath : path ≠ [])
    (hv : ∀ entries, v ≠ .mapping entries) : Obstructed path v :=
  ⟨[], path, v, rfl, hpath, rfl, hv⟩

end Settings

/-! ### Trees without doubled keys -/

/-- No mapping in the value has two entries with the same key. -/
inductive Value.Unambiguous : Value → Prop where
  | null : Unambiguous .null
  | truth (b : Bool) : Unambiguous (.truth b)
  | number (n : Number) : Unambiguous (.number n)
  | text (s : String) : Unambiguous (.text s)
  | bytes (bs : Bytes) : Unambiguous (.bytes bs)
  | other (o : Other) : Unambiguous (.other o)
  | list {items : List Value} (hitems : ∀ v ∈ items, v.Unambiguous) : Unambiguous (.list items)
  | mapping {entries : Settings} (hkeys : entries.Distinct)
      (hentries : ∀ e ∈ entries, e.2.Unambiguous) : Unambiguous (.mapping entries)

namespace Settings

variable {old : Option Value} {v w : Value} {entries : Settings} {path other : List String}

/-- The values of the entries are unambiguous as well. -/
theorem unambiguous_of_lookup {key : Key} (h : (Value.mapping entries).Unambiguous)
    (hlookup : entries.lookup key = some v) : v.Unambiguous := by
  obtain ⟨e, he, rfl⟩ := mem_of_lookup hlookup
  cases h with
  | mapping _ hentries => exact hentries e he

/-- What a path leads to is unambiguous as well. -/
theorem unambiguous_of_find? (h : v.Unambiguous) (hfind : find? path v = some w) :
    w.Unambiguous := by
  induction path generalizing v with
  | nil =>
    obtain rfl := Option.some.inj hfind
    exact h
  | cons name path ih =>
    cases v with
    | mapping entries =>
      rw [find?_cons_mapping, Option.bind_eq_some_iff] at hfind
      obtain ⟨v, hlookup, hfind⟩ := hfind
      exact ih (unambiguous_of_lookup h hlookup) hfind
    | _ => contradiction

/-- A path into entries laid over something leads into what is under its head, laid over what was
there; if nothing is under it, the path leads to where it led before. -/
theorem find?_overlay_mapping (h : entries.Distinct) (old : Option Value) (name : String)
    (path : List String) :
    find? (name :: path) (overlay old (.mapping entries))
      = match entries.lookup (.text name) with
        | none => old.bind (find? (name :: path))
        | some v => find? path (overlay (old.bind (find? [name])) v) := by
  by_cases hold : ∃ base, old = some (.mapping base)
  · obtain ⟨base, rfl⟩ := hold
    have hbase : (some (Value.mapping base)).bind (find? [name]) = base.lookup (.text name) := by
      show (base.lookup (.text name)).bind some = _
      exact Option.bind_fun_some _
    show find? (name :: path) (.mapping (merge base entries)) = _
    rw [find?_cons_mapping, lookup_merge h, hbase]
    cases entries.lookup (.text name) with
    | none => rfl
    | some v => rfl
  -- What is no mapping is replaced.
  · have hnone : ∀ path, old.bind (find? (name :: path)) = none := by
      intro path
      cases old with
      | none => rfl
      | some v => exact find?_cons_of_ne name path fun base hv => hold ⟨base, by rw [hv]⟩
    have hreplaced : overlay old (.mapping entries) = .mapping entries :=
      overlay_eq_self fun base _ hbase => absurd ⟨base, hbase⟩ hold
    rw [hreplaced, hnone, hnone, find?_cons_mapping]
    cases entries.lookup (.text name) with
    | none => rfl
    | some v =>
      show find? path v = find? path (overlay none v)
      rw [overlay_none]

/-- What is found in a value is laid over what was found before. -/
theorem find?_overlay_of_some (h : v.Unambiguous) (hfind : find? path v = some w) :
    find? path (overlay old v) = some (overlay (old.bind (find? path)) w) := by
  induction path generalizing v old with
  | nil =>
    obtain rfl := Option.some.inj hfind
    show some (overlay old v) = some (overlay (old.bind some) v)
    rw [Option.bind_fun_some]
  | cons name path ih =>
    cases h with
    -- A path with a head leads nowhere but from a mapping.
    | mapping hkeys hentries =>
      have hfind' := hfind
      rw [find?_cons_mapping, Option.bind_eq_some_iff] at hfind'
      obtain ⟨v, hlookup, hfind'⟩ := hfind'
      rw [find?_overlay_mapping hkeys, hlookup, bind_find?_cons]
      exact ih (unambiguous_of_lookup (.mapping hkeys hentries) hlookup) hfind'
    | _ => contradiction

/-- Nothing is found where the path is obstructed in what is laid over. -/
theorem find?_overlay_of_obstructed (h : v.Unambiguous) (hobstructed : Obstructed path v) :
    find? path (overlay old v) = none := by
  induction path generalizing v old with
  | nil =>
    obtain ⟨front, back, w, hpath, hback, -⟩ := hobstructed
    exact absurd (List.append_eq_nil_iff.mp hpath.symm).2 hback
  | cons name path ih =>
    cases h with
    | mapping hkeys hentries =>
      obtain ⟨v, hlookup, hobstructed⟩ := obstructed_cons_mapping.mp hobstructed
      rw [find?_overlay_mapping hkeys, hlookup]
      exact ih (unambiguous_of_lookup (.mapping hkeys hentries) hlookup) hobstructed
    | _ => rfl

/-- Where nothing is laid over, and nothing is in the way, what was there before is found. -/
theorem find?_overlay_of_none (h : v.Unambiguous) (hfind : find? path v = none)
    (hfree : ¬ Obstructed path v) : find? path (overlay old v) = old.bind (find? path) := by
  induction path generalizing v old with
  | nil => contradiction
  | cons name path ih =>
    -- Anything but a mapping would be in the way.
    by_cases hmapping : ∃ entries, v = .mapping entries
    · obtain ⟨entries, rfl⟩ := hmapping
      have hkeys : Distinct entries := by
        cases h with
        | mapping hkeys _ => exact hkeys
      rw [find?_overlay_mapping hkeys]
      rw [obstructed_cons_mapping] at hfree
      rw [find?_cons_mapping] at hfind
      cases hlookup : entries.lookup (.text name) with
      | none => rfl
      | some v =>
        rw [hlookup] at hfind
        rw [bind_find?_cons]
        exact ih (unambiguous_of_lookup h hlookup) hfind fun hobstructed =>
          hfree ⟨v, hlookup, hobstructed⟩
    · have hobstructed : Obstructed (name :: path) v :=
        obstructed_of_ne (List.cons_ne_nil _ _) fun entries hv => hmapping ⟨entries, hv⟩
      exact absurd hobstructed hfree

/-! ### Assignments -/

section

variable {s s' : Settings}

/-- What is put under a name is found there. -/
theorem lookup_put_self (name : String) (v : Value) (s : Settings) :
    (put name v s).lookup (.text name) = some v := by
  rw [lookup_put, if_pos (Key.beq_self _)]

/-- What is put under a name changes nothing under another. -/
theorem lookup_put_of_ne {name other : String} (hne : other ≠ name) (v : Value) (s : Settings) :
    (put name v s).lookup (.text other) = s.lookup (.text other) := by
  rw [lookup_put, if_neg (mt Key.text_beq_text.mp hne)]

/-- An assignment inside a section assigns there; a missing section is an empty one. -/
theorem assign_cons_eq_ok_iff {name : String} (hpath : path ≠ []) :
    assign v (name :: path) s = .ok s'
      ↔ ∃ inner sub, (s.lookup (.text name)).getD (.mapping []) = .mapping inner
        ∧ assign v path inner = .ok sub ∧ s' = put name (.mapping sub) s := by
  rw [assign]
  · cases s.lookup (.text name) with
    | none => simp [map_eq_ok_iff]
    | some w =>
      cases w with
      | mapping inner => simp [map_eq_ok_iff]
      | _ => simp
  · exact hpath

/-- What is assigned is found. -/
theorem find?_assign (hpath : path ≠ []) (h : assign v path s = .ok s') :
    find? path (.mapping s') = some v := by
  induction path generalizing s s' with
  | nil => contradiction
  | cons name path ih =>
    by_cases hlast : path = []
    · subst hlast
      obtain rfl := Except.ok.inj h
      rw [find?_cons_mapping, lookup_put_self]
      rfl
    · obtain ⟨inner, sub, -, hassign, rfl⟩ := (assign_cons_eq_ok_iff hlast).mp h
      rw [find?_cons_mapping, lookup_put_self]
      exact ih hlast hassign

/-- An assignment changes nothing apart from its path. -/
theorem find?_assign_of_apart (h : assign v path s = .ok s') (hapart : Apart path other) :
    find? other (.mapping s') = find? other (.mapping s) := by
  induction path generalizing s s' other with
  | nil => exact absurd List.nil_prefix hapart.1
  | cons name path ih =>
    cases other with
    | nil => exact absurd List.nil_prefix hapart.2
    | cons name' other =>
      by_cases hlast : path = []
      · subst hlast
        obtain rfl := Except.ok.inj h
        have hne : name' ≠ name := by
          rintro rfl
          exact hapart.1 (List.cons_prefix_cons.mpr ⟨rfl, List.nil_prefix⟩)
        rw [find?_cons_mapping, lookup_put_of_ne hne, find?_cons_mapping]
      · obtain ⟨inner, sub, hinner, hassign, rfl⟩ := (assign_cons_eq_ok_iff hlast).mp h
        by_cases hne : name' = name
        -- Inside the section the rest of the paths are apart.
        · subst hne
          have hrest : Apart path other :=
            ⟨fun hpre => hapart.1 (List.cons_prefix_cons.mpr ⟨rfl, hpre⟩),
              fun hpre => hapart.2 (List.cons_prefix_cons.mpr ⟨rfl, hpre⟩)⟩
          rw [find?_cons_mapping, lookup_put_self, find?_cons_mapping]
          show find? other (.mapping sub) = _
          rw [ih hassign hrest]
          cases hlookup : s.lookup (.text name') with
          | some w =>
            rw [hlookup] at hinner
            obtain rfl : w = .mapping inner := hinner
            rfl
          | none =>
            rw [hlookup] at hinner
            obtain rfl : [] = inner := Value.mapping.inj hinner
            -- The section was missing, so nothing was in it.
            cases other with
            | nil => exact absurd List.nil_prefix hrest.2
            | cons _ _ => rfl
        · rw [find?_cons_mapping, lookup_put_of_ne hne, find?_cons_mapping]

/-- A dotted key has a segment. -/
theorem segments_ne_nil (key : String) : segments key ≠ [] := by
  unfold segments
  rw [Ne, List.map_eq_nil_iff]
  exact Text.splitFrom_ne_nil _ _ _

/-- A setting is what it was set to. -/
theorem get?_set {key : String} (h : s.set key v = .ok s') : s'.get? key = some v :=
  find?_assign (segments_ne_nil key) h

/-- Setting one key changes nothing apart from it. -/
theorem get?_set_of_apart {key other : String} (h : s.set key v = .ok s')
    (hapart : Apart (segments key) (segments other)) : s'.get? other = s.get? other :=
  find?_assign_of_apart h hapart

end

end Settings

end TxnLog
