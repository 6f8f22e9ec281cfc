import TxnLog.Proofs.Settings.Load

/-!
# What is in the way of a setting

A setting cannot be put below a value that is no mapping, and nothing else keeps it from being put
(`set_eq_error_iff`). Such a value comes from the file (`obstructed_merge_iff`): none of the
built-in settings is in the way of another key, and what is put under one key is in the way of no
key apart from it (`obstructed_assign_iff`). So an override fails where its own text is at fault or
the file is in its way (`of_foldlM_error`), and where the file is in its way it always fails
(`not_obstructed_of_foldlM`).
-/

namespace TxnLog

namespace Settings

variable {s s' base file : Settings} {path other : List String} {v w : Value} {old : Option Value}
  {key : String}

/-! ### Obstructions and what is found -/

/-- Nothing is in the way of the empty path. -/
theorem not_obstructed_nil (v : Value) : ¬ Obstructed [] v := by
  rintro ⟨front, back, w, hpath, hback, -⟩
  exact hback (List.append_eq_nil_iff.mp hpath.symm).2

/-- Where something is found, nothing is in the way. -/
theorem not_obstructed_of_find? (hfind : find? path v = some w) : ¬ Obstructed path v := by
  rintro ⟨front, back, u, rfl, hback, hfront, hu⟩
  obtain ⟨name, rest, rfl⟩ := List.exists_cons_of_ne_nil hback
  rw [find?_append, hfront, Option.bind_some, find?_cons_of_ne name rest hu] at hfind
  contradiction

/-- Where nothing is, nothing is in the way. -/
theorem not_obstructed_empty (path : List String) : ¬ Obstructed path (.mapping []) := by
  cases path with
  | nil => exact not_obstructed_nil _
  | cons name path =>
    rw [obstructed_cons_mapping]
    rintro ⟨v, hlookup, -⟩
    contradiction

/-- What is in the way of one path, where nothing is in the way of another apart from it, is not on
the way of the other. -/
theorem apart_of_obstructed {front back : List String} (hapart : Apart path (front ++ back))
    (hfree : ¬ Obstructed path v) (hfind : find? front v = some w)
    (hw : ∀ entries, w ≠ .mapping entries) : Apart path front := by
  refine ⟨fun hpre => hapart.1 (hpre.trans (List.prefix_append front back)), ?_⟩
  rintro ⟨rest, rfl⟩
  by_cases hrest : rest = []
  · subst hrest
    rw [List.append_nil] at hapart
    exact hapart.1 (List.prefix_append front back)
  · exact hfree ⟨front, rest, w, rfl, hrest, hfind, hw⟩

/-! ### Assignments -/

/-- An assignment fails if and only if something is in its way. -/
theorem assign_eq_error_iff {f : Fault} :
    assign v path s = .error f ↔ f = .notSection ∧ Obstructed path (.mapping s) := by
  induction path generalizing s with
  | nil => simp [assign, not_obstructed_nil]
  | cons name path ih =>
    rw [obstructed_cons_mapping]
    by_cases hlast : path = []
    · subst hlast
      simp [assign, not_obstructed_nil]
    · rw [assign]
      · cases s.lookup (.text name) with
        | none => simp [map_eq_error_iff, ih, not_obstructed_empty]
        | some w =>
          cases w with
          | mapping inner => simp [map_eq_error_iff, ih]
          | _ => simp [obstructed_of_ne hlast, eq_comm]
      · exact hlast

/-- An assignment that succeeds puts nothing in the way of a path apart from its own, and takes
nothing out of the way. -/
theorem obstructed_assign_iff (h : assign v path s = .ok s') (hapart : Apart path other) :
    Obstructed other (.mapping s') ↔ Obstructed other (.mapping s) := by
  have hpath : path ≠ [] := by
    rintro rfl
    exact hapart.1 List.nil_prefix
  -- Nothing is in the way of the assignment, neither before nor after it.
  have hbefore : ¬ Obstructed path (.mapping s) := by
    intro hobstructed
    have herror := (assign_eq_error_iff (v := v)).mpr ⟨rfl, hobstructed⟩
    rw [h] at herror
    contradiction
  have hafter : ¬ Obstructed path (.mapping s') := not_obstructed_of_find? (find?_assign hpath h)
  constructor
  · rintro ⟨front, back, w, rfl, hback, hfind, hw⟩
    have hfront := apart_of_obstructed hapart hafter hfind hw
    rw [find?_assign_of_apart h hfront] at hfind
    exact ⟨front, back, w, rfl, hback, hfind, hw⟩
  · rintro ⟨front, back, w, rfl, hback, hfind, hw⟩
    have hfront := apart_of_obstructed hapart hbefore hfind hw
    rw [← find?_assign_of_apart h hfront] at hfind
    exact ⟨front, back, w, rfl, hback, hfind, hw⟩

/-- A setting cannot be set if and only if something is in its way. -/
theorem set_eq_error_iff {f : Fault} :
    s.set key v = .error f ↔ f = .notSection ∧ Obstructed (segments key) (.mapping s) :=
  assign_eq_error_iff

/-! ### Laying over -/

/-- What is laid over something is a mapping if it was one before. -/
theorem exists_overlay_mapping (old : Option Value) (entries : Settings) :
    ∃ merged, overlay old (.mapping entries) = .mapping merged := by
  cases old with
  | none => exact ⟨_, rfl⟩
  | some w => cases w <;> exact ⟨_, rfl⟩

/-- What is in the way in something is in the way where that is laid over something else. -/
theorem obstructed_overlay (h : v.Unambiguous) (hobstructed : Obstructed path v) :
    Obstructed path (overlay old v) := by
  obtain ⟨front, back, w, rfl, hback, hfind, hw⟩ := hobstructed
  refine ⟨front, back, w, rfl, hback, ?_, hw⟩
  rw [find?_overlay_of_some h hfind, overlay_eq_self fun _ entries _ => hw entries]

/-- What is in the way where something is laid over something else was in the way in one of them. -/
theorem of_obstructed_overlay (h : v.Unambiguous) (hobstructed : Obstructed path (overlay old v)) :
    Obstructed path v ∨ ∃ w, old = some w ∧ Obstructed path w := by
  obtain ⟨front, back, w, rfl, hback, hfind, hw⟩ := hobstructed
  cases hfront : find? front v with
  | some u =>
    rw [find?_overlay_of_some h hfront] at hfind
    have hw' := Option.some.inj hfind
    -- A mapping laid over anything is a mapping.
    have hu : ∀ entries, u ≠ .mapping entries := by
      rintro entries rfl
      obtain ⟨merged, hmerged⟩ := exists_overlay_mapping (old.bind (find? front)) entries
      exact hw merged (hw'.symm.trans hmerged)
    exact .inl ⟨front, back, u, rfl, hback, hfront, hu⟩
  | none =>
    by_cases hfree : Obstructed front v
    · obtain ⟨first, rest, u, rfl, hrest, hu, hmapping⟩ := hfree
      refine .inl ⟨first, rest ++ back, u, List.append_assoc .., ?_, hu, hmapping⟩
      exact List.append_ne_nil_of_left_ne_nil hrest back
    · rw [find?_overlay_of_none h hfront hfree, Option.bind_eq_some_iff] at hfind
      obtain ⟨u, rfl, hu⟩ := hfind
      exact .inr ⟨u, rfl, front, back, w, rfl, hback, hu, hw⟩

/-- In the way of a built-in setting is after a merge what is in its way in the file. -/
theorem obstructed_merge_iff (hfile : (Value.mapping file).Unambiguous)
    (hkey : base.get? key = some w) :
    Obstructed (segments key) (.mapping (merge base file))
      ↔ Obstructed (segments key) (.mapping file) := by
  have hmerge : Value.mapping (merge base file)
      = overlay (some (.mapping base)) (.mapping file) := rfl
  rw [hmerge]
  constructor
  · intro hobstructed
    rcases of_obstructed_overlay hfile hobstructed with h | ⟨u, hbase, h⟩
    · exact h
    · obtain rfl := Option.some.inj hbase
      exact absurd h (not_obstructed_of_find? hkey)
  · exact obstructed_overlay hfile

/-! ### Overrides -/

variable {env : Environment} {os : List Override} {o : Override} {f : Fault}

/-- Keys are apart from each other in either order. -/
theorem Apart.symm (h : Apart path other) : Apart other path := ⟨h.2, h.1⟩

/-- An override fails if its variable is set, and either its text is at fault or something is in
its way. -/
theorem Override.of_apply_error (h : o.apply env s = .error f) :
    ∃ text, env.value? o.variableName = some text
      ∧ (o.valueOf text = .error f
        ∨ f = .notSection ∧ Obstructed (segments o.key) (.mapping s)) := by
  unfold Override.apply at h
  cases htext : env.value? o.variableName with
  | none =>
    rw [htext] at h
    contradiction
  | some text =>
    rw [htext] at h
    refine ⟨text, rfl, ?_⟩
    rcases bind_eq_error_iff.mp h with hvalue | ⟨v, -, hset⟩
    · exact .inl hvalue
    · exact .inr (set_eq_error_iff.mp hset)

/-- An override that applies has nothing in its way. -/
theorem Override.not_obstructed_of_apply (h : o.apply env s = .ok s')
    (hset : env.value? o.variableName ≠ none) : ¬ Obstructed (segments o.key) (.mapping s) := by
  intro hobstructed
  rcases Override.apply_eq_ok_iff.mp h with ⟨hnone, -⟩ | ⟨text, v, -, -, hassign⟩
  · exact hset hnone
  · have herror := (set_eq_error_iff (v := v)).mpr ⟨rfl, hobstructed⟩
    rw [hassign] at herror
    contradiction

/-- An override that applies puts nothing in the way of a path apart from its key, and takes nothing
out of the way. -/
theorem Override.obstructed_apply_iff (h : o.apply env s = .ok s')
    (hapart : env.value? o.variableName ≠ none → Apart (segments o.key) other) :
    Obstructed other (.mapping s') ↔ Obstructed other (.mapping s) := by
  rcases Override.apply_eq_ok_iff.mp h with ⟨-, rfl⟩ | ⟨text, v, htext, -, hset⟩
  · rfl
  · exact obstructed_assign_iff hset (hapart (by simp [htext]))

/-- The same holds of overrides one after the other. -/
theorem obstructed_foldlM_iff (h : os.foldlM (Override.apply env) s = .ok s')
    (hapart : ∀ o ∈ os, env.value? o.variableName ≠ none → Apart (segments o.key) other) :
    Obstructed other (.mapping s') ↔ Obstructed other (.mapping s) := by
  induction os generalizing s with
  | nil =>
    obtain rfl := Except.ok.inj h
    rfl
  | cons o os ih =>
    rw [List.foldlM_cons, bind_eq_ok_iff] at h
    obtain ⟨next, happly, h⟩ := h
    rw [ih h fun o' ho' => hapart o' (List.mem_cons_of_mem _ ho')]
    exact Override.obstructed_apply_iff happly (hapart o List.mem_cons_self)

section

variable (hos : os.Pairwise fun o o' => Apart (segments o'.key) (segments o.key))
include hos

/-- Overrides that are apart from each other fail where the text of one that is set is at fault, or
something is in its way from the start. -/
theorem of_foldlM_error (h : os.foldlM (Override.apply env) s = .error f) :
    ∃ o ∈ os, ∃ text, env.value? o.variableName = some text
      ∧ (o.valueOf text = .error f
        ∨ f = .notSection ∧ Obstructed (segments o.key) (.mapping s)) := by
  induction os generalizing s with
  | nil => contradiction
  | cons o os ih =>
    obtain ⟨hfirst, hmore⟩ := List.pairwise_cons.mp hos
    rw [List.foldlM_cons, bind_eq_error_iff] at h
    rcases h with h | ⟨next, happly, h⟩
    · exact ⟨o, List.mem_cons_self, Override.of_apply_error h⟩
    · obtain ⟨o', ho', text, htext, hfault⟩ := ih hmore h
      refine ⟨o', List.mem_cons_of_mem _ ho', text, htext, hfault.imp_right ?_⟩
      -- What is in the way after the first one was in the way before it.
      rintro ⟨rfl, hobstructed⟩
      have hapart := (hfirst o' ho').symm
      exact ⟨rfl, (Override.obstructed_apply_iff happly fun _ => hapart).mp hobstructed⟩

/-- Where overrides that are apart from each other apply, nothing is in the way of those that are
set. -/
theorem not_obstructed_of_foldlM (h : os.foldlM (Override.apply env) s = .ok s') (ho : o ∈ os)
    (hset : env.value? o.variableName ≠ none) : ¬ Obstructed (segments o.key) (.mapping s) := by
  induction os generalizing s with
  | nil => contradiction
  | cons o' os ih =>
    obtain ⟨hfirst, hmore⟩ := List.pairwise_cons.mp hos
    rw [List.foldlM_cons, bind_eq_ok_iff] at h
    obtain ⟨next, happly, h⟩ := h
    rcases List.mem_cons.mp ho with rfl | ho
    · exact Override.not_obstructed_of_apply happly hset
    · have hapart := (hfirst o ho).symm
      rw [← Override.obstructed_apply_iff happly fun _ => hapart]
      exact ih hmore h ho

end

/-- The keys of two overrides are apart. -/
theorem apart_of_ne : ∀ o ∈ overrides, ∀ o' ∈ overrides, o ≠ o' →
    Apart (segments o.key) (segments o'.key) := by decide

/-- Where the overrides apply, what is in the way of the key of one of them was in its way before,
whether the override is set or not. -/
theorem obstructed_key_iff (h : overrides.foldlM (Override.apply env) s = .ok s')
    (ho : o ∈ overrides) :
    Obstructed (segments o.key) (.mapping s') ↔ Obstructed (segments o.key) (.mapping s) := by
  cases htext : env.value? o.variableName with
  | some text =>
    have hset : env.value? o.variableName ≠ none := by simp [htext]
    obtain ⟨v, -, hget⟩ := get?_of_override h pairwise_overrides ho htext
    have hbefore := not_obstructed_of_foldlM pairwise_overrides h ho hset
    exact iff_of_false (not_obstructed_of_find? hget) hbefore
  | none =>
    refine obstructed_foldlM_iff h fun o' ho' hset => apart_of_ne o' ho' o ho ?_
    rintro rfl
    exact hset htext

/-! ### What is found where nothing is set -/

/-- A setting that the environment leaves alone is what it is in the file, unless it is the integer
that is built in. -/
theorem get?_eq_some_iff_of_unset (hfile : (Value.mapping file).Unambiguous)
    (h : overrides.foldlM (Override.apply env) (merge defaults file) = .ok s)
    (hapart : ∀ o ∈ overrides, env.value? o.variableName ≠ none →
      Apart (segments o.key) (segments key))
    {n : Int} (hbuiltIn : defaults.get? key = some (.int n)) (hv : v ≠ .int n) :
    s.get? key = some v ↔ file.get? key = some v := by
  have hmerge : (merge defaults file).get? key
      = find? (segments key) (overlay (some (.mapping defaults)) (.mapping file)) := rfl
  have hdefault : (some (Value.mapping defaults)).bind (find? (segments key)) = some (.int n) :=
    hbuiltIn
  rw [get?_of_apart h hapart, hmerge]
  cases hget : file.get? key with
  | some u =>
    -- No integer is merged with anything.
    have hreplaced : overlay (some (.int n)) u = u :=
      overlay_eq_self fun _ _ hbase => by simp [Value.int] at hbase
    rw [find?_overlay_of_some hfile hget, hdefault, hreplaced]
  | none =>
    by_cases hobstructed : Obstructed (segments key) (.mapping file)
    · rw [find?_overlay_of_obstructed hfile hobstructed]
    · rw [find?_overlay_of_none hfile hget hobstructed, hdefault]
      simp [Ne.symm hv]

end Settings

end TxnLog
