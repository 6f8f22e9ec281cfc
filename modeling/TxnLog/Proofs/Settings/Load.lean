import TxnLog.Proofs.Settings
import TxnLog.Settings.Load

/-!
# Layers of settings

Loaded settings are the built-in ones with those of a file laid over them, and then the overrides
applied in their order. The keys of the overrides are apart from each other, so an override that
is set decides what its own key names (`get?_of_override`) and nothing else (`get?_of_apart`).
Everywhere else the file decides, where it says something, and the built-in settings where it does
not (`Layered`).
-/

namespace TxnLog.Settings

variable {env : Environment} {s s' : Settings} {key text : String}

/-- What a key names in settings that are loaded with a file. -/
structure Layered (env : Environment) (file s : Settings) (key : String) : Prop where
  /-- The environment comes first. -/
  environment : ∀ o ∈ overrides, o.key = key → ∀ text, env.value? o.variableName = some text →
    if o.isInteger then ∃ n, integerOfText text = .ok n ∧ s.get? key = some (.int n)
    else s.get? key = some (.text text)
  /-- Then comes the file. -/
  replaced : (∀ o ∈ overrides, o.key = key → env.value? o.variableName = none) →
    ∀ v, file.get? key = some v →
      (∀ base entries, defaults.get? key = some (.mapping base) → v ≠ .mapping entries) →
        s.get? key = some v
  /-- A section of the file is merged with the built-in one. -/
  merged : (∀ o ∈ overrides, o.key = key → env.value? o.variableName = none) →
    ∀ base entries, defaults.get? key = some (.mapping base) →
      file.get? key = some (.mapping entries) →
        s.get? key = some (.mapping (merge base entries))
          ∧ ∀ k, (merge base entries).lookup k = match entries.lookup k with
            | none => base.lookup k
            | some v => some (overlay (base.lookup k) v)
  /-- What is no section in the file has nothing in it. -/
  obstructed : (∀ o ∈ overrides, o.key = key → env.value? o.variableName = none) →
    Obstructed (segments key) (.mapping file) → s.get? key = none
  /-- What the file says nothing of is built in. -/
  builtIn : (∀ o ∈ overrides, o.key = key → env.value? o.variableName = none) →
    file.get? key = none → ¬ Obstructed (segments key) (.mapping file) →
      s.get? key = defaults.get? key

/-! ### Overrides -/

/-- An override gives its setting an integer or a text. -/
theorem Override.of_valueOf {o : Override} {v : Value} (h : o.valueOf text = .ok v) :
    if o.isInteger then ∃ n, integerOfText text = .ok n ∧ v = .int n else v = .text text := by
  unfold Override.valueOf at h
  split
  · next hinteger =>
    rw [if_pos hinteger] at h
    exact map_eq_ok_iff.mp h
  · next htextual =>
    rw [if_neg htextual] at h
    exact (Except.ok.inj h).symm

/-- An override that applies sets its key, if its variable is set. -/
theorem Override.apply_eq_ok_iff {o : Override} :
    o.apply env s = .ok s' ↔ env.value? o.variableName = none ∧ s' = s
      ∨ ∃ text v, env.value? o.variableName = some text ∧ o.valueOf text = .ok v
        ∧ s.set o.key v = .ok s' := by
  unfold Override.apply
  cases env.value? o.variableName with
  | none => simp [eq_comm]
  | some text => simp [bind_eq_ok_iff]

/-- Overrides leave a key alone from which all that are set are apart. -/
theorem get?_of_apart {os : List Override} (h : os.foldlM (Override.apply env) s = .ok s')
    (hapart : ∀ o ∈ os, env.value? o.variableName ≠ none →
      Apart (segments o.key) (segments key)) : s'.get? key = s.get? key := by
  induction os generalizing s with
  | nil =>
    obtain rfl := Except.ok.inj h
    rfl
  | cons o os ih =>
    rw [List.foldlM_cons, bind_eq_ok_iff] at h
    obtain ⟨next, happly, h⟩ := h
    rw [ih h fun o' ho' => hapart o' (List.mem_cons_of_mem _ ho')]
    obtain ⟨-, rfl⟩ | ⟨text, v, htext, -, hset⟩ := Override.apply_eq_ok_iff.mp happly
    · rfl
    · exact get?_set_of_apart hset (hapart o List.mem_cons_self (by simp [htext]))

/-- An override that is set decides what its key names, if the others are apart from it. -/
theorem get?_of_override {os : List Override} (h : os.foldlM (Override.apply env) s = .ok s')
    (hos : os.Pairwise fun o o' => Apart (segments o'.key) (segments o.key)) {o : Override}
    (ho : o ∈ os) (htext : env.value? o.variableName = some text) :
    ∃ v, o.valueOf text = .ok v ∧ s'.get? o.key = some v := by
  induction os generalizing s with
  | nil => contradiction
  | cons o' os ih =>
    obtain ⟨hfirst, hmore⟩ := List.pairwise_cons.mp hos
    rw [List.foldlM_cons, bind_eq_ok_iff] at h
    obtain ⟨next, happly, h⟩ := h
    obtain rfl | ho := List.mem_cons.mp ho
    -- Those that come later leave the key alone.
    · obtain ⟨hnone, -⟩ | ⟨text', v, htext', hvalue, hset⟩ := Override.apply_eq_ok_iff.mp happly
      · rw [hnone] at htext
        contradiction
      · obtain rfl := Option.some.inj (htext.symm.trans htext')
        refine ⟨v, hvalue, ?_⟩
        rw [get?_of_apart h fun o' ho' _ => hfirst o' ho', get?_set hset]
    · exact ih h hmore ho

/-- The keys of the overrides are apart from each other. -/
theorem pairwise_overrides :
    overrides.Pairwise fun o o' => Apart (segments o'.key) (segments o.key) := by decide

/-! ### Loading -/

section

variable {asked : Option String} {readFile : String → Except Fault Value} {path : String}
  {file : Settings} (hpath : chosenFile? asked env = some path)
  (hread : readFile path = .ok (.mapping file)) (hload : load asked env readFile = .ok s)
include hpath hread hload

/-- Loaded settings come from the overrides, applied to the merged settings. -/
theorem foldlM_of_load : overrides.foldlM (Override.apply env) (merge defaults file) = .ok s := by
  unfold load at hload
  rw [hpath, bind_eq_ok_iff] at hload
  obtain ⟨v, hv, hload⟩ := hload
  obtain rfl := Except.ok.inj (hread.symm.trans hv)
  exact hload

/-- In settings that are loaded with a file, a key that is neither inside a key set from the
environment nor a section with such a key names what the environment says, else what the file
says, and else what is built in. -/
theorem load_layered (hfile : (Value.mapping file).Unambiguous) (key : String)
    (hkey : ∀ o ∈ overrides, env.value? o.variableName ≠ none →
      o.key = key ∨ Apart (segments o.key) (segments key)) : Layered env file s key := by
  have hfold := foldlM_of_load hpath hread hload
  -- Unless the key is set from the environment, it names what it names in the merged settings.
  have hunset : (∀ o ∈ overrides, o.key = key → env.value? o.variableName = none) →
      s.get? key = find? (segments key) (overlay (some (.mapping defaults)) (.mapping file)) := by
    intro hnone
    refine get?_of_apart hfold fun o ho hset => ?_
    exact (hkey o ho hset).resolve_left fun heq => hset (hnone o ho heq)
  have hfound : ∀ v, file.get? key = some v →
      find? (segments key) (overlay (some (.mapping defaults)) (.mapping file))
        = some (overlay (defaults.get? key) v) :=
    fun v hv => find?_overlay_of_some hfile hv
  refine ⟨?_, ?_, ?_, ?_, ?_⟩
  · rintro o ho rfl text htext
    obtain ⟨v, hvalue, hget⟩ := get?_of_override hfold pairwise_overrides ho htext
    have hshape := Override.of_valueOf hvalue
    split at hshape
    · next hinteger =>
      obtain ⟨n, hn, rfl⟩ := hshape
      rw [if_pos hinteger]
      exact ⟨n, hn, hget⟩
    · next htextual =>
      rw [if_neg htextual, ← hshape]
      exact hget
  · intro hnone v hv hmappings
    rw [hunset hnone, hfound v hv, overlay_eq_self hmappings]
  · intro hnone base entries hbase hentries
    have hdistinct : Distinct entries := by
      cases unambiguous_of_find? hfile hentries with
      | mapping hkeys _ => exact hkeys
    rw [hunset hnone, hfound _ hentries, hbase]
    exact ⟨rfl, lookup_merge hdistinct base⟩
  · intro hnone hobstructed
    rw [hunset hnone]
    exact find?_overlay_of_obstructed hfile hobstructed
  · intro hnone hv hfree
    rw [hunset hnone]
    exact find?_overlay_of_none hfile hv hfree

end

/-! ### A file with a section and a text in place of another -/

/-- A file that sets an interval, and holds a text in place of a section. -/
def sample : Settings :=
  [("tail", .mapping [("poll_interval_ms", .int 250)]), ("logging", .text "off")]

/-- An environment that sets the checksum. -/
def Environment.sample : Environment := fun name =>
  if name = "TXNTAIL_CHECKSUM" then some "crc32c" else none

/-- What four keys name when the file is loaded in the environment. -/
theorem load_layered_sample : ∃ s : Settings,
    load (some "sample.yaml") .sample (fun _ => .ok (.mapping sample)) = .ok s
      ∧ s.get? "log.checksum" = some (.text "crc32c")
      ∧ s.get? "tail.poll_interval_ms" = some (.int 250)
      ∧ s.get? "tail.verbose_poll_interval_ms" = some (.int 5000)
      ∧ s.get? "logging.level" = none := by
  have hload : load (some "sample.yaml") .sample (fun _ => .ok (.mapping sample)) = .ok [
      ("tail", .mapping [("poll_interval_ms", .int 250), ("verbose_poll_interval_ms", .int 5000)]),
      ("log", .mapping [("checksum", .text "crc32c"), ("max_frame_size", .int 1049599)]),
      ("logging", .text "off")] := rfl
  have hfile : (Value.mapping sample).Unambiguous := by
    refine .mapping (by decide) ?_
    simp only [sample, List.forall_mem_cons, List.not_mem_nil]
    refine ⟨.mapping (by decide) ?_, .text _, by simp⟩
    simp only [List.forall_mem_cons, List.not_mem_nil]
    exact ⟨.number _, by simp⟩
  have hchecksum := load_layered rfl rfl hload hfile "log.checksum" (by decide)
  have hinterval := load_layered rfl rfl hload hfile "tail.poll_interval_ms" (by decide)
  have hverbose := load_layered rfl rfl hload hfile "tail.verbose_poll_interval_ms" (by decide)
  have hlevel := load_layered rfl rfl hload hfile "logging.level" (by decide)
  -- The section of the file does not have the second interval, and nothing is in the way to it.
  have hfree : ¬ Obstructed (segments "tail.verbose_poll_interval_ms") (.mapping sample) := by
    rw [show segments "tail.verbose_poll_interval_ms" = ["tail", "verbose_poll_interval_ms"] from
      rfl]
    intro h
    obtain ⟨v, hv, h⟩ := obstructed_cons_mapping.mp h
    obtain rfl := Option.some.inj hv
    obtain ⟨v, hv, -⟩ := obstructed_cons_mapping.mp h
    contradiction
  have hobstructed : Obstructed (segments "logging.level") (.mapping sample) :=
    ⟨["logging"], ["level"], .text "off", rfl, by simp, rfl, by simp⟩
  refine ⟨_, hload, ?_, ?_, ?_, ?_⟩
  · exact hchecksum.environment ⟨"TXNTAIL_CHECKSUM", "log.checksum", false⟩ (by decide) rfl
      "crc32c" rfl
  · exact hinterval.replaced (by decide) _ rfl fun base entries _ h => by contradiction
  · exact hverbose.builtIn (by decide) rfl hfree
  · exact hlevel.obstructed (by decide) hobstructed

end TxnLog.Settings
