import TxnLog.Proofs.CommandLine.Exit
import TxnLog.Proofs.Settings.Reports

/-!
# Faults that are not reported

Most of what can be wrong with the settings is reported as an invalid configuration. Two things in
a settings file are not (`Unprepared`): a value that is no section where a setting is to be put
below it, and a value that cannot be an integer at all where an integer is wanted. Whatever else
keeps the program from a session is reported (`of_ofOptions_error`), and neither of the two lets it
come to one (`exists_error_of_unprepared`).
-/

namespace TxnLog

/-- Diagnostics that cannot be set up are reported. -/
theorem Diagnostics.reports_ofValues (level format output : Value) :
    Settings.Reports (Setup.ofValues level format output) := by
  have hlevel : Settings.Reports (Level.ofValue level) := by
    unfold Level.ofValue
    split
    · exact Settings.reports_ok _
    · exact Settings.reports_error rfl
  have hformat : Settings.Reports (Format.ofValue format) := by
    unfold Format.ofValue
    dsimp only
    split
    · exact Settings.reports_ok _
    · exact Settings.reports_error rfl
  unfold Setup.ofValues
  exact hlevel.bind fun _ => hformat.bind fun _ => Settings.reports_ok _

namespace CommandLine

open Diagnostics (Setup)
open Settings (Apart Environment Fault NoInteger Obstructed Override integerKeys overrides segments)

variable {options : Options} {env : Environment} {s s' base file : Settings} {f : Fault}
  {key : String}

/-! ### Everything that is laid over the settings -/

/-- The options that set something, as overrides. -/
def optionOverrides : List Override :=
  [⟨"--log-level", "logging.level", false⟩, ⟨"--log-format", "logging.format", false⟩]

/-- The options as the variables of an environment. -/
def Options.variables (options : Options) : Environment := fun name =>
  if name = "--log-level" then options.logLevel.value?
  else if name = "--log-format" then options.logFormat.value?
  else none

/-- A variable of the environment or an option sets the key. -/
inductive Options.Sets (options : Options) (env : Environment) : String → Prop where
  | environment {o : Override} (ho : o ∈ overrides) (hset : env.value? o.variableName ≠ none) :
    Sets options env o.key
  | option {o : Override} (ho : o ∈ optionOverrides)
      (hset : options.variables.value? o.variableName ≠ none) : Sets options env o.key

/-- The settings with everything laid over them that the environment and the options set. -/
def Options.layers (options : Options) (env : Environment) (base : Settings) :
    Except Fault Settings := do
  let s ← overrides.foldlM (Override.apply env) base
  optionOverrides.foldlM (Override.apply options.variables) s

/-- An option is laid over the settings as an override is. -/
theorem override_eq_apply (o : Override) (env : Environment) (g : Given)
    (htext : o.isInteger = false) (hvalue : env o.variableName = g.value?) (s : Settings) :
    override s o.key g = o.apply env s := by
  unfold override Override.apply Environment.value?
  rw [hvalue]
  cases g.value?.filter (· ≠ "") with
  | none => rfl
  | some text => simp [Override.valueOf, htext, bind, Except.bind]

/-- The keys of the options are apart from each other. -/
theorem pairwise_optionOverrides :
    optionOverrides.Pairwise fun o o' => Apart (segments o'.key) (segments o.key) := by decide

/-- What an option sets may be set by a variable of the environment as well. -/
theorem exists_override_of_option :
    ∀ o ∈ optionOverrides, ∃ o' ∈ overrides, o'.key = o.key := by decide

/-- No option sets what is to be an integer. -/
theorem apart_of_option : ∀ o ∈ optionOverrides, ∀ key ∈ integerKeys,
    Apart (segments o.key) (segments key) := by decide

/-- A variable that sets what is to be an integer holds one. -/
theorem isInteger_of_mem : ∀ o ∈ overrides, o.key ∈ integerKeys → o.isInteger = true := by decide

/-- What is to be an integer is apart from what other variables set. -/
theorem apart_of_ne_key : ∀ o ∈ overrides, ∀ key ∈ integerKeys, o.key ≠ key →
    Apart (segments o.key) (segments key) := by decide

/-- Whatever is set is set in the built-in settings. -/
theorem exists_get?_of_sets (h : options.Sets env key) :
    ∃ v, Settings.defaults.get? key = some v := by
  have hall : ∀ o ∈ overrides, (Settings.defaults.get? o.key).isSome := by decide
  cases h with
  | environment ho _ => exact Option.isSome_iff_exists.mp (hall _ ho)
  | option ho _ =>
    obtain ⟨o, ho, hkey⟩ := exists_override_of_option _ ho
    rw [← hkey]
    exact Option.isSome_iff_exists.mp (hall o ho)

/-- What is in the way of an option after the variables are laid over was in its way before. -/
theorem obstructed_option_iff {o : Override}
    (hfold : overrides.foldlM (Override.apply env) base = .ok s) (ho : o ∈ optionOverrides) :
    Obstructed (segments o.key) (.mapping s) ↔ Obstructed (segments o.key) (.mapping base) := by
  obtain ⟨o', ho', hkey⟩ := exists_override_of_option o ho
  rw [← hkey]
  exact Settings.obstructed_key_iff hfold ho'

/-- If something cannot be laid over the settings, it is reported, or something is in its way. -/
theorem of_layers_error (h : options.layers env base = .error f) :
    f.kind.isReported = true
      ∨ f = .notSection ∧ ∃ key, options.Sets env key
        ∧ Obstructed (segments key) (.mapping base) := by
  unfold Options.layers at h
  rcases bind_eq_error_iff.mp h with h | ⟨s, hfold, h⟩
  · obtain ⟨o, ho, text, htext, hvalue | ⟨rfl, hobstructed⟩⟩ :=
      Settings.of_foldlM_error Settings.pairwise_overrides h
    · exact .inl (Override.reports_valueOf o text f hvalue)
    · exact .inr ⟨rfl, o.key, .environment ho (by simp [htext]), hobstructed⟩
  · obtain ⟨o, ho, text, htext, hvalue | ⟨rfl, hobstructed⟩⟩ :=
      Settings.of_foldlM_error pairwise_optionOverrides h
    · exact .inl (Override.reports_valueOf o text f hvalue)
    · have hbefore := (obstructed_option_iff hfold ho).mp hobstructed
      exact .inr ⟨rfl, o.key, .option ho (by simp [htext]), hbefore⟩

/-- Where everything is laid over the settings, nothing is in the way of what is set. -/
theorem not_obstructed_of_layers (h : options.layers env base = .ok s)
    (hset : options.Sets env key) : ¬ Obstructed (segments key) (.mapping base) := by
  obtain ⟨next, hfold, hoptions⟩ := bind_eq_ok_iff.mp h
  cases hset with
  | environment ho hset =>
    exact Settings.not_obstructed_of_foldlM Settings.pairwise_overrides hfold ho hset
  | option ho hset =>
    rw [← obstructed_option_iff hfold ho]
    exact Settings.not_obstructed_of_foldlM pairwise_optionOverrides hoptions ho hset

/-- What is to be an integer and is set is an integer. -/
theorem exists_get?_of_layers (h : options.layers env base = .ok s) (hkey : key ∈ integerKeys)
    (hset : options.Sets env key) : ∃ n, s.get? key = some (.int n) := by
  obtain ⟨next, hfold, hoptions⟩ := bind_eq_ok_iff.mp h
  cases hset with
  | @environment o ho hset =>
    obtain ⟨text, htext⟩ := Option.ne_none_iff_exists'.mp hset
    obtain ⟨v, hvalue, hget⟩ := Settings.get?_of_override hfold Settings.pairwise_overrides ho htext
    have hshape := Override.of_valueOf hvalue
    rw [if_pos (isInteger_of_mem o ho hkey)] at hshape
    obtain ⟨n, -, rfl⟩ := hshape
    refine ⟨n, ?_⟩
    rw [Settings.get?_of_apart hoptions fun o' ho' _ => apart_of_option o' ho' _ hkey, hget]
  | option ho _ => exact absurd List.prefix_rfl (apart_of_option _ ho _ hkey).1

/-- What is to be an integer and is not set is what it is in the file, unless it is the integer that
is built in. -/
theorem get?_layers_iff {v : Value} {n : Int} (hfile : (Value.mapping file).Unambiguous)
    (h : options.layers env (Settings.merge Settings.defaults file) = .ok s)
    (hkey : key ∈ integerKeys) (hunset : ¬ options.Sets env key)
    (hbuiltIn : Settings.defaults.get? key = some (.int n)) (hv : v ≠ .int n) :
    s.get? key = some v ↔ file.get? key = some v := by
  obtain ⟨next, hfold, hoptions⟩ := bind_eq_ok_iff.mp h
  rw [Settings.get?_of_apart hoptions fun o ho _ => apart_of_option o ho _ hkey]
  refine Settings.get?_eq_some_iff_of_unset hfile hfold ?_ hbuiltIn hv
  intro o ho hset
  refine apart_of_ne_key o ho key hkey ?_
  rintro rfl
  exact hunset (.environment ho hset)

/-! ### Sessions -/

/-- What is wrong with a settings file so that the program is not prepared for it. -/
inductive Unprepared (options : Options) (env : Environment) (file : Settings) : Fault → Prop where
  /-- Something that is no section stands where a setting is to be put below it. -/
  | notSection {key : String} (hset : options.Sets env key)
      (hobstructed : Obstructed (segments key) (.mapping file)) :
    Unprepared options env file .notSection
  /-- Where an integer is wanted, and nothing is set, stands what cannot be one. -/
  | noInteger {key : String} {v : Value} {f : Fault} (hkey : key ∈ integerKeys)
      (hunset : ¬ options.Sets env key) (hget : file.get? key = some v) (hv : NoInteger v f) :
    Unprepared options env file f

/-- What the program is not prepared for is not reported. -/
theorem Unprepared.not_isReported (h : Unprepared options env file f) :
    f.kind.isReported = false := by
  cases h with
  | notSection _ _ => rfl
  | noInteger _ _ _ hv => exact hv.not_isReported

section

variable {readSettings : String → Except Fault Value} {path : String}
  (hpath : Settings.chosenFile? options.config.value? env = some path)
  (hread : readSettings path = .ok (.mapping file))
include hpath hread

/-- A session comes from everything that is laid over the settings of the file, which are converted
and checked, and from how diagnostics are set up. -/
theorem ofOptions_eq :
    Session.ofOptions options env readSettings = (do
      let settings ← options.layers env (Settings.merge Settings.defaults file)
      let candidate ← settings.candidate
      let tailing ← candidate.check
      let setup ← Setup.ofValues (settings.getD "logging.level" .null)
        (settings.getD "logging.format" .null) (.text "stderr")
      return { options, settings, tailing, setup }) := by
  have hload : Settings.load options.config.value? env readSettings
      = overrides.foldlM (Override.apply env) (Settings.merge Settings.defaults file) := by
    unfold Settings.load
    rw [hpath]
    dsimp only
    rw [hread]
    rfl
  have hlevel : ∀ s, override s "logging.level" options.logLevel
      = Override.apply options.variables s ⟨"--log-level", "logging.level", false⟩ :=
    override_eq_apply ⟨"--log-level", "logging.level", false⟩ _ _ rfl rfl
  have hformat : ∀ s, override s "logging.format" options.logFormat
      = Override.apply options.variables s ⟨"--log-format", "logging.format", false⟩ :=
    override_eq_apply ⟨"--log-format", "logging.format", false⟩ _ _ rfl rfl
  unfold Session.ofOptions Options.layers Settings.tailing optionOverrides
  simp only [hload, hlevel, hformat, List.foldlM_cons, List.foldlM_nil, bind_assoc, bind_pure]

variable (hfile : (Value.mapping file).Unambiguous)
include hfile

/-- Whatever keeps the program from a session is reported, or the program is not prepared for it. -/
theorem of_ofOptions_error (h : Session.ofOptions options env readSettings = .error f) :
    f.kind.isReported = true ∨ Unprepared options env file f := by
  rw [ofOptions_eq hpath hread] at h
  simp only [bind_eq_error_iff] at h
  rcases h with h | ⟨s, hlayers, h | ⟨c, hc, h | ⟨tailing, -, h | ⟨setup, -, h⟩⟩⟩⟩
  · refine (of_layers_error h).imp_right ?_
    rintro ⟨rfl, key, hset, hobstructed⟩
    obtain ⟨w, hbuiltIn⟩ := exists_get?_of_sets hset
    exact .notSection hset ((Settings.obstructed_merge_iff hfile hbuiltIn).mp hobstructed)
  · refine (Settings.of_candidate_error h).imp_right ?_
    rintro ⟨key, hkey, v, hget, hv⟩
    have hunset : ¬ options.Sets env key := by
      intro hset
      obtain ⟨n, hn⟩ := exists_get?_of_layers hlayers hkey hset
      exact hv.ne_int n (Option.some.inj (hget.symm.trans hn))
    obtain ⟨n, hbuiltIn⟩ := Settings.exists_get?_defaults hkey
    exact .noInteger hkey hunset
      ((get?_layers_iff hfile hlayers hkey hunset hbuiltIn (hv.ne_int n)).mp hget) hv
  · exact .inl (Settings.reports_check hc f h)
  · exact .inl (Diagnostics.reports_ofValues _ _ _ f h)
  · contradiction

/-- What the program is not prepared for keeps it from a session. -/
theorem exists_error_of_unprepared (h : Unprepared options env file f) :
    ∃ g, Session.ofOptions options env readSettings = .error g := by
  cases hsession : Session.ofOptions options env readSettings with
  | error g => exact ⟨g, rfl⟩
  | ok session =>
    rw [ofOptions_eq hpath hread] at hsession
    simp only [bind_eq_ok_iff] at hsession
    obtain ⟨s, hlayers, c, hc, -⟩ := hsession
    cases h with
    | notSection hset hobstructed =>
      obtain ⟨w, hbuiltIn⟩ := exists_get?_of_sets hset
      have hmerged := (Settings.obstructed_merge_iff hfile hbuiltIn).mpr hobstructed
      exact absurd hmerged (not_obstructed_of_layers hlayers hset)
    | @noInteger key v f hkey hunset hget hv =>
      obtain ⟨n, hbuiltIn⟩ := Settings.exists_get?_defaults hkey
      have hfound :=
        (get?_layers_iff hfile hlayers hkey hunset hbuiltIn (hv.ne_int n)).mpr hget
      obtain ⟨m, hm⟩ := Settings.exists_integer_of_candidate hc hkey hfound
      rw [hv.integer_eq] at hm
      contradiction

end

/-! ### The program -/

/-- Where a file holds a mapping, whatever keeps the settings from being used is reported as an
invalid configuration, with the code of a wrong usage, or is a fault of the file that the program is
not prepared for, and then it fails with that fault. No file with such a fault can be used. -/
theorem run_reports_faults {words : List String} {w : World} {path : String}
    (hparse : Options.parse words = .ok options)
    (hpath : Settings.chosenFile? options.config.value? w.environment = some path)
    (hread : w.readSettings path = .ok (.mapping file))
    (hfile : (Value.mapping file).Unambiguous) :
    (∀ f, Session.ofOptions options w.environment w.readSettings = .error f →
      (f.kind.isReported = true
        ∧ run words w = .exited { code := .usage, notices := [invalidSettings f] })
      ∨ (Unprepared options w.environment file f ∧ run words w = .faulty f { code := .failure }))
    ∧ ∀ f, Unprepared options w.environment file f →
      ∃ g, Session.ofOptions options w.environment w.readSettings = .error g := by
  constructor
  · intro f hsession
    unfold run
    simp only [hparse, hsession]
    rcases of_ofOptions_error hpath hread hfile hsession with hreported | hunprepared
    · exact .inl ⟨hreported, by rw [if_pos hreported]⟩
    · refine .inr ⟨hunprepared, ?_⟩
      rw [hunprepared.not_isReported, if_neg Bool.false_ne_true]
  · exact fun f => exists_error_of_unprepared hpath hread hfile

/-- A settings file with a text where the program wants a section. -/
def noSection : Settings := [("tail", .text "fast")]

/-- A world with that file, in which the environment sets an interval. -/
def World.unprepared : World where
  environment := fun name =>
    if name = "TXNTAIL_POLL_INTERVAL_MS" then some "250"
    else (World.sample noSection).environment name
  readSettings := (World.sample noSection).readSettings
  folder := (World.sample noSection).folder

/-- The interval cannot be put into the text, and the program fails with that. -/
theorem run_reports_faults_noSection :
    run ["log.1"] World.unprepared = .faulty .notSection { code := .failure } := by
  have hfile : (Value.mapping noSection).Unambiguous := by
    refine .mapping (by decide) ?_
    simp only [noSection, List.forall_mem_cons, List.not_mem_nil]
    exact ⟨.text _, by simp⟩
  have hsession : Session.ofOptions { logFile := "log.1" } World.unprepared.environment
      World.unprepared.readSettings = .error .notSection := rfl
  have hpath : Settings.chosenFile? (({ logFile := "log.1" } : Options).config.value?)
      World.unprepared.environment = some "settings.yaml" := rfl
  rcases (run_reports_faults parse_sample hpath rfl hfile).1 _ hsession with
    ⟨hreported, -⟩ | ⟨-, hrun⟩
  · contradiction
  · exact hrun

/-- A settings file that gives nothing as an interval. -/
def noInterval : Settings := [("tail", .mapping [("poll_interval_ms", .null)])]

/-- With this file the fault is none of those that are reported, and the program fails with it. -/
theorem run_noInterval :
    (Value.mapping noInterval).Unambiguous
      ∧ Options.parse ["log.1"] = .ok { logFile := "log.1" }
      ∧ (World.sample noInterval).readSettings "settings.yaml" = .ok (.mapping noInterval)
      ∧ Session.ofOptions { logFile := "log.1" } (World.sample noInterval).environment
        (World.sample noInterval).readSettings = .error .notNumber
      ∧ Fault.notNumber.kind.isReported = false
      ∧ run ["log.1"] (World.sample noInterval) = .faulty .notNumber { code := .failure } := by
  have hsession : Session.ofOptions { logFile := "log.1" } (World.sample noInterval).environment
      (World.sample noInterval).readSettings = .error .notNumber := rfl
  have hfile : (Value.mapping noInterval).Unambiguous := by
    refine .mapping (by decide) ?_
    simp only [noInterval, List.forall_mem_cons, List.not_mem_nil]
    refine ⟨.mapping (by decide) ?_, by simp⟩
    simp only [List.forall_mem_cons, List.not_mem_nil]
    exact ⟨.null, by simp⟩
  refine ⟨hfile, parse_sample, rfl, hsession, rfl, ?_⟩
  unfold run
  simp only [parse_sample, hsession]
  rfl

end CommandLine

end TxnLog
