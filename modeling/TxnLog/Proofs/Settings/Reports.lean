import TxnLog.Proofs.Settings.Interval
import TxnLog.Proofs.Settings.Obstruction

/-!
# Which faults are reported

A computation `Reports` its faults if each of them is of a kind that is reported. Reading an integer
from a text, reading a name and every check of the settings of a run are such computations, and a
chain of them is one (`Reports.bind`). What is left is a value that cannot be an integer at all
(`NoInteger`), which is the only other way in which the settings of a run can be at fault
(`of_candidate_error`).
-/

namespace TxnLog.Settings

variable {s : Settings} {v : Value} {f : Fault} {key : String}

/-! ### Computations that report their faults -/

/-- Whatever fault a computation comes to is one that is reported. -/
def Reports {α : Type} (x : Except Fault α) : Prop :=
  ∀ f, x = .error f → f.kind.isReported = true

section

variable {α β : Type} {x : Except Fault α}

/-- A result is no fault. -/
theorem reports_ok (a : α) : Reports (.ok a) := fun _ h => by contradiction

/-- A fault that is reported is one. -/
theorem reports_error (h : f.kind.isReported = true) : Reports (.error f : Except Fault α) := by
  intro g hg
  rw [← Except.error.inj hg]
  exact h

/-- Steps that report their faults do so one after the other. -/
theorem Reports.bind {g : α → Except Fault β} (hx : Reports x) (hg : ∀ a, Reports (g a)) :
    Reports (x >>= g) := by
  intro f h
  rcases bind_eq_error_iff.mp h with h | ⟨a, -, h⟩
  · exact hx f h
  · exact hg a f h

/-- What becomes of a result does not matter. -/
theorem Reports.map {g : α → β} (hx : Reports x) : Reports (x.map g) :=
  fun f h => hx f (map_eq_error_iff.mp h)

end

/-! ### Integers -/

/-- A value that cannot be an integer, for a reason that is not reported. -/
inductive NoInteger : Value → Fault → Prop where
  | null : NoInteger .null .notNumber
  | other (o : Other) : NoInteger (.other o) .notNumber
  | list (items : List Value) : NoInteger (.list items) .notNumber
  | mapping (entries : Settings) : NoInteger (.mapping entries) .notNumber
  | infinite (negative : Bool) : NoInteger (.number (.real (.infinite negative))) .infiniteInteger

/-- Such a value is not reported. -/
theorem NoInteger.not_isReported (h : NoInteger v f) : f.kind.isReported = false := by
  cases h with
  | _ => rfl

/-- Such a value is no integer. -/
theorem NoInteger.integer_eq (h : NoInteger v f) : integer v = .error f := by
  cases h with
  | _ => rfl

/-- Nor is it what an integer is given as. -/
theorem NoInteger.ne_int (h : NoInteger v f) (n : Int) : v ≠ .int n := by
  rintro rfl
  cases h

/-- Whatever is wrong with a literal that is to be an integer is reported, if what is none is. -/
theorem reports_integerOfLiteral (literal : String) {otherwise : Fault}
    (h : otherwise.kind.isReported = true) : Reports (integerOfLiteral literal otherwise) := by
  unfold integerOfLiteral
  split
  · exact reports_ok _
  · exact reports_error h
  · exact reports_error rfl

/-- So is whatever is wrong with a text, -/
theorem reports_integerOfText (text : String) : Reports (integerOfText text) :=
  reports_integerOfLiteral text rfl

/-- and with a byte string. -/
theorem reports_integerOfBytes (bs : Bytes) : Reports (integerOfBytes bs) :=
  reports_integerOfLiteral _ rfl

/-- A value that is no integer is reported, or cannot be one at all. -/
theorem of_integer_error (h : integer v = .error f) :
    f.kind.isReported = true ∨ NoInteger v f := by
  cases v with
  | null =>
    obtain rfl := Except.error.inj h
    exact .inr .null
  | truth b => contradiction
  | number n =>
    cases n with
    | whole n => contradiction
    | real x =>
      cases x with
      | nan =>
        obtain rfl := Except.error.inj h
        exact .inl rfl
      | infinite negative =>
        obtain rfl := Except.error.inj h
        exact .inr (.infinite negative)
      | finite negative m q => contradiction
  | text s => exact .inl (reports_integerOfText s f h)
  | bytes bs => exact .inl (reports_integerOfBytes bs f h)
  | other o =>
    obtain rfl := Except.error.inj h
    exact .inr (.other o)
  | list items =>
    obtain rfl := Except.error.inj h
    exact .inr (.list items)
  | mapping entries =>
    obtain rfl := Except.error.inj h
    exact .inr (.mapping entries)

/-- Whatever is wrong with the text of an override is reported. -/
theorem Override.reports_valueOf (o : Override) (text : String) : Reports (o.valueOf text) := by
  unfold Override.valueOf
  split
  · exact (reports_integerOfText text).map
  · exact reports_ok _

/-! ### The settings of a run -/

/-- The settings that are to be integers. -/
def integerKeys : List String :=
  ["tail.poll_interval_ms", "tail.verbose_poll_interval_ms", "log.max_frame_size"]

/-- Each of them is built in as an integer. -/
theorem exists_get?_defaults (hkey : key ∈ integerKeys) :
    ∃ n, defaults.get? key = some (.int n) := by
  simp only [integerKeys, List.mem_cons, List.not_mem_nil, or_false] at hkey
  rcases hkey with rfl | rfl | rfl
  · exact ⟨500, rfl⟩
  · exact ⟨5000, rfl⟩
  · exact ⟨1049599, rfl⟩

/-- A setting that is to be an integer and is none is reported, or cannot be one at all. -/
theorem of_integer_getD_error {n : Int} (h : integer (s.getD key (.int n)) = .error f) :
    f.kind.isReported = true ∨ ∃ v, s.get? key = some v ∧ NoInteger v f := by
  unfold getD at h
  cases hget : s.get? key with
  | none =>
    rw [hget] at h
    contradiction
  | some v =>
    rw [hget] at h
    exact (of_integer_error h).imp_right fun hv => ⟨v, rfl, hv⟩

/-- A value that may not be written as a name is reported. -/
theorem reports_name (v : Value) : Reports (name v) := by
  unfold name
  split
  · exact reports_ok _
  · exact reports_error rfl

/-- What cannot be converted to settings of a run is reported, unless one of the settings cannot be
an integer at all. -/
theorem of_candidate_error (h : s.candidate = .error f) :
    f.kind.isReported = true ∨ ∃ key ∈ integerKeys, ∃ v, s.get? key = some v ∧ NoInteger v f := by
  unfold candidate at h
  simp only [bind_eq_error_iff] at h
  rcases h with h | ⟨pollMs, -, h | ⟨verbosePollMs, -, h | ⟨checksum, -, h | ⟨frameLimit, -, h⟩⟩⟩⟩
  · exact (of_integer_getD_error h).imp_right fun hv => ⟨_, by decide, hv⟩
  · exact (of_integer_getD_error h).imp_right fun hv => ⟨_, by decide, hv⟩
  · exact .inl (reports_name _ f h)
  · exact (of_integer_getD_error h).imp_right fun hv => ⟨_, by decide, hv⟩
  · contradiction

/-- What is converted to settings of a run has integers where integers are wanted. -/
theorem exists_integer_of_candidate {c : Candidate} (h : s.candidate = .ok c)
    (hkey : key ∈ integerKeys) (hget : s.get? key = some v) : ∃ n, integer v = .ok n := by
  have hgiven : ∀ default, s.getD key default = v := fun default => by simp [getD, hget]
  unfold candidate at h
  simp only [bind_eq_ok_iff] at h
  obtain ⟨pollMs, hpoll, verbosePollMs, hverbose, checksum, -, frameLimit, hlimit, -⟩ := h
  simp only [integerKeys, List.mem_cons, List.not_mem_nil, or_false] at hkey
  rcases hkey with rfl | rfl | rfl
  · rw [hgiven] at hpoll
    exact ⟨pollMs, hpoll⟩
  · rw [hgiven] at hverbose
    exact ⟨verbosePollMs, hverbose⟩
  · rw [hgiven] at hlimit
    exact ⟨frameLimit, hlimit⟩

/-- An integer that cannot be an interval is reported. -/
theorem reports_interval (field : String) (n : Int) : Reports (interval field (.int n)) := by
  rw [interval_int]
  split
  · exact reports_error rfl
  · exact reports_ok _

/-- An integer that cannot be a limit is reported. -/
theorem reports_limit (n : Int) : Reports (limit (.int n)) := by
  have hlimit : limit (.int n) = if (Number.whole n).isNonPositive
      then .error (.nonPositiveLimit (.int n)) else .ok n := rfl
  rw [hlimit]
  split
  · exact reports_error rfl
  · exact reports_ok _

/-- A text that names no checksum is reported. -/
theorem reports_algorithm (text : String) : Reports (algorithm .unknownChecksum (.text text)) := by
  simp only [algorithm]
  split
  · exact reports_ok _
  · exact reports_error rfl

/-- Settings of a run that are converted but do not pass the check are reported. -/
theorem reports_check {c : Candidate} (hc : s.candidate = .ok c) : Reports c.check := by
  -- What is converted are integers and a text.
  unfold candidate at hc
  simp only [bind_eq_ok_iff] at hc
  obtain ⟨pollMs, -, verbosePollMs, -, checksum, -, frameLimit, -, hc⟩ := hc
  obtain rfl := Except.ok.inj hc
  unfold Candidate.check
  refine (reports_interval _ _).bind fun _ => ?_
  refine (reports_interval _ _).bind fun _ => ?_
  refine (reports_limit _).bind fun _ => ?_
  exact (reports_algorithm _).bind fun _ => reports_ok _

end TxnLog.Settings
