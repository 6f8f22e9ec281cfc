import TxnLog.CommandLine.Program
import TxnLog.Proofs.Settings.Interval
import TxnLog.Proofs.Tailer.Displayed
import TxnLog.Proofs.Tailer.Waits

/-!
# Waits that are refused

All waits of a run are equally long (`timeout_of_mem_waits`), so a waiter refuses the first of them
or none. It refuses that one only if it is too long, and then it does, unless the run is cancelled
by then; a cancelled run ends in its first wait. `World.RefusesOnlyLong` says so of the runs of a
session.
-/

namespace TxnLog

namespace Tailer

/-! ### The first wait of a fresh tailer -/

/-- A run that is cancelled stays so, whatever happens. -/
theorem Scene.cancels_foldl {s : Scene} {lines : Nat} (h : s.cancels lines = true)
    (acts : List Act) : (acts.foldl perform s).cancels lines = true := by
  induction acts generalizing s with
  | nil => exact h
  | cons a acts ih =>
    refine ih ?_
    cases a with
    | edit | interrupt => exact h
    | cancel | signal => rfl

/-- A wait of a run that is cancelled is interrupted. -/
theorem Scene.exists_wait_of_cancels {s : Scene} {lines : Nat} (h : s.cancels lines = true) :
    ∃ after, s.wait lines = (true, after) := by
  unfold wait
  split
  · exact ⟨_, rfl⟩
  · next acts script _ =>
    have hscript : Scene.cancels { s with script } lines = true := h
    dsimp only
    rw [cancels_foldl hscript acts, Bool.true_or]
    exact ⟨_, rfl⟩

variable {o : Options} {scene : Scene} (hpresent : scene.present = true)
include hpresent

/-- In a run of a fresh tailer every wait is as long as its options say. -/
theorem timeout_of_mem_waits {w : Wait} (hw : w ∈ (run { options := o } scene).2.1.waits) :
    w.timeout = o.timeout := by
  cases hheader : FileHeader.decode scene.content with
  | error e =>
    -- Without a header there is no wait.
    rw [run_of_header_error rfl hpresent hheader] at hw
    simp at hw
  | ok header =>
    obtain ⟨deeds, m, last, hreach, hends⟩ :=
      exists_reaches_ends (t := { options := o }) rfl hpresent hheader
    exact (hends.concluded (hreach.sound rfl) (hreach.tally hheader)).tally.timeout_of_mem hw

/-- A run that comes to no first wait comes to none. -/
theorem waits_eq_empty (h : firstAsleep? { options := o } scene = none) :
    (run { options := o } scene).2.1.waits = #[] := by
  cases hheader : FileHeader.decode scene.content with
  | error e => rw [run_of_header_error rfl hpresent hheader]
  | ok header =>
    obtain ⟨deeds, m, hreach, -, hwaits, ⟨asleep, -, hfirst⟩ | ⟨hends, -⟩⟩ :=
      exists_first_pause (t := { options := o }) rfl hpresent hheader
    · rw [h] at hfirst
      contradiction
    · generalize run { options := o } scene = r at hends
      cases hends with
      | _ => exact hwaits

/-- A run that comes to a first wait has a wait, as long as the options say. If it is cancelled when
it enters that wait, it ends there. -/
theorem waits_of_firstAsleep? {asleep : Tailer}
    (h : firstAsleep? { options := o } scene = some asleep) :
    asleep.timeout = o.timeout ∧ (run { options := o } scene).2.1.waits ≠ #[]
      ∧ (scene.cancels asleep.lines.size = true →
        (run { options := o } scene).2.1.phase = .cancelled
          ∧ (run { options := o } scene).2.1.waits.size = 1) := by
  cases hheader : FileHeader.decode scene.content with
  | error e =>
    rw [firstAsleep?_of_header_error rfl hheader] at h
    contradiction
  | ok header =>
    obtain ⟨deeds, m, hreach, hscene, hwaits, ⟨t, hasleep, hfirst⟩ | ⟨-, hfirst⟩⟩ :=
      exists_first_pause (t := { options := o }) rfl hpresent hheader
    · obtain rfl := Option.some.inj (h.symm.trans hfirst)
      have hsound := hreach.sound rfl
      obtain ⟨-, hpushed, htally⟩ := hasleep.tally hsound (hreach.tally hheader)
      refine ⟨htally.timeout_eq, ?_, ?_⟩
      · intro hempty
        have hprefix := hreach.waits_prefix_of_fallsAsleep rfl hpresent hasleep
        rw [hpushed, hempty] at hprefix
        simp at hprefix
      · intro hcancels
        rw [← hscene] at hcancels
        obtain ⟨after, hwait⟩ := Scene.exists_wait_of_cancels hcancels
        rw [hreach.run_of_ends rfl hpresent (.interrupted hasleep hwait)]
        refine ⟨rfl, ?_⟩
        show asleep.waits.size = 1
        rw [hpushed, Array.size_push, hwaits]
        rfl
    · rw [h] at hfirst
      contradiction

end Tailer

namespace CommandLine

open Tailer (Waiter)

/-! ### The waits of a session -/

/-- A run on a log is in a scene in which the log is there, with its content. -/
theorem World.scene_eq (w : World) (content : Bytes) :
    (w.scene content).present = true ∧ (w.scene content).content = content := by
  unfold scene
  cases w.arrival with
  | none => exact ⟨rfl, rfl⟩
  | some a => exact ⟨rfl, rfl⟩

/-- The settings of the run of a session are those that its settings come to. -/
theorem Session.tailing_eq {options : Options} {env : Settings.Environment}
    {readSettings : String → Except Settings.Fault Value} {s : Session}
    (h : ofOptions options env readSettings = .ok s) : s.settings.tailing = .ok s.tailing := by
  unfold ofOptions at h
  simp only [bind_eq_ok_iff] at h
  obtain ⟨_, -, _, -, _, -, tailing, htailing, _, -, h⟩ := h
  obtain rfl := Except.ok.inj h
  exact htailing

/-- The tailer of a session is one that has done nothing yet, and waits for a finite number of
seconds. -/
theorem Session.fresh_of_tailer {options : Options} {env : Settings.Environment}
    {readSettings : String → Except Settings.Fault Value} {s : Session} {t : Tailer}
    (hsession : ofOptions options env readSettings = .ok s) (h : s.tailer = .ok t) :
    ∃ o m q, t = { options := o } ∧ o.timeout = .finite false m q := by
  obtain ⟨ms, verboseMs, hms, hverboseMs⟩ :=
    Settings.exists_intervals_of_tailing (tailing_eq hsession)
  unfold tailer Settings.Tailing.tailer at h
  rw [hms, hverboseMs] at h
  simp only [bind_eq_ok_iff] at h
  obtain ⟨interval, hinterval, verboseInterval, hverbose, h⟩ := h
  obtain ⟨m, q, rfl⟩ := Settings.exists_finite_of_seconds hinterval
  obtain ⟨m', q', rfl⟩ := Settings.exists_finite_of_seconds hverbose
  -- Which of the two intervals counts is for the options to say.
  obtain ⟨k, e, htimeout⟩ : ∃ k e, (if s.options.verbose then Binary64.finite false m' q'
      else .finite false m q) = .finite false k e := by
    split
    · exact ⟨m', q', rfl⟩
    · exact ⟨m, q, rfl⟩
  exact ⟨_, k, e, (Except.ok.inj h).symm, htimeout⟩

/-- The waiter of the program sleeps through every wait of a run on a log with this content, but
not through one that is too long. -/
structure World.RefusesOnlyLong (w : World) (t : Tailer) (content : Bytes) : Prop where
  /-- What is refused is too long, and the run has such a wait. -/
  refused : ∀ f asleep, w.refusal? t content = some (f, asleep) →
    f = .tooLong ∧ ∃ wait ∈ (t.run (w.scene content)).2.1.waits,
      Waiter.isTooLong (.real wait.timeout) = true
  /-- If the waiter refuses nothing and a wait of the run is too long, then the run is cancelled and
  has no other wait. -/
  slept : w.hasWaiter = true → w.refusal? t content = none →
    (∃ wait ∈ (t.run (w.scene content)).2.1.waits,
      Waiter.isTooLong (.real wait.timeout) = true) →
    (t.run (w.scene content)).2.1.phase = .cancelled
      ∧ (t.run (w.scene content)).2.1.waits.size = 1
  /-- The waiter sleeps through every wait that it can count in nanoseconds. -/
  fits : ∀ wait ∈ (t.run (w.scene content)).2.1.waits,
    Waiter.isTooLong (.real wait.timeout) = false →
      Waiter.wait {} (.number (.real wait.timeout)) = .ok false

section

variable {w : World} {o : Tailer.Options} {content : Bytes} {m : Nat} {q : Int}
  (htimeout : o.timeout = .finite false m q)
include htimeout

/-- A run is refused its first wait if and only if that wait is too long and the run is not
cancelled by then. -/
theorem World.refusal?_eq_some_iff {f : Waiter.Fault} {asleep : Tailer} :
    w.refusal? { options := o } content = some (f, asleep)
      ↔ w.hasWaiter = true
        ∧ Tailer.firstAsleep? { options := o } (w.scene content) = some asleep
        ∧ (w.scene content).cancels asleep.lines.size = false
        ∧ Waiter.isTooLong (.real o.timeout) = true ∧ f = .tooLong := by
  obtain ⟨hpresent, -⟩ := w.scene_eq content
  unfold refusal?
  cases w.hasWaiter with
  | false => simp
  | true =>
    cases hfirst : Tailer.firstAsleep? { options := o } (w.scene content) with
    | none => simp
    | some t =>
      obtain ⟨htimeout', -, -⟩ := Tailer.waits_of_firstAsleep? hpresent hfirst
      simp only [if_true, Option.bind_some, htimeout', htimeout, Waiter.wait_finite]
      cases hcancels : (w.scene content).cancels t.lines.size with
      -- A waiter that is cancelled does not look at the length.
      | true =>
        constructor
        · intro h
          contradiction
        · rintro ⟨-, heq, hnot, -⟩
          obtain rfl := Option.some.inj heq
          rw [hcancels] at hnot
          contradiction
      | false =>
        cases Waiter.isTooLong (.real (.finite false m q)) with
        | true =>
          constructor
          · intro h
            obtain ⟨rfl, rfl⟩ := Prod.mk.inj (Option.some.inj h)
            exact ⟨trivial, rfl, hcancels, rfl, rfl⟩
          · rintro ⟨-, heq, -, -, rfl⟩
            obtain rfl := Option.some.inj heq
            rfl
        | false => simp

/-- The waiter refuses no wait of such a run but those that are too long. -/
theorem World.refusesOnlyLong (w : World) (content : Bytes) :
    w.RefusesOnlyLong { options := o } content := by
  obtain ⟨hpresent, -⟩ := w.scene_eq content
  constructor
  · intro f asleep hrefused
    obtain ⟨-, hfirst, -, hlong, rfl⟩ := (refusal?_eq_some_iff htimeout).mp hrefused
    obtain ⟨-, hwaits, -⟩ := Tailer.waits_of_firstAsleep? hpresent hfirst
    obtain ⟨wait, hwait⟩ := Array.exists_mem_of_ne_empty _ hwaits
    refine ⟨rfl, wait, hwait, ?_⟩
    rw [Tailer.timeout_of_mem_waits hpresent hwait]
    exact hlong
  · rintro hwaiter hnone ⟨wait, hwait, hlong⟩
    rw [Tailer.timeout_of_mem_waits hpresent hwait] at hlong
    cases hfirst : Tailer.firstAsleep? { options := o } (w.scene content) with
    | none =>
      rw [Tailer.waits_eq_empty hpresent hfirst] at hwait
      simp at hwait
    | some asleep =>
      obtain ⟨-, -, hends⟩ := Tailer.waits_of_firstAsleep? hpresent hfirst
      refine hends ?_
      -- A run that is not cancelled by then would have been refused the wait.
      by_contra hcancels
      have hrefused := (refusal?_eq_some_iff htimeout).mpr
        ⟨hwaiter, hfirst, Bool.eq_false_iff.mpr hcancels, hlong, rfl⟩
      rw [hnone] at hrefused
      contradiction
  · intro wait hwait hfits
    rw [Tailer.timeout_of_mem_waits hpresent hwait, htimeout] at hfits ⊢
    simp [Waiter.wait_finite, hfits]

end

end CommandLine

end TxnLog
