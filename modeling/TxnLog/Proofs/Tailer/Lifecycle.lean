import TxnLog.Proofs.Tailer.Following

/-!
# The life of a tailer

A tailer may be run any number of times, and the file may come, change and go between its runs. As
long as there is no file it stays as it is. The first run on a file makes only moves that are
allowed, and leaves the tailer done, cancelled or failed, as the outcome says (`run_settled`): every
ending of a run does (`Moment.Ends.settled`). From then on no run changes anything
(`run_of_terminal`), so the lists of runs fall into those before the first file and the others
(`afterRuns_cases`).
-/

namespace TxnLog.Tailer

/-- The tailer after runs in some scenes, one after the other. -/
def afterRuns (t : Tailer) (scenes : List Scene) : Tailer :=
  scenes.foldl (fun t s => (run t s).2.1) t

/-- The tailer is over, in the way that the outcome of its run says. -/
structure Settled (outcome : Except Error Nat) (t : Tailer) : Prop where
  /-- Every move that the run made was allowed. -/
  allowed : ∀ source target, outcome ≠ .error (.invalidMove source target)
  /-- The tailer is in one of the three phases in which a run is over. -/
  terminal : t.phase.isTerminal = true
  /-- It is done if the run returned. -/
  done : t.phase = .done ↔ ∃ records, outcome = .ok records
  /-- It is cancelled if the run was interrupted. -/
  cancelled : t.phase = .cancelled ↔ ∃ records, outcome = .error (.interrupted records)
  /-- It has failed if something in the log was refused. -/
  fatal : t.phase = .fatal ↔ ∃ e, outcome = .error e ∧ e.isFatal = true
  /-- The number that is returned, or told with an interruption, is the tailer's. -/
  records : ∀ records, outcome = .ok records ∨ outcome = .error (.interrupted records) →
    t.records = records

/-- A run that returned leaves the tailer done. -/
theorem Settled.of_done {t : Tailer} {records : Nat} (hphase : t.phase = .done)
    (hrecords : t.records = records) : Settled (.ok records) t where
  allowed := by simp
  terminal := by rw [hphase]; rfl
  done := by simp [hphase]
  cancelled := by simp [hphase]
  fatal := by simp [hphase]
  records := by simp [hrecords]

/-- A run that was interrupted leaves the tailer cancelled. -/
theorem Settled.of_cancelled {t : Tailer} {records : Nat} (hphase : t.phase = .cancelled)
    (hrecords : t.records = records) : Settled (.error (.interrupted records)) t where
  allowed := by simp
  terminal := by rw [hphase]; rfl
  done := by simp [hphase]
  cancelled := by simp [hphase]
  fatal := by simp [hphase, Error.isFatal]
  records := by simp [hrecords]

/-- A run that was refused something leaves the tailer failed. -/
theorem Settled.of_fatal {t : Tailer} {e : Error} (hphase : t.phase = .fatal)
    (hfatal : e.isFatal = true) : Settled (.error e) t := by
  -- Neither an interruption nor a move that is not allowed is fatal.
  have hinterrupted : ∀ records, e ≠ .interrupted records := by
    rintro records rfl
    contradiction
  have hmove : ∀ source target, e ≠ .invalidMove source target := by
    rintro source target rfl
    contradiction
  exact {
    allowed := by simp [hmove]
    terminal := by rw [hphase]; rfl
    done := by simp [hphase]
    cancelled := by simp [hphase, hinterrupted]
    fatal := by simp [hphase, hfatal]
    records := by simp [hinterrupted] }

/-- Every ending of a run settles its tailer. -/
theorem Moment.Ends.settled {m : Moment} {last : List Deed}
    {r : Except Error Nat × Tailer × Scene} (hends : m.Ends last r) : Settled r.1 r.2.1 := by
  cases hends with
  | finished _ _ => exact Settled.of_done rfl rfl
  | failed _ hlook => exact Settled.of_fatal rfl (isFatal_of_look hlook)
  | cancelled _ => exact Settled.of_cancelled rfl rfl
  | interrupted _ _ => exact Settled.of_cancelled rfl rfl

/-- A run on a file settles a tailer that was not run on a file before. -/
theorem run_settled {t : Tailer} (hinit : t.phase = .init) {s : Scene}
    (hpresent : s.present = true) : Settled (run t s).1 (run t s).2.1 := by
  cases hheader : FileHeader.decode s.content with
  | error e =>
    rw [run_of_header_error hinit hpresent hheader]
    exact Settled.of_fatal rfl rfl
  | ok header =>
    obtain ⟨deeds, m, last, -, hends⟩ := exists_reaches_ends hinit hpresent hheader
    exact hends.settled

/-- A run without a file does nothing. -/
theorem run_of_absent (t : Tailer) {s : Scene} (h : s.present = false) :
    run t s = (.error .noSuchFile, t, s) := by
  unfold run
  rw [h]
  rfl

/-- No phase in which a run is over allows another start. -/
theorem canMoveTo_of_terminal {p : Phase} (h : p.isTerminal = true) :
    p.canMoveTo .headerRead = false := by
  cases p with
  | done | cancelled | fatal => rfl
  | _ => contradiction

/-- A run of a tailer that is over is refused, and does nothing. -/
theorem run_of_terminal {t : Tailer} (h : t.phase.isTerminal = true) {s : Scene}
    (hpresent : s.present = true) :
    run t s = (.error (.invalidMove t.phase .headerRead), t, s) := by
  have hstart : start s.content t = (.error (.invalidMove t.phase .headerRead), t) := by
    simp only [start, Attempt.bind_apply, enter, canMoveTo_of_terminal h, Bool.false_eq_true,
      if_false]
  unfold run
  rw [hstart, hpresent]
  rfl

/-- No runs change a tailer that is over. -/
theorem afterRuns_of_terminal {t : Tailer} (h : t.phase.isTerminal = true)
    (scenes : List Scene) : t.afterRuns scenes = t := by
  induction scenes with
  | nil => rfl
  | cons s scenes ih =>
    have hrun : (run t s).2.1 = t := by
      cases hpresent : s.present with
      | false => rw [run_of_absent t hpresent]
      | true => rw [run_of_terminal h hpresent]
    unfold afterRuns at ih ⊢
    rw [List.foldl_cons, hrun, ih]

/-- After some runs a tailer is over, if any of them was on a file, and otherwise it is as it was
at first. -/
theorem afterRuns_cases {t : Tailer} (hinit : t.phase = .init) (scenes : List Scene) :
    (∀ s ∈ scenes, s.present = false) ∧ t.afterRuns scenes = t
      ∨ (∃ s ∈ scenes, s.present = true) ∧ (t.afterRuns scenes).phase.isTerminal = true := by
  induction scenes with
  | nil => exact .inl ⟨by simp, rfl⟩
  | cons s scenes ih =>
    have hcons : t.afterRuns (s :: scenes) = (run t s).2.1.afterRuns scenes := rfl
    rw [hcons]
    cases hpresent : s.present with
    | false =>
      rw [run_of_absent t hpresent]
      simpa [hpresent] using ih
    | true =>
      -- Whatever the outcome is, the runs behind this one change nothing.
      have hover := (run_settled hinit hpresent).terminal
      rw [afterRuns_of_terminal hover]
      exact .inr ⟨⟨s, List.mem_cons_self, hpresent⟩, hover⟩

/-- However often a tailer is run: as long as there is no file, a run says so and the tailer is as
it was at first. The first run on a file makes only allowed moves and leaves it done if and only if
it returns, cancelled if and only if it is interrupted, and failed if and only if something in the
log is refused; nothing else can happen. Every run after that is refused and changes nothing. -/
theorem runs_lifecycle {t : Tailer} (hinit : t.phase = .init) (scenes : List Scene) (s : Scene) :
    ((∀ s' ∈ scenes, s'.present = false) →
      t.afterRuns scenes = t
        ∧ (s.present = false → run t s = (.error .noSuchFile, t, s))
        ∧ (s.present = true → Settled (run t s).1 (run t s).2.1))
    ∧ ((∃ s' ∈ scenes, s'.present = true) →
      (t.afterRuns scenes).phase.isTerminal = true
        ∧ run (t.afterRuns scenes) s
          = (.error (if s.present then .invalidMove (t.afterRuns scenes).phase .headerRead
              else .noSuchFile), t.afterRuns scenes, s)) := by
  obtain ⟨habsent, hsame⟩ | ⟨⟨s', hmem, hpresent⟩, hover⟩ := afterRuns_cases hinit scenes
  · refine ⟨fun _ => ⟨hsame, run_of_absent t, run_settled hinit⟩, ?_⟩
    rintro ⟨s', hmem, hpresent⟩
    rw [habsent s' hmem] at hpresent
    contradiction
  · refine ⟨fun habsent => ?_, fun _ => ⟨hover, ?_⟩⟩
    · rw [habsent s' hmem] at hpresent
      contradiction
    · cases hpresent : s.present with
      | false => exact run_of_absent _ hpresent
      | true => exact run_of_terminal hover hpresent

/-- A tailer is run without a file, on the growing file, and then twice more. -/
theorem runs_lifecycle_growing :
    (afterRuns { options := .plain } [{ present := false }, .growing]).phase = .done
      ∧ Settled (run { options := .plain } .growing).1 (run { options := .plain } .growing).2.1
      ∧ run (afterRuns { options := .plain } [{ present := false }, .growing]) .growing
        = (.error (.invalidMove .done .headerRead),
          afterRuns { options := .plain } [{ present := false }, .growing], .growing)
      ∧ run (afterRuns { options := .plain } [{ present := false }, .growing]) { present := false }
        = (.error .noSuchFile,
          afterRuns { options := .plain } [{ present := false }, .growing],
          { present := false }) := by
  obtain ⟨t, hrun, hdone, -⟩ := run_growing
  have hafter : afterRuns { options := .plain } [{ present := false }, .growing] = t := by
    show (run (run { options := .plain } { present := false }).2.1 .growing).2.1 = t
    rw [run_of_absent { options := .plain } (s := { present := false }) rfl, hrun]
  have hfirst := (runs_lifecycle (t := { options := .plain }) rfl [{ present := false }]
    .growing).1 (by simp)
  have hsecond := (runs_lifecycle (t := { options := .plain }) rfl [{ present := false }, .growing]
    .growing).2 ⟨.growing, by simp, rfl⟩
  have hthird := (runs_lifecycle (t := { options := .plain }) rfl [{ present := false }, .growing]
    { present := false }).2 ⟨.growing, by simp, rfl⟩
  have hphase : (afterRuns { options := .plain } [{ present := false }, .growing]).phase
      = .done := by
    rw [hafter, hdone]
  rw [hphase] at hsecond
  exact ⟨hphase, hfirst.2.2 rfl, hsecond.2, hthird.2⟩

end TxnLog.Tailer
