import TxnLog.Proofs.Tailer.Run

/-!
# Cancelling a run at a line

A run that is cancelled once it has printed `k` lines is compared with the run in the same scene
that nobody cancels. The scenes differ in one number, which no wait changes, so as long as fewer
lines are printed the runs take the same steps (`Moment.Step.cancelAt`), come to the same moments
(`Reaches.cancelAt`) and end alike (`Moment.Ends.cancelAt`). The run that nobody cancels prints its
`k`-th line when it opens the file or in one of its steps (`Reaches.exists_crossing`).
-/

namespace TxnLog.Tailer

/-! ### Scenes that differ in when they cancel -/

namespace Scene

variable {s : Scene} {k : Nat}

/-- The scene in which a run is cancelled once `k` lines are printed. -/
def cancelAt (s : Scene) (k : Nat) : Scene := { s with cancelAfter := k }

/-- What happens in a wait is the same. -/
theorem foldl_cancelAt (acts : List Act) (s : Scene) (k : Nat) :
    acts.foldl perform (s.cancelAt k) = (acts.foldl perform s).cancelAt k := by
  induction acts generalizing s with
  | nil => rfl
  | cons a acts ih =>
    have hperform : (s.cancelAt k).perform a = (s.perform a).cancelAt k := by
      cases a <;> rfl
    rw [List.foldl_cons, List.foldl_cons, hperform, ih]

/-- What happens in a wait does not change when the run is cancelled. -/
theorem cancelAfter_foldl (acts : List Act) (s : Scene) :
    (acts.foldl perform s).cancelAfter = s.cancelAfter := by
  -- Cancelled where it is cancelled anyway, the scene is the same, so what becomes of it is.
  have hself : s.cancelAt s.cancelAfter = s := rfl
  have hfold := foldl_cancelAt acts s s.cancelAfter
  rw [hself] at hfold
  rw [hfold]
  rfl

/-- A wait that the script has an entry for. -/
theorem wait_of_script {acts : List Act} {script : List (List Act)} (h : s.script = acts :: script)
    (lines : Nat) :
    s.wait lines = ((acts.foldl perform { s with script }).cancels lines
      || acts.contains .interrupt, acts.foldl perform { s with script }) := by
  rw [wait, h]

/-- A wait does not change when the run is cancelled. -/
theorem cancelAfter_wait (s : Scene) (lines : Nat) :
    (s.wait lines).2.cancelAfter = s.cancelAfter := by
  cases hscript : s.script with
  | nil => rw [wait, hscript]
  | cons acts script =>
    rw [wait_of_script hscript]
    exact cancelAfter_foldl acts _

/-- A run is cancelled in addition where it has printed its `k` lines. -/
theorem cancels_cancelAt (hnever : s.cancelAfter = 0) (hk : 0 < k) (lines : Nat) :
    (s.cancelAt k).cancels lines = (s.cancels lines || decide (k ≤ lines)) := by
  have hbase : s.cancels lines = s.cancelled := by simp [cancels, hnever]
  have hne : (k != 0) = true := bne_iff_ne.mpr (by omega)
  show (s.cancelled || (k != 0 && decide (k ≤ lines))) = _
  rw [hbase, hne, Bool.true_and]

/-- A wait is interrupted in addition where the run has printed its `k` lines. -/
theorem wait_cancelAt (hnever : s.cancelAfter = 0) (hk : 0 < k) (lines : Nat) :
    (s.cancelAt k).wait lines
      = ((s.wait lines).1 || decide (k ≤ lines), (s.wait lines).2.cancelAt k) := by
  cases hscript : s.script with
  | nil =>
    have hscript' : (s.cancelAt k).script = [] := hscript
    rw [wait, wait, hscript, hscript']
    rfl
  | cons acts script =>
    have hscript' : (s.cancelAt k).script = acts :: script := hscript
    have hfold : acts.foldl perform { s.cancelAt k with script }
        = (acts.foldl perform { s with script }).cancelAt k :=
      foldl_cancelAt acts { s with script } k
    have hafter := (cancelAfter_foldl acts { s with script }).trans hnever
    rw [wait_of_script hscript, wait_of_script hscript', hfold, cancels_cancelAt hafter hk,
      Bool.or_right_comm]

end Scene

/-! ### Moments before the line -/

namespace Moment

variable {m m' : Moment} {d : Deed} {e : Entry} {last : List Deed} {k : Nat}

/-- The moment, in a run that is cancelled once `k` lines are printed. -/
def cancelAt (m : Moment) (k : Nat) : Moment := { m with scene := m.scene.cancelAt k }

/-- A sound moment is sound whenever the run is cancelled. -/
theorem Sound.cancelAt (h : m.Sound) (k : Nat) : (m.cancelAt k).Sound := ⟨h.ready, h.cursor⟩

/-- A step takes no line back. -/
theorem Step.size_lines_le (hstep : m.Step d m') (hsound : m.Sound) :
    m.tailer.lines.size ≤ m'.tailer.lines.size := by
  cases d with
  | emitted e =>
    obtain ⟨-, -, rfl⟩ := (step_emitted_iff hsound).mp hstep
    simp [Tailer.emitted]
  | waited =>
    obtain ⟨after, -, -, rfl⟩ := (step_waited_iff hsound).mp hstep
    simp only [woken, asleep]
    split <;> simp

/-- A step does not change when the run is cancelled. -/
theorem Step.cancelAfter_eq (hstep : m.Step d m') (hsound : m.Sound) :
    m'.scene.cancelAfter = m.scene.cancelAfter := by
  cases d with
  | emitted e =>
    obtain ⟨-, -, rfl⟩ := (step_emitted_iff hsound).mp hstep
    rfl
  | waited =>
    obtain ⟨after, -, hwait, rfl⟩ := (step_waited_iff hsound).mp hstep
    have hafter := Scene.cancelAfter_wait m.scene (m.tailer.asleep m.tailer.offset).lines.size
    rw [hwait] at hafter
    exact hafter

section

variable (hnever : m.scene.cancelAfter = 0) (hk : 0 < k)
include hnever hk

/-- Where fewer lines are printed, the run is not cancelled in addition. -/
theorem cancels_of_lt (hlines : m.tailer.lines.size < k) :
    (m.cancelAt k).scene.cancels m.tailer.lines.size = m.scene.cancels m.tailer.lines.size := by
  show (m.scene.cancelAt k).cancels _ = _
  rw [Scene.cancels_cancelAt hnever hk, decide_eq_false (by omega), Bool.or_false]

/-- Where the lines are printed, the run is cancelled. -/
theorem cancels_of_le (hlines : k ≤ m.tailer.lines.size) :
    (m.cancelAt k).scene.cancels (m.cancelAt k).tailer.lines.size = true := by
  show (m.scene.cancelAt k).cancels m.tailer.lines.size = true
  rw [Scene.cancels_cancelAt hnever hk, decide_eq_true hlines, Bool.or_true]

variable (hsound : m.Sound)
include hsound

/-- Where fewer lines are printed, the run falls asleep alike. -/
theorem FallsAsleep.cancelAt {t : Tailer} (hlines : m.tailer.lines.size < k)
    (hasleep : m.FallsAsleep t) : (m.cancelAt k).FallsAsleep t := by
  obtain ⟨hcancels, hlook, ht⟩ := (fallsAsleep_iff hsound).mp hasleep
  rw [← cancels_of_lt hnever hk hlines] at hcancels
  exact (fallsAsleep_iff (hsound.cancelAt k)).mpr ⟨hcancels, hlook, ht⟩

/-- An entry is emitted alike if fewer lines were printed before. -/
theorem Step.cancelAt_emitted (hlines : m.tailer.lines.size < k)
    (hstep : m.Step (.emitted e) m') : (m.cancelAt k).Step (.emitted e) (m'.cancelAt k) := by
  obtain ⟨hcancels, hlook, rfl⟩ := (step_emitted_iff hsound).mp hstep
  rw [← cancels_of_lt hnever hk hlines] at hcancels
  exact (step_emitted_iff (hsound.cancelAt k)).mpr ⟨hcancels, hlook, rfl⟩

/-- A step is taken alike if fewer lines are printed even then. -/
theorem Step.cancelAt (hlines : m'.tailer.lines.size < k) (hstep : m.Step d m') :
    (m.cancelAt k).Step d (m'.cancelAt k) := by
  have hbefore := Nat.lt_of_le_of_lt (hstep.size_lines_le hsound) hlines
  cases d with
  | emitted e => exact hstep.cancelAt_emitted hnever hk hsound hbefore
  | waited =>
    obtain ⟨after, hasleep, hwait, rfl⟩ := (step_waited_iff hsound).mp hstep
    refine (step_waited_iff (hsound.cancelAt k)).mpr
      ⟨after.cancelAt k, hasleep.cancelAt hnever hk hsound hbefore, ?_, rfl⟩
    show (m.scene.cancelAt k).wait (m.tailer.asleep m.tailer.offset).lines.size = _
    -- The line about the wait is printed before the wait asks.
    have hmore : decide (k ≤ (m.tailer.asleep m.tailer.offset).lines.size) = false :=
      decide_eq_false (Nat.not_le_of_lt hlines)
    rw [Scene.wait_cancelAt hnever hk, hwait, hmore]
    rfl

/-- The run ends alike if fewer lines were printed before. -/
theorem Ends.cancelAt {outcome : Except Error Nat} {t : Tailer} {final : Scene}
    (hlines : m.tailer.lines.size < k) (hends : m.Ends last (outcome, t, final)) :
    (m.cancelAt k).Ends last (outcome, t, final.cancelAt k) := by
  have hsame := cancels_of_lt hnever hk hlines
  cases hends with
  | finished hcancels hlook => exact .finished (hsame.trans hcancels) hlook
  | failed hcancels hlook => exact .failed (hsame.trans hcancels) hlook
  | cancelled hcancels => exact .cancelled (hsame.trans hcancels)
  | @interrupted t _ hasleep hwait =>
    refine .interrupted (hasleep.cancelAt hnever hk hsound hlines) ?_
    show (m.scene.cancelAt k).wait t.lines.size = _
    rw [Scene.wait_cancelAt hnever hk, hwait]
    rfl

end

end Moment

/-! ### Runs up to the line -/

section

variable {t : Tailer} {s : Scene} {deeds : List Deed} {m : Moment} {k : Nat}
  (hinit : t.phase = .init)
include hinit

/-- Nothing in a run changes when it is cancelled. -/
theorem Reaches.cancelAfter_eq (h : Reaches t s deeds m) :
    m.scene.cancelAfter = s.cancelAfter := by
  refine h.induct hinit (motive := fun _ m => m.scene.cancelAfter = s.cancelAfter) ?_ ?_
  · intro _ _
    rfl
  · intro deeds m d m' _ hsound hstep ih
    exact (hstep.cancelAfter_eq hsound).trans ih

/-- As long as fewer lines are printed, a run that is cancelled comes to the same moments. -/
theorem Reaches.cancelAt (hnever : s.cancelAfter = 0) (hk : 0 < k) (h : Reaches t s deeds m) :
    m.tailer.lines.size < k → Reaches t (s.cancelAt k) deeds (m.cancelAt k) := by
  refine h.induct hinit (motive := fun deeds m =>
    m.tailer.lines.size < k → Reaches t (s.cancelAt k) deeds (m.cancelAt k)) ?_ ?_
  · intro header hheader _
    exact (reaches_iff hinit).mpr ⟨header, hheader, .nil⟩
  · intro deeds m d m' hreach hsound hstep ih hlines
    have hbefore := Nat.lt_of_le_of_lt (hstep.size_lines_le hsound) hlines
    have hnever' := (hreach.cancelAfter_eq hinit).trans hnever
    exact (ih hbefore).snoc hinit (hstep.cancelAt hnever' hk hsound hlines)

/-- A run that has printed `k` lines printed the last of them when it opened its file, or in a
step. -/
theorem Reaches.exists_crossing (h : Reaches t s deeds m) : k ≤ m.tailer.lines.size →
    (∃ header, FileHeader.decode s.content = .ok header
      ∧ k ≤ (opening t s header).tailer.lines.size)
    ∨ ∃ done d rest m₁ m₂, deeds = done ++ [d] ++ rest ∧ Reaches t s done m₁
      ∧ m₁.tailer.lines.size < k ∧ m₁.Step d m₂ ∧ k ≤ m₂.tailer.lines.size := by
  refine h.induct hinit (motive := fun deeds m => k ≤ m.tailer.lines.size →
    (∃ header, FileHeader.decode s.content = .ok header
      ∧ k ≤ (opening t s header).tailer.lines.size)
    ∨ ∃ done d rest m₁ m₂, deeds = done ++ [d] ++ rest ∧ Reaches t s done m₁
      ∧ m₁.tailer.lines.size < k ∧ m₁.Step d m₂ ∧ k ≤ m₂.tailer.lines.size) ?_ ?_
  · intro header hheader hlines
    exact .inl ⟨header, hheader, hlines⟩
  · intro deeds m d m' hreach _ hstep ih hlines
    rcases Nat.lt_or_ge m.tailer.lines.size k with hlt | hge
    · exact .inr ⟨deeds, d, [], m, m', by simp, hreach, hlt, hstep, hlines⟩
    · obtain hopening | ⟨done, d', rest, m₁, m₂, rfl, hcrossing⟩ := ih hge
      · exact .inl hopening
      · exact .inr ⟨done, d', rest ++ [d], m₁, m₂, by simp, hcrossing⟩

end

end TxnLog.Tailer
