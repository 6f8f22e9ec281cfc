import TxnLog.Proofs.Tailer.Run

/-!
# The waits of a run

What happens during a wait does not depend on the run, so the scene of a run is known from the
number of its waits: it is the first scene with that many entries of its script performed
(`Reaches.scene_eq`). A wait that is recorded stays recorded (`Reaches.waits_prefix`), so what is
known of all the waits of a run is known of those up to a moment. The first wait is known before
anything happens (`exists_first_pause`): turns that emit entries lead to it, or to the end of a run
that comes to no wait.
-/

namespace TxnLog.Tailer

/-- The scene after a wait. -/
def Scene.waited (s : Scene) : Scene := (s.wait 0).2

/-- The scene after `n` waits. -/
def Scene.afterWaits (s : Scene) : (n : Nat) → Scene
  | 0 => s
  | n + 1 => (s.afterWaits n).waited

/-- Every one of the waits leaves the bytes before its offset as they are. -/
def Scene.Keeps (s : Scene) (waits : Array Wait) : Prop :=
  ∀ n w, waits[n]? = some w →
    (s.afterWaits (n + 1)).content.take w.offset = (s.afterWaits n).content.take w.offset

/-- What happens during a wait does not depend on the number of printed lines. -/
theorem Scene.waited_of_wait {s after : Scene} {lines : Nat} {stopped : Bool}
    (h : s.wait lines = (stopped, after)) : after = s.waited := by
  have hafter : after = (s.wait lines).2 := by rw [h]
  rw [hafter, waited, wait, wait]
  split <;> rfl

namespace Moment

variable {m m' : Moment} {deeds : List Deed} {d : Deed}

/-- If the scene is the one after the recorded waits, it is so after a step. -/
theorem Step.scene_eq (hstep : m.Step d m') (hsound : m.Sound) {s : Scene}
    (h : m.scene = s.afterWaits m.tailer.waits.size) :
    m'.scene = s.afterWaits m'.tailer.waits.size := by
  cases d with
  | emitted e =>
    obtain ⟨-, -, rfl⟩ := (step_emitted_iff hsound).mp hstep
    exact h
  | waited =>
    obtain ⟨after, -, hwait, rfl⟩ := (step_waited_iff hsound).mp hstep
    have hsize : (m.tailer.asleep m.tailer.offset).waits.size = m.tailer.waits.size + 1 :=
      Array.size_push ..
    show after = s.afterWaits (m.tailer.asleep m.tailer.offset).waits.size
    rw [Scene.waited_of_wait hwait, h, hsize, Scene.afterWaits]

/-- A step leaves the recorded waits. -/
theorem Step.waits_prefix (hstep : m.Step d m') (hsound : m.Sound) :
    m.tailer.waits.toList <+: m'.tailer.waits.toList := by
  cases d with
  | emitted e =>
    obtain ⟨-, -, rfl⟩ := (step_emitted_iff hsound).mp hstep
    exact List.prefix_refl _
  | waited =>
    obtain ⟨after, -, -, rfl⟩ := (step_waited_iff hsound).mp hstep
    simp [woken, asleep]

/-- The recorded waits stay all along a path. -/
theorem Path.waits_prefix (hpath : m.Path deeds m') (hsound : m.Sound) :
    m.tailer.waits.toList <+: m'.tailer.waits.toList := by
  induction hpath with
  | nil => exact List.prefix_refl _
  | snoc hpath hstep ih => exact ih.trans (hstep.waits_prefix (hpath.sound hsound))

/-- The recorded waits stay where a run ends. -/
theorem Ends.waits_prefix {last : List Deed} {r : Except Error Nat × Tailer × Scene}
    (hends : m.Ends last r) (hsound : m.Sound) : m.tailer.waits.toList <+: r.2.1.waits.toList := by
  cases hends with
  | finished | failed | cancelled => exact List.prefix_refl _
  | interrupted hasleep _ =>
    obtain rfl := ((fallsAsleep_iff hsound).mp hasleep).2.2
    simp [gaveUp, asleep]

end Moment

section

variable {t : Tailer} {s : Scene} {deeds : List Deed} {m : Moment} (hinit : t.phase = .init)
include hinit

/-- The scene of a run is the first one after the waits so far. -/
theorem Reaches.scene_eq (h : Reaches t s deeds m) (hwaits : t.waits = #[]) :
    m.scene = s.afterWaits m.tailer.waits.size := by
  refine h.induct hinit (motive := fun _ m => m.scene = s.afterWaits m.tailer.waits.size) ?_ ?_
  · intro header _
    show s = s.afterWaits t.waits.size
    rw [hwaits]
    rfl
  · intro deeds m d m' _ hsound hstep ih
    exact hstep.scene_eq hsound ih

/-- The waits up to a moment of a run are the first ones of the run. -/
theorem Reaches.waits_prefix (hpresent : s.present = true) (h : Reaches t s deeds m) :
    m.tailer.waits.toList <+: (run t s).2.1.waits.toList := by
  have hsound := h.sound hinit
  obtain ⟨deeds', m', last, hpath, hends⟩ := h.exists_ends hinit hpresent
  exact (hpath.waits_prefix hsound).trans (hends.waits_prefix (hpath.sound hsound))

/-- So are those recorded by a tailer that has just fallen asleep. -/
theorem Reaches.waits_prefix_of_fallsAsleep (hpresent : s.present = true)
    (h : Reaches t s deeds m) {asleep : Tailer} (hasleep : m.FallsAsleep asleep) :
    asleep.waits.toList <+: (run t s).2.1.waits.toList := by
  have hsound := h.sound hinit
  cases hwait : m.scene.wait asleep.lines.size with
  | mk stopped after =>
    cases stopped with
    | true =>
      rw [h.run_of_ends hinit hpresent (.interrupted hasleep hwait)]
      exact List.prefix_refl _
    | false =>
      obtain rfl := ((Moment.fallsAsleep_iff hsound).mp hasleep).2.2
      have hstep := (Moment.step_waited_iff hsound).mpr ⟨after, hasleep, hwait, rfl⟩
      have hreach' := h.snoc hinit hstep
      exact hreach'.waits_prefix hinit hpresent

/-- If every wait of a run leaves the bytes before its offset, so does a step that waits. -/
theorem Reaches.take_of_waited (hpresent : s.present = true) (hwaits : t.waits = #[])
    (h : Reaches t s deeds m) (hkeeps : s.Keeps (run t s).2.1.waits) {m' : Moment}
    (hstep : m.Step .waited m') :
    m'.scene.content.take m.tailer.offset = m.scene.content.take m.tailer.offset := by
  have hsound := h.sound hinit
  have hreach' := h.snoc hinit hstep
  have hscene' := hreach'.scene_eq hinit hwaits
  have hrecorded := hreach'.waits_prefix hinit hpresent
  obtain ⟨after, -, -, rfl⟩ := (Moment.step_waited_iff hsound).mp hstep
  have hpushed : (m.tailer.asleep m.tailer.offset).woken.waits
      = m.tailer.waits.push ⟨m.tailer.timeout, .sleep, m.tailer.offset, m.tailer.records⟩ := rfl
  rw [hpushed, Array.size_push] at hscene'
  rw [hpushed, Array.toList_push] at hrecorded
  obtain ⟨more, hmore⟩ := hrecorded
  rw [hscene', h.scene_eq hinit hwaits]
  refine hkeeps m.tailer.waits.size
    ⟨m.tailer.timeout, .sleep, m.tailer.offset, m.tailer.records⟩ ?_
  rw [← Array.getElem?_toList, ← hmore]
  simp

end

/-! ### The first wait -/

namespace Moment

variable {m m' : Moment}

/-- The tailer as it enters the next wait of the run, if its turns come to one. -/
def nextAsleep? (m : Moment) : Option Tailer := m.tailer.nextAsleep? m.scene.cancels m.cursor

/-- The next wait is the same one after a turn that emits an entry. -/
theorem Step.nextAsleep?_eq {e : Entry} (hstep : m.Step (.emitted e) m') :
    m.nextAsleep? = m'.nextAsleep? := by
  cases hstep with
  | emitted _ hturn =>
    rw [nextAsleep?, nextAsleep?, Tailer.nextAsleep?, Tailer.nextAsleep?, scan, hturn]

/-- The next wait is the one that is entered. -/
theorem FallsAsleep.nextAsleep?_eq {t : Tailer} (h : m.FallsAsleep t) :
    m.nextAsleep? = some t := by
  rw [nextAsleep?, Tailer.nextAsleep?, scan, h]

/-- There is no next wait where the run ends in a turn. -/
theorem Ends.nextAsleep?_eq {r : Except Error Nat × Tailer × Scene} (hends : m.Ends [] r)
    (hsound : m.Sound) : m.nextAsleep? = none := by
  rw [nextAsleep?, Tailer.nextAsleep?, scan]
  have hturn := turn_eq hsound.ready m.scene.cancels m.cursor
  cases hends with
  | finished hcancels hlook =>
    rw [hcancels, if_neg Bool.false_ne_true, hlook] at hturn
    rw [hturn]
  | failed hcancels hlook =>
    rw [hcancels, if_neg Bool.false_ne_true, hlook] at hturn
    rw [hturn]
  | cancelled hcancels =>
    rw [if_pos hcancels] at hturn
    rw [hturn]

/-- A run ends in a turn, or in a wait that it enters. -/
theorem Ends.eq_nil_or_fallsAsleep {last : List Deed} {r : Except Error Nat × Tailer × Scene}
    (hends : m.Ends last r) : last = [] ∨ ∃ t, m.FallsAsleep t := by
  cases hends with
  | finished | failed | cancelled => exact .inl rfl
  | interrupted hasleep _ => exact .inr ⟨_, hasleep⟩

/-- From the moment `m` on a run pauses at `p` for the first time. -/
structure Pauses (m p : Moment) : Prop where
  /-- Nothing has happened around the run. -/
  scene : p.scene = m.scene
  /-- No wait has been entered. -/
  waits : p.tailer.waits = m.tailer.waits
  /-- The next wait is still the same. -/
  next : p.nextAsleep? = m.nextAsleep?
  /-- The run enters a wait, or ends. -/
  pauses : (∃ t, p.FallsAsleep t) ∨ p.Ends [] (conclude m.follow)

/-- From every sound moment on a run comes to a pause. -/
theorem Sound.exists_pauses {m : Moment} (h : m.Sound) :
    ∃ deeds p, m.Path deeds p ∧ m.Pauses p := by
  rcases h.ends_or_steps with ⟨last, hends⟩ | ⟨d, m₁, hstep⟩
  · refine ⟨[], m, .nil, rfl, rfl, rfl, ?_⟩
    obtain rfl | hasleep := hends.eq_nil_or_fallsAsleep
    · exact .inr hends
    · exact .inl hasleep
  cases d with
  | waited =>
    obtain ⟨s, hasleep, -, -⟩ := (step_waited_iff h).mp hstep
    exact ⟨[], m, .nil, rfl, rfl, rfl, .inl ⟨_, hasleep⟩⟩
  | emitted e =>
    -- The entry uses up bytes, and nothing else changes for the pauses to come.
    have hless := hstep.decreases h
    obtain ⟨-, -, hm₁⟩ := (step_emitted_iff h).mp hstep
    have hscene : m₁.scene = m.scene := by rw [hm₁]
    have hwaits : m₁.tailer.waits = m.tailer.waits := by rw [hm₁]; rfl
    obtain ⟨deeds, p, hpath, hp⟩ := (hstep.sound h).exists_pauses
    refine ⟨_, p, hstep.path.append hpath, hp.scene.trans hscene, hp.waits.trans hwaits,
      hp.next.trans hstep.nextAsleep?_eq.symm, ?_⟩
    rw [hstep.follow_eq]
    exact hp.pauses
termination_by m.cursor.rest.length
decreasing_by
  rw [hscene] at hless
  omega

end Moment

section

variable {t : Tailer} {s : Scene} (hinit : t.phase = .init)
include hinit

/-- A run comes to its first pause in the scene in which it starts. Either it enters its first wait
there, or there is none. -/
theorem exists_first_pause (hpresent : s.present = true) {header : FileHeader}
    (hheader : FileHeader.decode s.content = .ok header) :
    ∃ deeds m, Reaches t s deeds m ∧ m.scene = s ∧ m.tailer.waits = t.waits
      ∧ ((∃ asleep, m.FallsAsleep asleep ∧ t.firstAsleep? s = some asleep)
        ∨ m.Ends [] (run t s) ∧ t.firstAsleep? s = none) := by
  obtain ⟨deeds, m, hpath, hm⟩ := (sound_opening t s header).exists_pauses
  have hreach := (reaches_iff hinit).mpr ⟨header, hheader, hpath⟩
  have hfirst : t.firstAsleep? s = m.nextAsleep? := by
    rw [firstAsleep?, start_eq hinit, hheader, hm.next]
    rfl
  refine ⟨deeds, m, hreach, hm.scene, hm.waits, ?_⟩
  rw [hfirst, run_of_header hinit hpresent hheader]
  obtain ⟨asleep, hasleep⟩ | hends := hm.pauses
  · exact .inl ⟨asleep, hasleep, hasleep.nextAsleep?_eq⟩
  · exact .inr ⟨hends, hends.nextAsleep?_eq (hreach.sound hinit)⟩

/-- Without a header a run comes to no wait. -/
theorem firstAsleep?_of_header_error {e : HeaderError}
    (hheader : FileHeader.decode s.content = .error e) : t.firstAsleep? s = none := by
  rw [firstAsleep?, start_eq hinit, hheader]

end

end TxnLog.Tailer
