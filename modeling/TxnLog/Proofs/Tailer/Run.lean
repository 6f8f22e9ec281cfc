import TxnLog.Proofs.FileHeader
import TxnLog.Proofs.Tailer.Turn

/-!
# Runs, turn by turn

A run is a sequence of turns. A `Moment` is what a run consists of between two of them, a `Step`
leads from one moment to the next by the tailer's own turn and by the wait that may follow it,
and `Reaches` says which moments a run comes to and by which deeds. Every moment of a run is
`Sound`: the tailer may look for a frame, and the cursor is where it says.

A run whose header is not refused comes to a last moment and ends there in one of the four ways
of `Ends` (`exists_reaches_ends`), and so it does from any moment that it comes to
(`Reaches.exists_ends`). With these two and the inversion of a step (`step_emitted_iff`,
`step_waited_iff`), what holds of a run is shown by induction on its path.
-/

namespace TxnLog.Tailer

/-- A run between two turns. -/
structure Moment where
  /-- The surroundings of the run. -/
  scene : Scene
  /-- Where the next turn reads. -/
  cursor : Cursor
  /-- The tailer so far. -/
  tailer : Tailer

/-- What a run does from one moment to the next. -/
inductive Deed where
  /-- It emits an entry. -/
  | emitted (e : Entry)
  /-- It waits. -/
  | waited

namespace Moment

/-- The run enters a wait at the moment, as the tailer `t`. -/
def FallsAsleep (m : Moment) (t : Tailer) : Prop :=
  turn m.scene.cancels m.cursor m.tailer = (.ok .asleep, t)

/-- A turn, and the wait that follows where nothing is written, lead to the next moment. -/
inductive Step : Moment → Deed → Moment → Prop where
  -- The cursor goes on behind the frame.
  | emitted {m : Moment} {e : Entry} {next : Cursor} {t : Tailer}
      (hlook : m.tailer.options.look m.cursor = .entry e)
      (hturn : turn m.scene.cancels m.cursor m.tailer = (.ok (.again next), t)) :
      Step m (.emitted e) ⟨m.scene, next, t⟩
  -- The file may be another one after the wait, and the cursor is set anew.
  | waited {m : Moment} {t t' : Tailer} {s : Scene} (hasleep : m.FallsAsleep t)
      (hwait : m.scene.wait t.lines.size = (false, s))
      (hrewind : enter .rewind t = (.ok (), t')) :
      Step m .waited ⟨s, Cursor.seek s.content t'.offset, t'⟩

/-- Steps lead from one moment to another by the deeds, in their order. -/
inductive Path : Moment → List Deed → Moment → Prop where
  | nil {m : Moment} : Path m [] m
  | snoc {m m' m'' : Moment} {deeds : List Deed} {d : Deed} (hpath : Path m deeds m')
      (hstep : Step m' d m'') : Path m (deeds ++ [d]) m''

/-- The tailer may look for a frame, and the cursor is where the tailer says. -/
structure Sound (m : Moment) : Prop where
  /-- The phase allows a turn. -/
  ready : m.tailer.phase.canMoveTo .frameWait = true
  /-- The cursor is at the tailer's offset, in the file as it is. -/
  cursor : m.cursor = Cursor.seek m.scene.content m.tailer.offset

/-- The run from the moment on. -/
def follow (m : Moment) : Except Error Nat × Tailer × Scene :=
  Tailer.follow m.scene m.cursor m.tailer

end Moment

/-- A run of the tailer `t` in the scene `s` comes to the moment by the deeds. -/
def Reaches (t : Tailer) (s : Scene) (deeds : List Deed) (m : Moment) : Prop :=
  ∃ c t', start s.content t = (.ok c, t') ∧ Moment.Path ⟨s, c, t'⟩ deeds m

/-! ### Opening, waking up and failing -/

/-- The tailer that has announced the header. -/
def opened (t : Tailer) (header : FileHeader) : Tailer :=
  { t with
    phase := .headerRead
    offset := FileHeader.size
    lines := t.lines.push (.banner header)
    reports := t.reports.push (.headerRead t.options.path header) }

/-- The tailer woken up. -/
def woken (t : Tailer) : Tailer := { t with phase := .rewind }

/-- What is reported of an error that makes a run fail. -/
def failureReports (t : Tailer) : Error → List Report
  | .checksumMismatch offset stored computed =>
    [.checksumMismatch offset stored computed t.options.algorithm]
  | .frame (.unreasonableLength ..) => []
  | .frame cause => [.partialTransaction t.offset cause]
  | _ => []

/-- The tailer whose run an error made fail. -/
def failed (t : Tailer) (e : Error) : Tailer :=
  { t with phase := .fatal, reports := t.reports ++ (t.failureReports e).toArray }

/-- Opening a file, by its header. -/
theorem start_eq {t : Tailer} (h : t.phase = .init) (content : Bytes) :
    start content t = match FileHeader.decode content with
      | .error e => (.error (.header e), { t with phase := .headerRead })
      | .ok header => (.ok (Cursor.seek content FileHeader.size), t.opened header) := by
  have henter : t.phase.canMoveTo .headerRead = true := by rw [h]; decide
  simp only [start, Attempt.bind_apply, enter_eq henter, FileHeader.read_ofBytes]
  cases hdecode : FileHeader.decode content with
  | error e => rfl
  | ok header =>
    have hsize := FileHeader.size_le_of_decode hdecode
    simp only [Attempt.bind_apply, Attempt.state_apply, report, emit, moveTo,
      Attempt.modify_apply, Attempt.pure_apply, opened, Cursor.seek_position, List.length_take,
      Nat.min_eq_left hsize]

/-- Settling an error that stopped a turn. -/
theorem settle_stopped {α : Type} {e : Error} (h : e.isFatal = true) (t : Tailer) :
    (settle e : Action α) (t.stopped e) = (.error e, t.failed e) := by
  have hwait : Phase.frameWait.canMoveTo .fatal = true := by decide
  have hready : Phase.frameReady.canMoveTo .fatal = true := by decide
  cases e with
  | frame cause =>
    -- Of these, a trailer that is missing or wrong is reported.
    cases cause <;>
      simp [settle, Error.isFatal, stopped, failed, failureReports, Attempt.bind_apply, enter,
        hwait, report, Attempt.state_apply, Attempt.modify_apply, Attempt.fail_apply]
  | header e => rfl
  | checksumMismatch offset stored computed =>
    simp [settle, Error.isFatal, stopped, failed, failureReports, Attempt.bind_apply, enter,
      hready, Attempt.fail_apply]
  | decode e => rfl
  | _ => contradiction

/-- Settling an interruption does nothing more. -/
theorem settle_interrupted {α : Type} (records : Nat) (t : Tailer) :
    (settle (.interrupted records) : Action α) t = (.error (.interrupted records), t) := rfl

/-! ### Steps -/

namespace Moment

variable {m m' : Moment} {deeds : List Deed} {d : Deed}

/-- The position of the cursor is the tailer's offset. -/
theorem Sound.position (h : m.Sound) : m.cursor.position = m.tailer.offset := by
  rw [h.cursor, Cursor.seek_position]

/-- The bytes ahead are those from the offset on. -/
theorem Sound.length_rest (h : m.Sound) :
    m.cursor.rest.length = m.scene.content.length - m.tailer.offset := by
  rw [h.cursor, Cursor.seek_rest, List.length_drop]

/-- A run enters a wait where nothing is written, unless it is cancelled. -/
theorem fallsAsleep_iff (h : m.Sound) {t : Tailer} :
    m.FallsAsleep t ↔ m.scene.cancels m.tailer.lines.size = false
      ∧ m.tailer.options.look m.cursor = .unwritten
      ∧ t = m.tailer.asleep m.tailer.offset := by
  unfold FallsAsleep
  rw [turn_eq h.ready, h.position]
  split
  · simp [*]
  · split <;> simp [*, eq_comm]

/-- A step that emits an entry. -/
theorem step_emitted_iff (h : m.Sound) {e : Entry} :
    m.Step (.emitted e) m' ↔ m.scene.cancels m.tailer.lines.size = false
      ∧ m.tailer.options.look m.cursor = .entry e
      ∧ m' = ⟨m.scene, m.cursor.advance e.frame.size, m.tailer.emitted e⟩ := by
  constructor
  · rintro ⟨hlook, hturn⟩
    -- The turn is known, and so are the cursor and the tailer that it leaves.
    rw [turn_eq h.ready, hlook] at hturn
    split at hturn
    · simp at hturn
    · simp only [Prod.mk.injEq, Except.ok.injEq, Turn.again.injEq] at hturn
      obtain ⟨rfl, rfl⟩ := hturn
      simp_all
  · rintro ⟨hcancels, hlook, rfl⟩
    refine .emitted hlook ?_
    rw [turn_eq h.ready, hlook]
    simp [hcancels]

/-- A step that waits. -/
theorem step_waited_iff (h : m.Sound) :
    m.Step .waited m' ↔ ∃ s, m.FallsAsleep (m.tailer.asleep m.tailer.offset)
      ∧ m.scene.wait (m.tailer.asleep m.tailer.offset).lines.size = (false, s)
      ∧ m' = ⟨s, Cursor.seek s.content m.tailer.offset,
          (m.tailer.asleep m.tailer.offset).woken⟩ := by
  have hrewind : enter .rewind (m.tailer.asleep m.tailer.offset)
      = (.ok (), (m.tailer.asleep m.tailer.offset).woken) := enter_eq (by rfl)
  constructor
  · intro hstep
    cases hstep with
    | waited hasleep hwait henter =>
      obtain rfl := ((fallsAsleep_iff h).mp hasleep).2.2
      rw [hrewind, Prod.mk.injEq] at henter
      obtain ⟨-, rfl⟩ := henter
      exact ⟨_, hasleep, hwait, rfl⟩
  · rintro ⟨s, hasleep, hwait, rfl⟩
    exact .waited hasleep hwait hrewind

/-- A step leads from a sound moment to a sound one. -/
theorem Step.sound (hstep : m.Step d m') (h : m.Sound) : m'.Sound := by
  cases d with
  | emitted e =>
    obtain ⟨-, hlook, rfl⟩ := (step_emitted_iff h).mp hstep
    have hoffset := (look_eq_entry_iff.mp hlook).2.1
    refine ⟨rfl, ?_⟩
    show m.cursor.advance e.frame.size = Cursor.seek m.scene.content e.frame.endOffset
    rw [Frame.endOffset, hoffset, h.position, h.cursor, Cursor.advance_seek]
  | waited =>
    obtain ⟨s, -, -, rfl⟩ := (step_waited_iff h).mp hstep
    exact ⟨rfl, rfl⟩

/-- Steps lead from a sound moment to a sound one. -/
theorem Path.sound (hpath : m.Path deeds m') (h : m.Sound) : m'.Sound := by
  induction hpath with
  | nil => exact h
  | snoc _ hstep ih => exact hstep.sound ih

/-- One path goes on after another. -/
theorem Path.append {m'' : Moment} {deeds' : List Deed} (hpath : m.Path deeds m')
    (hmore : m'.Path deeds' m'') : m.Path (deeds ++ deeds') m'' := by
  induction hmore with
  | nil => simpa using hpath
  | snoc _ hstep ih =>
    rw [← List.append_assoc]
    exact ih.snoc hstep

/-- A step is a path. -/
theorem Step.path (hstep : m.Step d m') : m.Path [d] m' := Path.nil.snoc hstep

/-- A step belongs to one run. -/
theorem Step.follow_eq (hstep : m.Step d m') : m.follow = m'.follow := by
  cases hstep with
  | emitted _ hturn =>
    rw [follow, follow, Tailer.follow, Tailer.follow, scan, hturn]
  | waited hasleep hwait hrewind =>
    rw [follow, follow, Tailer.follow, scan, hasleep]
    simp only
    -- The run goes on after the wait, which is not interrupted.
    split
    · simp_all
    · simp_all

/-- A path belongs to one run. -/
theorem Path.follow_eq (hpath : m.Path deeds m') : m.follow = m'.follow := by
  induction hpath with
  | nil => rfl
  | snoc _ hstep ih => exact ih.trans hstep.follow_eq

/-- A turn that fails ends the run. -/
theorem follow_of_error {e : Error} {t : Tailer}
    (hturn : turn m.scene.cancels m.cursor m.tailer = (.error e, t)) :
    m.follow = (.error e, t, m.scene) := by
  rw [follow, Tailer.follow, scan, hturn]

/-- A turn that finds the end of the file ends the run. -/
theorem follow_of_finished {records : Nat} {t : Tailer}
    (hturn : turn m.scene.cancels m.cursor m.tailer = (.ok (.finished records), t)) :
    m.follow = (.ok records, t, m.scene) := by
  rw [follow, Tailer.follow, scan, hturn]

/-- A wait that is interrupted ends the run. -/
theorem follow_of_interrupted {t : Tailer} {s : Scene} (hasleep : m.FallsAsleep t)
    (hwait : m.scene.wait t.lines.size = (true, s)) :
    m.follow = (((giveUp : Action Nat) t).1, ((giveUp : Action Nat) t).2, s) := by
  rw [follow, Tailer.follow, scan, hasleep]
  simp only
  split
  · simp_all
  · simp_all

/-! ### Endings -/

/-- A run ends at the moment, in one of four ways, the last of them during a wait. -/
inductive Ends (m : Moment) : List Deed → Except Error Nat × Tailer × Scene → Prop where
  | finished {pending : Nat} (hcancels : m.scene.cancels m.tailer.lines.size = false)
      (hlook : m.tailer.options.look m.cursor = .ended pending) :
      m.Ends [] (.ok m.tailer.records, m.tailer.finished m.tailer.offset pending, m.scene)
  | failed {e : Error} (hcancels : m.scene.cancels m.tailer.lines.size = false)
      (hlook : m.tailer.options.look m.cursor = .refused e) :
      m.Ends [] (.error e, m.tailer.failed e, m.scene)
  | cancelled (hcancels : m.scene.cancels m.tailer.lines.size = true) :
      m.Ends [] (.error (.interrupted m.tailer.records), m.tailer.gaveUp, m.scene)
  | interrupted {t : Tailer} {s : Scene} (hasleep : m.FallsAsleep t)
      (hwait : m.scene.wait t.lines.size = (true, s)) :
      m.Ends [.waited] (.error (.interrupted t.records), t.gaveUp, s)

end Moment

/-- What becomes of a run that its turns have brought to an end. -/
def conclude : Except Error Nat × Tailer × Scene → Except Error Nat × Tailer × Scene
  | (.ok records, t, s) => (.ok records, t, s)
  | (.error e, t, s) => (((settle e : Action Nat) t).1, ((settle e : Action Nat) t).2, s)

namespace Moment

variable {m m' : Moment} {deeds : List Deed} {d : Deed}

/-- The way in which a run ends is what becomes of it. -/
theorem Ends.conclude_eq {last : List Deed} {r : Except Error Nat × Tailer × Scene}
    (hends : m.Ends last r) (h : m.Sound) : conclude m.follow = r := by
  have hturn := turn_eq h.ready m.scene.cancels m.cursor
  rw [h.position] at hturn
  cases hends with
  | finished hcancels hlook =>
    rw [hcancels, if_neg Bool.false_ne_true, hlook] at hturn
    rw [follow_of_finished hturn, conclude]
  | failed hcancels hlook =>
    rw [hcancels, if_neg Bool.false_ne_true, hlook] at hturn
    rw [follow_of_error hturn, conclude, settle_stopped (isFatal_of_look hlook)]
  | cancelled hcancels =>
    rw [if_pos hcancels] at hturn
    rw [follow_of_error hturn, conclude, settle_interrupted]
  | interrupted hasleep hwait =>
    obtain rfl := ((fallsAsleep_iff h).mp hasleep).2.2
    rw [follow_of_interrupted hasleep hwait, giveUp_eq (by rfl), conclude, settle_interrupted]

/-- A run ends where it is cancelled, where it meets the end of the file or bytes that are
refused, and where its wait is interrupted. -/
theorem Sound.ends (h : m.Sound)
    (hlast : m.scene.cancels m.tailer.lines.size = true
      ∨ (∃ pending, m.tailer.options.look m.cursor = .ended pending)
      ∨ (∃ e, m.tailer.options.look m.cursor = .refused e)
      ∨ (∃ t s, m.FallsAsleep t ∧ m.scene.wait t.lines.size = (true, s))) :
    ∃ last, m.Ends last (conclude m.follow) := by
  have hends : ∃ last r, m.Ends last r := by
    cases hcancels : m.scene.cancels m.tailer.lines.size with
    | true => exact ⟨_, _, .cancelled hcancels⟩
    | false =>
      obtain hcancelled | ⟨pending, hlook⟩ | ⟨e, hlook⟩ | ⟨t, s, hasleep, hwait⟩ := hlast
      · rw [hcancels] at hcancelled
        contradiction
      · exact ⟨_, _, .finished hcancels hlook⟩
      · exact ⟨_, _, .failed hcancels hlook⟩
      · exact ⟨_, _, .interrupted hasleep hwait⟩
  obtain ⟨last, r, hends⟩ := hends
  rw [hends.conclude_eq h]
  exact ⟨last, hends⟩

/-- A run that is not at its end takes a step. -/
theorem Sound.ends_or_steps (h : m.Sound) :
    (∃ last, m.Ends last (conclude m.follow)) ∨ ∃ d m', m.Step d m' := by
  cases hcancels : m.scene.cancels m.tailer.lines.size with
  | true => exact .inl (h.ends (.inl hcancels))
  | false =>
    cases hlook : m.tailer.options.look m.cursor with
    | entry e => exact .inr ⟨_, _, (step_emitted_iff h).mpr ⟨hcancels, hlook, rfl⟩⟩
    | unwritten =>
      have hasleep := (fallsAsleep_iff h).mpr ⟨hcancels, hlook, rfl⟩
      cases hwait : m.scene.wait (m.tailer.asleep m.tailer.offset).lines.size with
      | mk stopped s =>
        cases stopped with
        | true => exact .inl (h.ends (.inr (.inr (.inr ⟨_, s, hasleep, hwait⟩))))
        | false => exact .inr ⟨_, _, (step_waited_iff h).mpr ⟨s, hasleep, hwait, rfl⟩⟩
    | ended pending => exact .inl (h.ends (.inr (.inl ⟨pending, hlook⟩)))
    | refused e => exact .inl (h.ends (.inr (.inr (.inl ⟨e, hlook⟩))))

/-- A run that meets the end of the file ends there. -/
theorem Ends.of_ended {last : List Deed} {r : Except Error Nat × Tailer × Scene}
    (hends : m.Ends last r) (hsound : m.Sound)
    (hcancels : m.scene.cancels m.tailer.lines.size = false) {pending : Nat}
    (hlook : m.tailer.options.look m.cursor = .ended pending) :
    last = [] ∧ r = (.ok m.tailer.records, m.tailer.finished m.tailer.offset pending, m.scene) := by
  cases hends with
  | finished _ hlook' =>
    obtain rfl := Sight.ended.inj (hlook'.symm.trans hlook)
    exact ⟨rfl, rfl⟩
  | failed _ hlook' => simp [hlook'] at hlook
  | cancelled hcancels' => simp [hcancels'] at hcancels
  | interrupted hasleep _ => simp [((fallsAsleep_iff hsound).mp hasleep).2.1] at hlook

/-- A run that meets bytes that are refused ends there. -/
theorem Ends.of_refused {last : List Deed} {r : Except Error Nat × Tailer × Scene}
    (hends : m.Ends last r) (hsound : m.Sound)
    (hcancels : m.scene.cancels m.tailer.lines.size = false) {e : Error}
    (hlook : m.tailer.options.look m.cursor = .refused e) :
    last = [] ∧ r = (.error e, m.tailer.failed e, m.scene) := by
  cases hends with
  | finished _ hlook' => simp [hlook'] at hlook
  | failed _ hlook' =>
    obtain rfl := Sight.refused.inj (hlook'.symm.trans hlook)
    exact ⟨rfl, rfl⟩
  | cancelled hcancels' => simp [hcancels'] at hcancels
  | interrupted hasleep _ => simp [((fallsAsleep_iff hsound).mp hasleep).2.1] at hlook

/-- A step uses up an entry of the script, or bytes. -/
theorem Step.decreases (hstep : m.Step d m') (h : m.Sound) :
    m'.scene.script.length < m.scene.script.length
      ∨ m'.scene.script.length = m.scene.script.length
        ∧ m'.cursor.rest.length < m.cursor.rest.length := by
  cases d with
  | emitted e =>
    obtain ⟨-, hlook, rfl⟩ := (step_emitted_iff h).mp hstep
    -- The frame stands before the bytes that are left.
    have hrest := congrArg List.length (look_eq_entry_iff.mp hlook).2.2
    rw [List.length_append, Frame.length_encode] at hrest
    have hpos : 0 < e.frame.size := Nat.succ_pos _
    refine .inr ⟨rfl, ?_⟩
    show (m.cursor.advance e.frame.size).rest.length < m.cursor.rest.length
    omega
  | waited =>
    obtain ⟨s, -, hwait, rfl⟩ := (step_waited_iff h).mp hstep
    exact .inl (Scene.script_of_wait hwait)

/-- A run that goes on from a sound moment comes to a last one. -/
theorem Sound.exists_ends {m : Moment} (h : m.Sound) :
    ∃ deeds m' last, m.Path deeds m' ∧ m'.Ends last (conclude m.follow) := by
  rcases h.ends_or_steps with ⟨last, hends⟩ | ⟨d, m₁, hstep⟩
  · exact ⟨[], m, last, .nil, hends⟩
  -- The moment after the step belongs to the same run.
  · have hless := hstep.decreases h
    obtain ⟨deeds, m', last, hpath, hends⟩ := (hstep.sound h).exists_ends
    rw [← hstep.follow_eq] at hends
    exact ⟨_, m', last, hstep.path.append hpath, hends⟩
termination_by (m.scene.script.length, m.cursor.rest.length)
decreasing_by
  rcases hless with hless | ⟨heq, hless⟩
  · exact .left _ _ hless
  · rw [heq]
    exact .right _ hless

end Moment

/-! ### Runs -/

/-- The moment at which a run has opened a file with the header. -/
def opening (t : Tailer) (s : Scene) (header : FileHeader) : Moment :=
  ⟨s, Cursor.seek s.content FileHeader.size, t.opened header⟩

/-- A run has opened its file at a sound moment. -/
theorem sound_opening (t : Tailer) (s : Scene) (header : FileHeader) :
    (opening t s header).Sound := ⟨rfl, rfl⟩

section

variable {t : Tailer} {s : Scene} (hinit : t.phase = .init)
include hinit

/-- A run comes to moments only if its file has a header. -/
theorem reaches_iff {deeds : List Deed} {m : Moment} :
    Reaches t s deeds m
      ↔ ∃ header, FileHeader.decode s.content = .ok header
        ∧ (opening t s header).Path deeds m := by
  unfold Reaches
  rw [start_eq hinit]
  cases FileHeader.decode s.content with
  | error e => simp
  | ok header => simp [opening]

/-- A run of a file with a header comes to its opening. -/
theorem reaches_opening {header : FileHeader} (h : FileHeader.decode s.content = .ok header) :
    Reaches t s [] (opening t s header) := (reaches_iff hinit).mpr ⟨header, h, .nil⟩

/-- Every moment that a run comes to is sound. -/
theorem Reaches.sound {deeds : List Deed} {m : Moment} (h : Reaches t s deeds m) : m.Sound := by
  obtain ⟨header, -, hpath⟩ := (reaches_iff hinit).mp h
  exact hpath.sound (sound_opening t s header)

/-- What holds where a run has opened its file, and is kept by every step from a moment of the
run, holds all along the run. -/
theorem Reaches.induct {motive : List Deed → Moment → Prop}
    (hopening : ∀ header, FileHeader.decode s.content = .ok header →
      motive [] (opening t s header))
    (hstep : ∀ deeds m d m', Reaches t s deeds m → m.Sound → m.Step d m' → motive deeds m →
      motive (deeds ++ [d]) m')
    {deeds : List Deed} {m : Moment} (h : Reaches t s deeds m) : motive deeds m := by
  obtain ⟨header, hheader, hpath⟩ := (reaches_iff hinit).mp h
  clear h
  generalize hfrom : opening t s header = m₀ at hpath
  induction hpath with
  | nil => exact hfrom ▸ hopening header hheader
  | snoc hpath hlast ih =>
    subst hfrom
    have hreach := (reaches_iff hinit).mpr ⟨header, hheader, hpath⟩
    exact hstep _ _ _ _ hreach (hreach.sound hinit) hlast ih

/-- A run that comes to a moment comes to the one after the next step. -/
theorem Reaches.snoc {deeds : List Deed} {m m' : Moment} {d : Deed} (h : Reaches t s deeds m)
    (hstep : m.Step d m') : Reaches t s (deeds ++ [d]) m' := by
  obtain ⟨header, hheader, hpath⟩ := (reaches_iff hinit).mp h
  exact (reaches_iff hinit).mpr ⟨header, hheader, hpath.snoc hstep⟩

/-- A run of a file without a header fails before it prints anything. -/
theorem run_of_header_error (hpresent : s.present = true) {e : HeaderError}
    (h : FileHeader.decode s.content = .error e) :
    run t s = (.error (.header e), { t with phase := .fatal }, s) := by
  unfold run
  rw [start_eq hinit, h]
  simp only [hpresent]
  rfl

/-- A run of a file with a header is what becomes of it from its opening on. -/
theorem run_of_header (hpresent : s.present = true) {header : FileHeader}
    (h : FileHeader.decode s.content = .ok header) :
    run t s = conclude (opening t s header).follow := by
  unfold run
  rw [start_eq hinit, h, hpresent]
  show _ = conclude (follow s (Cursor.seek s.content FileHeader.size) (t.opened header))
  dsimp only
  generalize follow s (Cursor.seek s.content FileHeader.size) (t.opened header) = r
  obtain ⟨e | records, t', s'⟩ := r
  · rfl
  · rfl

/-- A run goes on from every moment that it comes to. -/
theorem Reaches.run_eq (hpresent : s.present = true) {deeds : List Deed} {m : Moment}
    (h : Reaches t s deeds m) : run t s = conclude m.follow := by
  obtain ⟨header, hheader, hpath⟩ := (reaches_iff hinit).mp h
  rw [run_of_header hinit hpresent hheader, hpath.follow_eq]

/-- What becomes of a run is known where it ends. -/
theorem Reaches.run_of_ends (hpresent : s.present = true) {deeds last : List Deed} {m : Moment}
    {r : Except Error Nat × Tailer × Scene} (h : Reaches t s deeds m) (hends : m.Ends last r) :
    run t s = r := by
  rw [h.run_eq hinit hpresent, hends.conclude_eq (h.sound hinit)]

/-- A run ends where it meets the end of the file or bytes that are refused. -/
theorem Reaches.ends (hpresent : s.present = true) {deeds : List Deed} {m : Moment}
    (h : Reaches t s deeds m)
    (hlast : (∃ pending, m.tailer.options.look m.cursor = .ended pending)
      ∨ ∃ e, m.tailer.options.look m.cursor = .refused e) : ∃ last, m.Ends last (run t s) := by
  rw [h.run_eq hinit hpresent]
  exact (h.sound hinit).ends (.inr (hlast.imp id .inl))

/-- From every moment that a run comes to, it comes to its end. -/
theorem Reaches.exists_ends (hpresent : s.present = true) {deeds : List Deed} {m : Moment}
    (h : Reaches t s deeds m) : ∃ deeds' m' last, m.Path deeds' m' ∧ m'.Ends last (run t s) := by
  rw [h.run_eq hinit hpresent]
  exact (h.sound hinit).exists_ends

/-- A run of a file with a header comes to a moment at which it ends. -/
theorem exists_reaches_ends (hpresent : s.present = true) {header : FileHeader}
    (h : FileHeader.decode s.content = .ok header) :
    ∃ deeds m last, Reaches t s deeds m ∧ m.Ends last (run t s) := by
  obtain ⟨deeds, m, last, hpath, hends⟩ :=
    (reaches_opening hinit h).exists_ends hinit hpresent
  exact ⟨deeds, m, last, (reaches_iff hinit).mpr ⟨_, h, hpath⟩, hends⟩

end

end TxnLog.Tailer
