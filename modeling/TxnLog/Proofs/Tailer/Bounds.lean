import Mathlib.Data.Prod.Lex
import Mathlib.Order.WellFounded
import TxnLog.Proofs.Tailer.Reading

/-!
# How long a run can be

Every step of a run takes away from what `Moment.remaining` counts, first entries of the script and
then bytes, so no run goes on for ever (`not_forall_step`). An entry takes the bytes of the smallest
frame at least, which bounds the steps between two waits (`Path.leastSize_mul_le`), and a wait that
a run goes on after takes an entry of the script, which bounds the waits (`Reaches.waits_le`). Only
where a length field is zero does a run wait at all (`look_eq_unwritten_iff`).
-/

namespace TxnLog

namespace Frame

/-- The size of the smallest frame, which has a payload of one byte. -/
def leastSize : Nat := prefixSize + 1 + 1

/-- No well-formed frame is smaller than the smallest one. -/
theorem WellFormed.leastSize_le {most : Int} {f : Frame} (hf : f.WellFormed most) :
    leastSize ≤ f.size := by
  have hpos := hf.pos
  unfold leastSize size
  omega

/-- Unwritten space is found only where the length is zero. -/
theorem lengthField_of_emptyTail {limit : CallLimit} (hlimit : limit.Productive) {most : Int}
    {c next : Cursor} {offset : Nat} (h : read limit most c = (.ok (.emptyTail offset), next)) :
    prefixSize ≤ c.rest.length ∧ lengthField c.rest = 0 := by
  rw [read_eq hlimit] at h
  dsimp only at h
  repeat' split at h
  all_goals simp_all

end Frame

namespace Tailer

/-- Unwritten space is seen exactly where the length ahead is zero. -/
theorem look_eq_unwritten_iff {o : Options} {c : Cursor} :
    o.look c = .unwritten ↔ Frame.prefixSize ≤ c.rest.length ∧ Frame.lengthField c.rest = 0 := by
  constructor
  · intro h
    unfold Options.look at h
    cases hread : Frame.read .unlimited o.frameLimit c with
    | mk found next =>
      rw [hread] at h
      rcases found with cause | f | offset | ⟨offset, pending⟩
      · contradiction
      · dsimp only at h
        split at h
        · contradiction
        · contradiction
      · exact Frame.lengthField_of_emptyTail CallLimit.productive_unlimited hread
      · contradiction
  · rintro ⟨hlength, hzero⟩
    exact look_of_lengthField_eq_zero hlength hzero

namespace Moment

variable {m m' : Moment} {d : Deed} {deeds : List Deed}

/-! ### Steps -/

/-- What a run has left: entries of the script, and bytes ahead until the next of them. -/
def remaining (m : Moment) : Nat ×ₗ Nat := toLex (m.scene.script.length, m.cursor.rest.length)

/-- A step leaves less than there was. -/
theorem Step.remaining_lt (hstep : m.Step d m') (hsound : m.Sound) :
    m'.remaining < m.remaining := by
  unfold remaining
  rw [Prod.Lex.toLex_lt_toLex]
  exact hstep.decreases hsound

/-- No run takes step after step for ever. -/
theorem not_forall_step {moments : Nat → Moment} (h : (moments 0).Sound) :
    ¬ ∀ n, ∃ d, (moments n).Step d (moments (n + 1)) := by
  intro hsteps
  have hsound : ∀ n, (moments n).Sound := by
    intro n
    induction n with
    | zero => exact h
    | succ n ih =>
      obtain ⟨d, hstep⟩ := hsteps n
      exact hstep.sound ih
  obtain ⟨n, hn⟩ := WellFounded.not_rel_apply_succ (r := (· < ·)) fun n => (moments n).remaining
  obtain ⟨d, hstep⟩ := hsteps n
  exact hn (hstep.remaining_lt (hsound n))

/-- A step that emits an entry takes the bytes of its frame. -/
theorem Step.length_rest {e : Entry} (hstep : m.Step (.emitted e) m') (hsound : m.Sound) :
    Frame.leastSize + m'.cursor.rest.length ≤ m.cursor.rest.length := by
  obtain ⟨-, hlook, rfl⟩ := (step_emitted_iff hsound).mp hstep
  obtain ⟨hvalid, -, hrest⟩ := look_eq_entry_iff.mp hlook
  have hleast := hvalid.frame.leastSize_le
  have hlength := congrArg List.length hrest
  rw [List.length_append, Frame.length_encode] at hlength
  show Frame.leastSize + (m.cursor.advance e.frame.size).rest.length ≤ _
  omega

/-- Without a wait, each step takes the bytes of a frame. -/
theorem Path.leastSize_mul_le (hpath : m.Path deeds m') (hsound : m.Sound)
    (hwaits : .waited ∉ deeds) :
    Frame.leastSize * deeds.length + m'.cursor.rest.length ≤ m.cursor.rest.length := by
  induction hpath with
  | nil => simp
  | @snoc m' m'' deeds d hpath hstep ih =>
    simp only [List.mem_append, List.mem_singleton, not_or] at hwaits
    have hbefore := ih hwaits.1
    cases d with
    | emitted e =>
      have hlength := hstep.length_rest (hpath.sound hsound)
      rw [List.length_append, List.length_singleton, Nat.mul_add, Nat.mul_one]
      omega
    | waited => exact absurd rfl hwaits.2

/-- A wait that a run goes on after takes an entry of the script. -/
theorem Step.waits_le (hstep : m.Step d m') (hsound : m.Sound) :
    m'.tailer.waits.size + m'.scene.script.length
      ≤ m.tailer.waits.size + m.scene.script.length := by
  cases d with
  | emitted e =>
    obtain ⟨-, -, rfl⟩ := (step_emitted_iff hsound).mp hstep
    exact Nat.le_refl _
  | waited =>
    obtain ⟨after, -, hwait, rfl⟩ := (step_waited_iff hsound).mp hstep
    have hscript := Scene.script_of_wait hwait
    have hsize : (m.tailer.asleep m.tailer.offset).woken.waits.size
        = m.tailer.waits.size + 1 := Array.size_push ..
    show (m.tailer.asleep m.tailer.offset).woken.waits.size + after.script.length ≤ _
    omega

/-- Where a run ends, it has entered one more wait at most. -/
theorem Ends.waits_le {last : List Deed} {r : Except Error Nat × Tailer × Scene}
    (hends : m.Ends last r) (hsound : m.Sound) :
    r.2.1.waits.size ≤ m.tailer.waits.size + 1 := by
  cases hends with
  | interrupted hasleep _ =>
    obtain rfl := ((fallsAsleep_iff hsound).mp hasleep).2.2
    exact Nat.le_of_eq (Array.size_push ..)
  | _ => exact Nat.le_succ _

/-- A run that sees no unwritten space enters no wait where it ends: it is at the end of the file,
it is refused something, or it is cancelled. -/
theorem Ends.of_written {last : List Deed} {r : Except Error Nat × Tailer × Scene}
    (hends : m.Ends last r) (hsound : m.Sound)
    (hwritten : m.tailer.options.look m.cursor ≠ .unwritten) :
    r.2.1.waits = m.tailer.waits
      ∧ ((∃ records, r.1 = .ok records) ∨ (∃ e, r.1 = .error e ∧ e.isFatal = true)
        ∨ (∃ records, r.1 = .error (.interrupted records))
          ∧ m.scene.cancels r.2.1.lines.size = true) := by
  cases hends with
  | finished _ _ => exact ⟨rfl, .inl ⟨_, rfl⟩⟩
  | failed _ hlook => exact ⟨rfl, .inr (.inl ⟨_, rfl, isFatal_of_look hlook⟩)⟩
  | cancelled hcancels => exact ⟨rfl, .inr (.inr ⟨⟨_, rfl⟩, hcancels⟩)⟩
  | interrupted hasleep _ =>
    exact absurd ((fallsAsleep_iff hsound).mp hasleep).2.1 hwritten

end Moment

/-! ### Runs -/

section

variable {o : Options} {s : Scene} {deeds : List Deed} {m : Moment}

/-- All along a run the waits so far have taken entries of the script. -/
theorem Reaches.waits_le (h : Reaches { options := o } s deeds m) :
    m.tailer.waits.size + m.scene.script.length ≤ s.script.length := by
  refine h.induct rfl (motive := fun _ m =>
    m.tailer.waits.size + m.scene.script.length ≤ s.script.length) ?_ ?_
  · intro _ _
    exact Nat.le_of_eq (Nat.zero_add _)
  · intro deeds m d m' _ hsound hstep ih
    exact (hstep.waits_le hsound).trans ih

/-- Where no length at a frame boundary is zero, a run does not wait. -/
theorem Reaches.of_written (h : Reaches { options := o } s deeds m)
    (hwritten : ∀ entries c, o.Reads (Cursor.seek s.content FileHeader.size) entries c →
      o.look c ≠ .unwritten) :
    m.scene = s ∧ m.tailer.waits = #[]
      ∧ o.Reads (Cursor.seek s.content FileHeader.size) (Deed.entries deeds) m.cursor := by
  refine h.induct rfl (motive := fun deeds m => m.scene = s ∧ m.tailer.waits = #[]
    ∧ o.Reads (Cursor.seek s.content FileHeader.size) (Deed.entries deeds) m.cursor) ?_ ?_
  · intro _ _
    exact ⟨rfl, rfl, .nil⟩
  · rintro deeds m d m' hreach hsound hstep ⟨hscene, hwaits, hreads⟩
    cases d with
    | emitted e =>
      obtain ⟨-, hlook, rfl⟩ := (Moment.step_emitted_iff hsound).mp hstep
      rw [hreach.options_eq] at hlook
      rw [Deed.entries_emitted]
      exact ⟨hscene, hwaits, hreads.snoc hlook⟩
    | waited =>
      obtain ⟨after, hasleep, -, rfl⟩ := (Moment.step_waited_iff hsound).mp hstep
      have hlook := ((Moment.fallsAsleep_iff hsound).mp hasleep).2.1
      rw [hreach.options_eq] at hlook
      exact absurd hlook (hwritten _ _ hreads)

end

/-- What bounds the run of a fresh tailer in the scene `s`, of which `r` becomes. -/
structure Bounded (o : Options) (s : Scene) (r : Except Error Nat × Tailer × Scene) : Prop where
  /-- It is refused the header, or it comes to a moment at which it ends. -/
  ends : (∃ e, r.1 = .error (.header e))
    ∨ ∃ deeds m last, Reaches { options := o } s deeds m ∧ m.Ends last r
  /-- From no moment of it does step follow step for ever. -/
  finite : ∀ (deeds : List Deed) (moments : Nat → Moment),
    Reaches { options := o } s deeds (moments 0) →
      ¬ ∀ n, ∃ d, (moments n).Step d (moments (n + 1))
  /-- Between two waits it emits no more frames than fit behind the offset. -/
  frames : ∀ deeds m more m', Reaches { options := o } s deeds m → m.Path more m' →
    .waited ∉ more → more.length ≤ (m.scene.content.length - m.tailer.offset) / 14
  /-- It enters at most one wait more than the script has entries. -/
  waits : r.2.1.waits.size ≤ s.script.length + 1
  /-- If no length field at a frame boundary is zero, it does not wait: it comes to the end of the
  file or to an error, unless it is cancelled already. -/
  written : (∀ entries c, o.Reads (Cursor.seek s.content FileHeader.size) entries c →
      Frame.prefixSize ≤ c.rest.length → Frame.lengthField c.rest ≠ 0) →
    r.2.1.waits = #[]
      ∧ ((∃ records, r.1 = .ok records) ∨ (∃ e, r.1 = .error e ∧ e.isFatal = true)
        ∨ (∃ records, r.1 = .error (.interrupted records))
          ∧ s.cancels r.2.1.lines.size = true)

/-- Every run of a fresh tailer on a file is bounded: it ends, and between two waits and in the
number of its waits it is no longer than the file and the script allow. -/
theorem run_bounded (o : Options) (s : Scene) (hpresent : s.present = true) :
    Bounded o s (run { options := o } s) := by
  have hfinite : ∀ (deeds : List Deed) (moments : Nat → Moment),
      Reaches { options := o } s deeds (moments 0) →
        ¬ ∀ n, ∃ d, (moments n).Step d (moments (n + 1)) :=
    fun deeds moments hreach => Moment.not_forall_step (hreach.sound rfl)
  have hframes : ∀ deeds m more m', Reaches { options := o } s deeds m → m.Path more m' →
      .waited ∉ more → more.length ≤ (m.scene.content.length - m.tailer.offset) / 14 := by
    intro deeds m more m' hreach hpath hwaits
    have hsound := hreach.sound rfl
    have hleast := hpath.leastSize_mul_le hsound hwaits
    rw [hsound.length_rest, show Frame.leastSize = 14 from rfl] at hleast
    omega
  cases hheader : FileHeader.decode s.content with
  | error e =>
    rw [run_of_header_error rfl hpresent hheader]
    exact ⟨.inl ⟨e, rfl⟩, hfinite, hframes, Nat.zero_le _,
      fun _ => ⟨rfl, .inr (.inl ⟨_, rfl, rfl⟩)⟩⟩
  | ok header =>
    obtain ⟨deeds, m, last, hreach, hends⟩ := exists_reaches_ends
      (t := { options := o }) rfl hpresent hheader
    have hsound := hreach.sound rfl
    refine ⟨.inr ⟨deeds, m, last, hreach, hends⟩, hfinite, hframes, ?_, fun hlengths => ?_⟩
    · have hlast := hends.waits_le hsound
      have hbefore := hreach.waits_le
      omega
    · have hwritten : ∀ entries c, o.Reads (Cursor.seek s.content FileHeader.size) entries c →
          o.look c ≠ .unwritten := by
        intro entries c hreads hlook
        obtain ⟨hlength, hzero⟩ := look_eq_unwritten_iff.mp hlook
        exact hlengths entries c hreads hlength hzero
      obtain ⟨rfl, hwaits, hreads⟩ := hreach.of_written hwritten
      have hhere := hwritten _ _ hreads
      rw [← hreach.options_eq] at hhere
      obtain ⟨hsame, hover⟩ := hends.of_written hsound hhere
      exact ⟨hsame.trans hwaits, hover⟩

/-- What is read of the log of one record ends before the record or behind it. -/
theorem eq_seek_of_reads_single {entries : List Entry} {c : Cursor}
    (hreads : Options.Reads .plain (Cursor.seek Log.single.bytes 16) entries c) :
    c = Cursor.seek Log.single.bytes 16 ∨ c = Cursor.seek Log.single.bytes 62 := by
  induction hreads with
  | nil => exact .inl rfl
  | snoc _ hlook ih =>
    obtain rfl | rfl := ih
    · have hrecord : Options.look .plain (Cursor.seek Log.single.bytes 16)
          = .entry (LogRecord.plain.entry 16) := LogRecord.look_bytes (List.append_nil _).symm
      obtain rfl := Sight.entry.inj (hrecord.symm.trans hlook)
      exact .inr (Cursor.advance_seek ..)
    · rw [look_of_length_lt (by decide)] at hlook
      contradiction

/-- The run on the log of one record ends without a wait. -/
theorem run_bounded_single :
    Bounded .plain { content := Log.single.bytes }
        (run { options := .plain } { content := Log.single.bytes })
      ∧ (run { options := .plain } { content := Log.single.bytes }).2.1.waits = #[] := by
  have hbounded := run_bounded .plain { content := Log.single.bytes } rfl
  refine ⟨hbounded, (hbounded.written ?_).1⟩
  intro entries c hreads
  obtain rfl | rfl := eq_seek_of_reads_single hreads
  · decide
  · decide

end Tailer

end TxnLog
