import TxnLog.Proofs.Line
import TxnLog.Proofs.Tailer.Cancelling
import TxnLog.Proofs.Tailer.Lifecycle

/-!
# What the display leaves alone

What a tailer makes of the bytes at a cursor depends on the checksum and the limit of its options
and on nothing else (`Options.ReadsLike.look_eq`). So two runs in one scene that differ in what they
display and in how long they wait take the same steps (`Moment.Alike.step`), come to the same
moments (`Reaches.alike`) and end alike (`Moment.Alike.ends`), as long as nobody cancels them by the
number of their lines, which is not the same. Their tallies are about the same deeds, and what is
printed for deeds is what a run without a display prints, adorned with the lines that the display
adds (`Adorned.history`).
-/

namespace TxnLog

/-- The line is printed whatever the display is. -/
def Line.isPlain : Line → Bool
  | .banner _ | .summary _ | .finished _ => true
  | .data _ | .dump _ | .resetting _ => false

/-- What a display adds to the summary of a transaction: the data of the body if it carries any and
they are to be shown, and the dump of the body. -/
def Display.additions (d : Display) (body : TxnBody) : List Line :=
  (if d.showData then (body.data?.map fun bs => .data (Text.Rendered.ofBytes bs).text).toList
    else [])
    ++ (if d.verbose then [.dump body] else [])

/-- The lines of a transaction are its summary and what the display adds. -/
theorem Line.ofTxn_eq (d : Display) (txn : Txn) :
    ofTxn d txn = .summary txn :: d.additions txn.body := by
  unfold ofTxn Display.additions TxnBody.dataText?
  cases txn.body.data? <;> rfl

/-- Of the lines of a transaction the summary is printed whatever the display is. -/
theorem Line.filter_ofTxn_isPlain (d : Display) (txn : Txn) :
    (ofTxn d txn).filter isPlain = [.summary txn] := by
  have htail : (ofTxn d txn).tail.filter isPlain = [] := by
    rw [List.filter_eq_nil_iff]
    intro l hl
    have hcontinues := continues_of_mem_tail hl
    cases l <;> first | contradiction | exact Bool.false_ne_true
  rw [ofTxn, List.filter_cons_of_pos rfl]
  exact congrArg (_ :: ·) htail

namespace Tailer

/-- The options let a tailer read a file in the same way as others. -/
structure Options.ReadsLike (o' o : Options) : Prop where
  /-- The checksum is the same. -/
  algorithm : o'.algorithm = o.algorithm
  /-- The limit is the same. -/
  frameLimit : o'.frameLimit = o.frameLimit

/-- Tailers that read in the same way see the same. -/
theorem Options.ReadsLike.look_eq {o o' : Options} (h : o'.ReadsLike o) (c : Cursor) :
    o'.look c = o.look c := by
  have hjudge : o'.judge = o.judge := by
    funext f
    unfold judge
    rw [h.algorithm]
  unfold look
  rw [h.frameLimit, hjudge]

/-! ### Scenes that do not count lines -/

namespace Scene

variable {s : Scene} (hnever : s.cancelAfter = 0)
include hnever

/-- Where nobody counts the lines, their number does not matter for a cancellation. -/
theorem cancels_eq_cancelled (lines : Nat) : s.cancels lines = s.cancelled := by
  simp [cancels, hnever]

/-- Where nobody counts the lines, their number does not matter in a wait. -/
theorem wait_eq_wait (lines lines' : Nat) : s.wait lines = s.wait lines' := by
  cases hscript : s.script with
  | nil => rw [wait, wait, hscript]
  | cons acts script =>
    have hafter := (cancelAfter_foldl acts { s with script }).trans hnever
    rw [wait_of_script hscript, wait_of_script hscript, cancels_eq_cancelled hafter,
      cancels_eq_cancelled hafter]

end Scene

/-! ### Runs that read in the same way -/

namespace Moment

/-- Two runs are at moments that differ in what they display at most. -/
structure Alike (m m' : Moment) : Prop where
  /-- The first moment is sound. -/
  sound : m.Sound
  /-- The second moment is sound. -/
  sound' : m'.Sound
  /-- The surroundings are the same. -/
  scene : m'.scene = m.scene
  /-- The runs are not cancelled by the number of their lines. -/
  never : m.scene.cancelAfter = 0
  /-- The runs are at the same place. -/
  cursor : m'.cursor = m.cursor
  /-- The tailers read in the same way. -/
  options : m'.tailer.options.ReadsLike m.tailer.options
  /-- The tailers have emitted as many transactions. -/
  records : m'.tailer.records = m.tailer.records

variable {m m' : Moment}

namespace Alike

variable (h : m.Alike m')
include h

/-- Alike moments have the same offset. -/
theorem offset : m'.tailer.offset = m.tailer.offset := by
  rw [← h.sound.position, ← h.sound'.position, h.cursor]

/-- The tailers see the same. -/
theorem look_eq : m'.tailer.options.look m'.cursor = m.tailer.options.look m.cursor := by
  rw [h.cursor, h.options.look_eq]

/-- Either both runs are cancelled or none is. -/
theorem cancels_eq :
    m'.scene.cancels m'.tailer.lines.size = m.scene.cancels m.tailer.lines.size := by
  rw [h.scene, Scene.cancels_eq_cancelled h.never, Scene.cancels_eq_cancelled h.never]

/-- Both runs fall asleep. -/
theorem fallsAsleep (hasleep : m.FallsAsleep (m.tailer.asleep m.tailer.offset)) :
    m'.FallsAsleep (m'.tailer.asleep m'.tailer.offset) := by
  obtain ⟨hcancels, hlook, -⟩ := (fallsAsleep_iff h.sound).mp hasleep
  exact (fallsAsleep_iff h.sound').mpr
    ⟨h.cancels_eq.trans hcancels, h.look_eq.trans hlook, rfl⟩

/-- The same happens in a wait of both runs. -/
theorem wait_eq (lines lines' : Nat) : m'.scene.wait lines' = m.scene.wait lines := by
  rw [h.scene, Scene.wait_eq_wait h.never]

/-- Both runs take the same step. -/
theorem step {d : Deed} {next : Moment} (hstep : m.Step d next) :
    ∃ next', m'.Step d next' ∧ next.Alike next' := by
  have hsound := hstep.sound h.sound
  have hnever := hstep.cancelAfter_eq h.sound
  cases d with
  | emitted e =>
    obtain ⟨hcancels, hlook, rfl⟩ := (step_emitted_iff h.sound).mp hstep
    have hstep' := (step_emitted_iff h.sound').mpr
      ⟨h.cancels_eq.trans hcancels, h.look_eq.trans hlook, rfl⟩
    exact ⟨_, hstep', hsound, hstep'.sound h.sound', h.scene, hnever.trans h.never,
      by rw [h.cursor], h.options, congrArg (· + 1) h.records⟩
  | waited =>
    obtain ⟨after, hasleep, hwait, rfl⟩ := (step_waited_iff h.sound).mp hstep
    have hstep' := (step_waited_iff h.sound').mpr
      ⟨after, h.fallsAsleep hasleep, (h.wait_eq _ _).trans hwait, rfl⟩
    exact ⟨_, hstep', hsound, hstep'.sound h.sound', rfl, hnever.trans h.never,
      by rw [h.offset], h.options, h.records⟩

/-- Both runs end in the same way. -/
theorem ends {last : List Deed} {outcome : Except Error Nat} {t : Tailer} {final : Scene}
    (hends : m.Ends last (outcome, t, final)) :
    ∃ t', m'.Ends last (outcome, t', final) ∧ t'.phase = t.phase := by
  cases hends with
  | @finished pending hcancels hlook =>
    have hends' := Ends.finished (h.cancels_eq.trans hcancels) (h.look_eq.trans hlook)
    rw [h.scene, h.records] at hends'
    exact ⟨_, hends', rfl⟩
  | failed hcancels hlook =>
    have hends' := Ends.failed (h.cancels_eq.trans hcancels) (h.look_eq.trans hlook)
    rw [h.scene] at hends'
    exact ⟨_, hends', rfl⟩
  | cancelled hcancels =>
    have hends' := Ends.cancelled (h.cancels_eq.trans hcancels)
    rw [h.scene, h.records] at hends'
    exact ⟨_, hends', rfl⟩
  | interrupted hasleep hwait =>
    obtain rfl := ((fallsAsleep_iff h.sound).mp hasleep).2.2
    have hends' := Ends.interrupted (h.fallsAsleep hasleep) ((h.wait_eq _ _).trans hwait)
    have hrecords : (m'.tailer.asleep m'.tailer.offset).records
        = (m.tailer.asleep m.tailer.offset).records := h.records
    rw [hrecords] at hends'
    exact ⟨_, hends', rfl⟩

end Alike

end Moment

section

variable {o o' : Options} {s : Scene} {deeds : List Deed} {m : Moment}

/-- A run that reads in the same way comes to the same moments. -/
theorem Reaches.alike (h : Reaches { options := o } s deeds m) (hreads : o'.ReadsLike o)
    (hnever : s.cancelAfter = 0) :
    ∃ m', Reaches { options := o' } s deeds m' ∧ m.Alike m' := by
  refine h.induct rfl (motive := fun deeds m =>
    ∃ m', Reaches { options := o' } s deeds m' ∧ m.Alike m') ?_ ?_
  · intro header hheader
    have hsound := sound_opening { options := o } s header
    have hsound' := sound_opening { options := o' } s header
    exact ⟨_, reaches_opening rfl hheader, hsound, hsound', rfl, hnever, rfl, hreads, rfl⟩
  · rintro deeds m d next - - hstep ⟨m', hreach', halike⟩
    obtain ⟨next', hstep', hnext⟩ := halike.step hstep
    exact ⟨next', hreach'.snoc rfl hstep', hnext⟩

end

/-! ### What is printed and recorded for the same deeds -/

/-- What is printed whatever the display is does not depend on the waits. -/
theorem filter_history_isPlain (d : Display) (records : Nat) (deeds : List Deed) :
    (history d records deeds).filter Line.isPlain
      = (Deed.entries deeds).map fun e => .summary e.txn := by
  induction deeds generalizing records with
  | nil => rfl
  | cons deed deeds ih =>
    cases deed with
    | emitted e =>
      rw [history, List.filter_append, Line.filter_ofTxn_isPlain, ih]
      rfl
    | waited =>
      rw [history, List.filter_append, ih]
      split
      · rfl
      · rfl

/-- The waits for the same deeds differ in their length at most. -/
theorem pauses_eq_map (o o' : Options) (offset records : Nat) (deeds : List Deed) :
    pauses o' offset records deeds
      = (pauses o offset records deeds).map fun w => { w with timeout := o'.timeout } := by
  induction deeds generalizing offset records with
  | nil => rfl
  | cons deed deeds ih =>
    cases deed with
    | emitted e => exact ih _ _
    | waited => rw [pauses, ih, pauses, List.map_cons]

/-- Lines and waits of a run with a display, beside the lines that a run without one prints. -/
inductive Adorned (d : Display) : (plain : List Line) → List Wait → List Line → Prop where
  | nil : Adorned d [] [] []
  /-- To the summary of a record the display adds lines. -/
  | record {plain lines : List Line} {waits : List Wait} (h : Adorned d plain waits lines)
      (txn : Txn) :
      Adorned d (plain ++ [.summary txn]) waits (lines ++ .summary txn :: d.additions txn.body)
  /-- To other lines it adds none. -/
  | other {plain lines : List Line} {waits : List Wait} (h : Adorned d plain waits lines)
      {l : Line} (hl : l.isSummary = false) : Adorned d (plain ++ [l]) waits (lines ++ [l])
  /-- A wait is announced behind the records so far. -/
  | wait {plain lines : List Line} {waits : List Wait} (h : Adorned d plain waits lines)
      {w : Wait} (hw : w.records = plain.countP Line.isSummary) :
      Adorned d plain (waits ++ [w])
        (lines ++ if d.verbose then [.resetting w.records] else [])

/-- What is printed for deeds is what is printed without a display, adorned. -/
theorem Adorned.history {o : Options} {plain lines : List Line} {waits : List Wait}
    (h : Adorned o.display plain waits lines) (offset : Nat) {records : Nat}
    (hrecords : records = plain.countP Line.isSummary) (deeds : List Deed) :
    Adorned o.display (plain ++ Tailer.history {} records deeds)
      (waits ++ pauses o offset records deeds)
      (lines ++ Tailer.history o.display records deeds) := by
  induction deeds generalizing plain lines waits offset records with
  | nil => simpa [Tailer.history, pauses] using h
  | cons deed deeds ih =>
    cases deed with
    | emitted e =>
      have hcount : records + 1 = (plain ++ [Line.summary e.txn]).countP Line.isSummary := by
        rw [List.countP_append, ← hrecords]
        rfl
      have hmore := ih (h.record e.txn) (offset + e.frame.size) hcount
      rw [← Line.ofTxn_eq, List.append_assoc, List.append_assoc] at hmore
      exact hmore
    | waited =>
      have hmore := ih (h.wait (w := ⟨o.timeout, .sleep, offset, records⟩) hrecords) offset hrecords
      rw [List.append_assoc, List.append_assoc] at hmore
      exact hmore

/-! ### Two runs with tallies of the same deeds -/

section

variable {o o' : Options} {header : FileHeader} {deeds : List Deed} {outcome : Except Error Nat}
  {t t' : Tailer} (h : Tally o header deeds (closing outcome) t)
  (h' : Tally o' header deeds (closing outcome) t')
include h

/-- Every wait is as long as the options say. -/
theorem Tally.timeout_of_mem {w : Wait} (hw : w ∈ t.waits) : w.timeout = o.timeout := by
  rw [Array.mem_def, h.waits, pauses_eq_map o o, List.mem_map] at hw
  obtain ⟨_, -, rfl⟩ := hw
  rfl

/-- What is printed whatever the display is: the banner, the summaries and the end. -/
theorem Tally.filter_lines :
    t.lines.toList.filter Line.isPlain = .banner header
      :: (Deed.entries deeds).map (fun e => .summary e.txn) ++ closing outcome := by
  have hclosing : (closing outcome).filter Line.isPlain = closing outcome := by
    cases outcome <;> rfl
  rw [h.lines, List.filter_append, List.filter_cons_of_pos rfl, filter_history_isPlain, hclosing]

include h'

/-- The waits differ in their length at most. -/
theorem Tally.waits_eq_map : t'.waits = t.waits.map fun w => { w with timeout := o'.timeout } := by
  apply Array.toList_inj.mp
  rw [h'.waits, pauses_eq_map o o', ← h.waits, Array.toList_map]

/-- The lines with a display are those without one, adorned. -/
theorem Tally.adorned (hplain : o.display = {}) :
    Adorned o'.display t.lines.toList t'.waits.toList t'.lines.toList := by
  have hbanner : Adorned o'.display [.banner header] [] [.banner header] :=
    Adorned.nil.other (l := .banner header) rfl
  have hcount : 0 = [Line.banner header].countP Line.isSummary := rfl
  have hdeeds := hbanner.history FileHeader.size hcount deeds
  rw [← hplain, List.nil_append] at hdeeds
  rw [h.lines, h'.lines, h'.waits]
  cases outcome with
  | ok records => exact hdeeds.other rfl
  | error e =>
    simp only [closing, List.append_nil]
    exact hdeeds

end

/-- Two runs in one scene that may differ in what they display and in how long they wait, and that
nobody cancels by the number of their lines, have the same outcome, the same phase, count and
offset at the end, and the same waits but for their length, which is in each run the one that its
options say. They print the same banner, summaries and line about the end, and if the one displays
nothing, the lines of the other are its lines adorned. -/
theorem run_displayed {o o' : Options} (hreads : o'.ReadsLike o) {s : Scene}
    (hnever : s.cancelAfter = 0) {outcome : Except Error Nat} {t : Tailer} {final : Scene}
    (hrun : run { options := o } s = (outcome, t, final)) :
    ∃ t', run { options := o' } s = (outcome, t', final)
      ∧ t'.phase = t.phase
      ∧ t'.records = t.records
      ∧ t'.offset = t.offset
      ∧ t'.waits = t.waits.map (fun w => { w with timeout := o'.timeout })
      ∧ (∀ w ∈ t.waits, w.timeout = o.timeout)
      ∧ t'.lines.toList.filter Line.isPlain = t.lines.toList.filter Line.isPlain
      ∧ (o.display = {} → Adorned o'.display t.lines.toList t'.waits.toList t'.lines.toList) := by
  cases hpresent : s.present with
  | false =>
    rw [run_of_absent _ hpresent, Prod.mk.injEq, Prod.mk.injEq] at hrun
    obtain ⟨rfl, rfl, rfl⟩ := hrun
    exact ⟨_, run_of_absent _ hpresent, rfl, rfl, rfl, by simp, by simp, rfl, fun _ => .nil⟩
  | true =>
    cases hheader : FileHeader.decode s.content with
    | error e =>
      rw [run_of_header_error rfl hpresent hheader, Prod.mk.injEq, Prod.mk.injEq] at hrun
      obtain ⟨rfl, rfl, rfl⟩ := hrun
      exact ⟨_, run_of_header_error rfl hpresent hheader, rfl, rfl, rfl, by simp, by simp, rfl,
        fun _ => .nil⟩
    | ok header =>
      obtain ⟨deeds, m, last, hreach, hends⟩ := exists_reaches_ends
        (t := { options := o }) rfl hpresent hheader
      obtain ⟨m', hreach', halike⟩ := hreach.alike hreads hnever
      rw [hrun] at hends
      obtain ⟨t', hends', hphase⟩ := halike.ends hends
      -- Both tallies are about the deeds of the run.
      have htally := (hends.concluded halike.sound (hreach.tally hheader)).tally
      have htally' := (hends'.concluded halike.sound' (hreach'.tally hheader)).tally
      refine ⟨t', hreach'.run_of_ends rfl hpresent hends', hphase, ?_, ?_,
        htally.waits_eq_map htally', fun w hw => htally.timeout_of_mem hw, ?_,
        fun hplain => htally.adorned htally' hplain⟩
      · rw [htally'.records, htally.records]
      · rw [htally'.offset, htally.offset]
      · rw [htally'.filter_lines, htally.filter_lines]

/-- Options with which everything is displayed and every wait lasts five seconds. -/
def Options.full : Options :=
  { Options.plain with display := ⟨true, true⟩, verboseInterval := .finite false 5 0 }

/-- The run on the growing file, without a display and with everything displayed. -/
theorem run_displayed_growing :
    ∃ t t', run { options := .plain } .growing = (.ok 1, t, { content := Log.single.bytes })
      ∧ run { options := .full } .growing = (.ok 1, t', { content := Log.single.bytes })
      ∧ t'.phase = .done
      ∧ t'.waits = #[⟨.finite false 5 0, .sleep, 16, 0⟩]
      ∧ t'.lines.toList.filter Line.isPlain = t.lines.toList.filter Line.isPlain
      ∧ Adorned ⟨true, true⟩ t.lines.toList t'.waits.toList t'.lines.toList := by
  obtain ⟨t, hrun, hdone, hwaits⟩ := run_growing
  have hreads : Options.full.ReadsLike .plain := ⟨rfl, rfl⟩
  obtain ⟨t', hrun', hphase, -, -, hwaits', -, hlines, hadorned⟩ :=
    run_displayed hreads rfl hrun
  rw [hwaits, List.map_toArray] at hwaits'
  exact ⟨t, t', hrun, hrun', hphase.trans hdone, hwaits', hlines, hadorned rfl⟩

end Tailer

end TxnLog
