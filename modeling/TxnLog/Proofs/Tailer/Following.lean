import TxnLog.Proofs.Tailer.Reading
import TxnLog.Proofs.Tailer.Waits

/-!
# Following a file as it grows

As long as no wait changes the bytes before its offset, what a run has emitted is what can be
read from the header on in the file as it is (`Reaches.reads`): what was read stays where it was,
and every read behind a wait starts where the last one ended. So a run that reaches the end of
the log, or is refused something, has done as much as a run on the final file does in one go
(`run_followed`), apart from the lines that announce its waits.
-/

namespace TxnLog

/-- The line announces a wait. -/
def Line.isResetting : Line → Bool
  | .resetting _ => true
  | _ => false

namespace Tailer

variable {o : Options} {s : Scene} {deeds : List Deed} {m : Moment}

/-- No line of a transaction announces a wait. -/
theorem filter_ofTxn (d : Display) (txn : Txn) :
    (Line.ofTxn d txn).filter (fun l => !l.isResetting) = Line.ofTxn d txn := by
  unfold Line.ofTxn
  rw [List.filter_cons_of_pos rfl, List.filter_append]
  congr 2
  · split
    · cases txn.body.dataText? with
      | none => rfl
      | some text => rfl
    · rfl
  · split
    · rfl
    · rfl

/-- Without the announcements the lines are those of the emitted transactions. -/
theorem filter_history (d : Display) (records : Nat) (deeds : List Deed) :
    (history d records deeds).filter (fun l => !l.isResetting)
      = ((Deed.entries deeds).map (·.txn)).flatMap (Line.ofTxn d) := by
  induction deeds generalizing records with
  | nil => rfl
  | cons deed deeds ih =>
    cases deed with
    | emitted e =>
      rw [history, List.filter_append, filter_ofTxn, ih]
      rfl
    | waited =>
      rw [history, List.filter_append, ih]
      split
      · rfl
      · rfl

/-- What a run has emitted is to be read from the header on, in the file as it is. -/
theorem Reaches.reads (hpresent : s.present = true) (h : Reaches { options := o } s deeds m)
    (hkeeps : s.Keeps (run { options := o } s).2.1.waits) :
    o.Reads (Cursor.seek m.scene.content FileHeader.size) (Deed.entries deeds) m.cursor := by
  refine h.induct rfl (motive := fun deeds m => o.Reads
    (Cursor.seek m.scene.content FileHeader.size) (Deed.entries deeds) m.cursor) ?_ ?_
  · intro header _
    exact .nil
  · intro deeds m d m' hreach hsound hstep ih
    cases d with
    | emitted e =>
      obtain ⟨-, hlook, rfl⟩ := (Moment.step_emitted_iff hsound).mp hstep
      rw [hreach.options_eq] at hlook
      rw [Deed.entries_emitted]
      exact ih.snoc hlook
    | waited =>
      -- What was read is where it was, and the next read starts behind it.
      have htake := hreach.take_of_waited rfl hpresent rfl hkeeps hstep
      obtain ⟨after, -, -, rfl⟩ := (Moment.step_waited_iff hsound).mp hstep
      rw [hsound.cursor] at ih
      rw [Deed.entries_waited]
      exact ih.of_take_eq htake

/-- The header stays where no wait changes the bytes before its offset. -/
theorem Reaches.decode_eq (hpresent : s.present = true)
    (h : Reaches { options := o } s deeds m)
    (hkeeps : s.Keeps (run { options := o } s).2.1.waits) :
    FileHeader.decode m.scene.content = FileHeader.decode s.content := by
  refine h.induct rfl
    (motive := fun _ m => FileHeader.decode m.scene.content = FileHeader.decode s.content) ?_ ?_
  · intro header _
    rfl
  · intro deeds m d m' hreach hsound hstep ih
    rw [← ih]
    cases d with
    | emitted e =>
      obtain ⟨-, -, rfl⟩ := (Moment.step_emitted_iff hsound).mp hstep
      rfl
    | waited =>
      have htake := hreach.take_of_waited rfl hpresent rfl hkeeps hstep
      -- The header is before the offset.
      obtain ⟨header, hheader, -⟩ := (reaches_iff rfl).mp hreach
      have hsize : FileHeader.size ≤ m.tailer.offset := by
        rw [(hreach.tally hheader).offset]
        exact Nat.le_add_right ..
      have hhead := congrArg (List.take FileHeader.size) htake
      rw [List.take_take, List.take_take, Nat.min_eq_left hsize] at hhead
      exact FileHeader.decode_eq_of_take_eq hhead

/-- Tailers that have emitted the same entries agree, if one of them never waited. -/
theorem Tally.agrees {header : FileHeader} {closing : List Line} {t t₀ : Tailer}
    (h : Tally o header deeds closing t)
    (h₀ : Tally o header ((Deed.entries deeds).map .emitted) closing t₀)
    (hclosing : closing.filter (fun l => !l.isResetting) = closing) :
    t₀.records = t.records ∧ t₀.offset = t.offset ∧ t₀.waits = #[]
      ∧ t₀.lines.toList = t.lines.toList.filter (fun l => !l.isResetting) := by
  refine ⟨?_, ?_, ?_, ?_⟩
  · rw [h.records, h₀.records, Deed.entries_map_emitted]
  · rw [h.offset, h₀.offset, Deed.entries_map_emitted]
  · have hwaits := h₀.waits
    rw [pauses_map_emitted] at hwaits
    exact Array.toList_inj.mp hwaits
  · rw [h.lines, h₀.lines, List.filter_append, List.filter_cons_of_pos rfl, filter_history,
      history_map_emitted, hclosing]

/-- A file that ends inside the frame of its record at first, in zeros; the frame is written
during a wait. -/
def Scene.growing : Scene where
  content := Log.single.bytes.take 20 ++ List.replicate 20 0
  script := [[.edit (.write 16 LogRecord.plain.bytes)]]

/-- A run on the growing file waits once and then emits the record. -/
theorem run_growing :
    ∃ t, run { options := .plain } .growing = (.ok 1, t, { content := Log.single.bytes })
      ∧ t.phase = .done
      ∧ t.waits = #[⟨.finite false 1 0, .sleep, 16, 0⟩] := by
  have hsound := sound_opening { options := .plain } .growing Log.single.header
  have hopening : Reaches { options := .plain } .growing []
      (opening { options := .plain } .growing Log.single.header) :=
    reaches_opening rfl (by decide)
  -- The length field is not written yet.
  have hasleep := (Moment.fallsAsleep_iff hsound).mpr
    ⟨rfl, look_of_lengthField_eq_zero (by decide) (by decide), rfl⟩
  have hwaited := (Moment.step_waited_iff hsound).mpr
    ⟨{ content := Log.single.bytes }, hasleep, by decide, rfl⟩
  -- After the wait the record is there, and nothing is behind it.
  have hemitted := (Moment.step_emitted_iff (hwaited.sound hsound)).mpr
    ⟨rfl, LogRecord.look_bytes (r := .plain) (List.append_nil _).symm, rfl⟩
  have hreach := (hopening.snoc rfl hwaited).snoc rfl hemitted
  have hlook : Options.look .plain (Cursor.seek Log.single.bytes 62) = .ended 0 :=
    look_of_length_lt (by decide)
  obtain ⟨last, hends⟩ := hreach.ends rfl rfl (.inl ⟨0, hlook⟩)
  obtain ⟨-, hrun⟩ := hends.of_ended (hreach.sound rfl) rfl hlook
  exact ⟨_, hrun, rfl, rfl⟩

/-- A run that is done or refused something while the file grew, no wait changing the bytes before
its offset, has the outcome, the phase, the count and the offset of a run on the final file, and
printed the same but for the lines that announce its waits. -/
theorem run_followed (o : Options) (s : Scene) (hpresent : s.present = true)
    {outcome : Except Error Nat} {t : Tailer} {final : Scene}
    (hrun : run { options := o } s = (outcome, t, final)) (hkeeps : s.Keeps t.waits)
    (hover : t.phase = .done ∨ t.phase = .fatal) :
    ∃ t₀, run { options := o } { content := final.content }
        = (outcome, t₀, { content := final.content })
      ∧ t₀.phase = t.phase
      ∧ t₀.records = t.records
      ∧ t₀.offset = t.offset
      ∧ t₀.waits = #[]
      ∧ t₀.lines.toList = t.lines.toList.filter (fun l => !l.isResetting) := by
  have hwaits : (run { options := o } s).2.1.waits = t.waits := by rw [hrun]
  rw [← hwaits] at hkeeps
  cases hheader : FileHeader.decode s.content with
  | error e =>
    rw [run_of_header_error rfl hpresent hheader, Prod.mk.injEq, Prod.mk.injEq] at hrun
    obtain ⟨rfl, rfl, rfl⟩ := hrun
    exact ⟨_, run_of_header_error rfl rfl hheader, rfl, rfl, rfl, rfl, rfl⟩
  | ok header =>
    obtain ⟨deeds, m, last, hreach, hends⟩ := exists_reaches_ends
      (t := { options := o }) rfl hpresent hheader
    have hsound := hreach.sound rfl
    have htally := hreach.tally hheader
    -- The run on the file as it is now comes to a moment with the same cursor.
    have hheader₀ := (hreach.decode_eq hpresent hkeeps).trans hheader
    obtain ⟨t₀, hreach₀⟩ := reaches_of_reads (s := { content := m.scene.content })
      (fun _ => rfl) hheader₀ (hreach.reads hpresent hkeeps)
    have hsound₀ := hreach₀.sound rfl
    have htally₀ := hreach₀.tally hheader₀
    have hoptions : m.tailer.options = t₀.options := by rw [htally.options, htally₀.options]
    rw [hrun] at hends
    -- It sees the same there, and so it ends there in the same way.
    cases hends with
    | @finished pending _ hlook =>
      rw [hoptions] at hlook
      obtain ⟨last, hends₀⟩ := hreach₀.ends rfl rfl (.inl ⟨_, hlook⟩)
      obtain ⟨rfl, hrun₀⟩ := hends₀.of_ended hsound₀ rfl hlook
      have hrecords : t₀.records = m.tailer.records := (htally.agrees htally₀ rfl).1
      have hfinished₀ : Tally o header _ [.finished t₀.records] (t₀.finished t₀.offset pending) :=
        htally₀.finished t₀.offset pending
      rw [hrecords] at hfinished₀
      refine ⟨t₀.finished t₀.offset pending, ?_, rfl,
        (htally.finished m.tailer.offset pending).agrees hfinished₀ rfl⟩
      rw [hrun₀, ← hrecords]
    | @failed e _ hlook =>
      rw [hoptions] at hlook
      obtain ⟨last, hends₀⟩ := hreach₀.ends rfl rfl (.inr ⟨_, hlook⟩)
      obtain ⟨rfl, hrun₀⟩ := hends₀.of_refused hsound₀ rfl hlook
      have hfailed : Tally o header deeds [] (m.tailer.failed e) := htally.of_eq rfl
      exact ⟨_, hrun₀, rfl, hfailed.agrees (htally₀.of_eq rfl) rfl⟩
    | cancelled _ =>
      obtain hdone | hfatal := hover
      · contradiction
      · contradiction
    | interrupted _ _ =>
      obtain hdone | hfatal := hover
      · contradiction
      · contradiction

/-- The run on the growing file against the run on the final one. -/
theorem run_followed_growing :
    ∃ t t₀, run { options := .plain } .growing = (.ok 1, t, { content := Log.single.bytes })
      ∧ run { options := .plain } { content := Log.single.bytes }
        = (.ok 1, t₀, { content := Log.single.bytes })
      ∧ t₀.phase = t.phase
      ∧ t₀.records = t.records
      ∧ t₀.offset = t.offset
      ∧ t₀.waits = #[]
      ∧ t₀.lines.toList = t.lines.toList.filter (fun l => !l.isResetting) := by
  obtain ⟨t, hrun, hphase, hwaits⟩ := run_growing
  have hkeeps : Scene.growing.Keeps t.waits := by
    rw [hwaits]
    intro n w hw
    cases n with
    | zero =>
      obtain rfl := Option.some.inj hw
      decide
    | succ n => simp at hw
  obtain ⟨t₀, h⟩ := run_followed .plain .growing rfl hrun hkeeps (.inl hphase)
  exact ⟨t, t₀, hrun, h⟩

end Tailer

end TxnLog
