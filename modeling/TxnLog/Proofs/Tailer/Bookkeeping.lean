import TxnLog.Proofs.Log
import TxnLog.Proofs.Tailer.Run

/-!
# The bookkeeping of a run

The offset, the number of transactions, the printed lines and the recorded waits of a tailer are
kept by different actions at different times. `Tally` says what they are after some deeds: the
offset is behind the emitted frames, the number is that of the emitted entries, the lines are the
banner and what is printed for each deed, and every wait is recorded as it was entered. A step
keeps the tally (`Step.tally`), so it holds all along a run, and where the run ends it is closed
in a way that depends on the outcome (`Concluded`). An error leaves no trace in it.
-/

namespace TxnLog.Tailer

/-- The entries that are emitted by deeds, in order. -/
def Deed.entries (deeds : List Deed) : List Entry :=
  deeds.filterMap fun
    | .emitted e => some e
    | .waited => none

/-- What is printed for deeds, after `records` transactions. -/
def history (d : Display) : (records : Nat) → List Deed → List Line
  | _, [] => []
  | records, .emitted e :: deeds => Line.ofTxn d e.txn ++ history d (records + 1) deeds
  | records, .waited :: deeds =>
    (if d.verbose then [.resetting records] else []) ++ history d records deeds

/-- The waits among deeds, as they are entered from the frame at `offset` on and after `records`
transactions. -/
def pauses (o : Options) : (offset records : Nat) → List Deed → List Wait
  | _, _, [] => []
  | offset, records, .emitted e :: deeds =>
    pauses o (offset + e.frame.size) (records + 1) deeds
  | offset, records, .waited :: deeds =>
    ⟨o.timeout, .sleep, offset, records⟩ :: pauses o offset records deeds

/-- What a tailer has kept of its deeds; `closing` are the lines printed after them. -/
structure Tally (o : Options) (header : FileHeader) (deeds : List Deed) (closing : List Line)
    (t : Tailer) : Prop where
  /-- The options are those of the run. -/
  options : t.options = o
  /-- The offset is behind the header and the emitted frames. -/
  offset : t.offset = FileHeader.size + Entry.totalSize (Deed.entries deeds)
  /-- The emitted entries are counted. -/
  records : t.records = (Deed.entries deeds).length
  /-- The banner is printed, and what there is to print for each deed. -/
  lines : t.lines.toList = .banner header :: history o.display 0 deeds ++ closing
  /-- Every wait is recorded as it was entered. -/
  waits : t.waits.toList = pauses o FileHeader.size 0 deeds

/-! ### One deed more -/

/-- A deed that emits an entry puts it before those of the others. -/
theorem Deed.entries_emitted_cons (e : Entry) (deeds : List Deed) :
    entries (.emitted e :: deeds) = e :: entries deeds := rfl

/-- A wait puts no entry before those of the others. -/
theorem Deed.entries_waited_cons (deeds : List Deed) :
    entries (.waited :: deeds) = entries deeds := rfl

/-- The size of an entry and of others. -/
theorem Entry.totalSize_cons (e : Entry) (entries : List Entry) :
    Entry.totalSize (e :: entries) = e.frame.size + Entry.totalSize entries := rfl

/-- The entries of deeds one after the other. -/
theorem Deed.entries_append (deeds more : List Deed) :
    entries (deeds ++ more) = entries deeds ++ entries more := List.filterMap_append

/-- A deed that emits an entry adds it. -/
theorem Deed.entries_emitted (deeds : List Deed) (e : Entry) :
    entries (deeds ++ [.emitted e]) = entries deeds ++ [e] := entries_append ..

/-- A wait adds no entry. -/
theorem Deed.entries_waited (deeds : List Deed) :
    entries (deeds ++ [.waited]) = entries deeds := by
  rw [entries_append]
  exact List.append_nil _

/-- No entry is emitted where a run ends. -/
theorem Moment.Ends.entries_append {m : Moment} {last : List Deed}
    {r : Except Error Nat × Tailer × Scene} (hends : m.Ends last r) (deeds : List Deed) :
    Deed.entries (deeds ++ last) = Deed.entries deeds := by
  cases hends with
  | interrupted _ _ => exact Deed.entries_waited deeds
  | _ => rw [List.append_nil]

/-- What is printed for deeds one after the other. -/
theorem history_append (d : Display) (records : Nat) (deeds more : List Deed) :
    history d records (deeds ++ more) = history d records deeds
      ++ history d (records + (Deed.entries deeds).length) more := by
  induction deeds generalizing records with
  | nil => rfl
  | cons deed deeds ih =>
    cases deed with
    | emitted e =>
      rw [List.cons_append, history, history, ih, List.append_assoc]
      simp only [Deed.entries, List.filterMap_cons, List.length_cons]
      rw [Nat.add_right_comm, Nat.add_assoc]
    | waited => rw [List.cons_append, history, history, ih, List.append_assoc]; rfl

/-- The waits among deeds one after the other. -/
theorem pauses_append (o : Options) (offset records : Nat) (deeds more : List Deed) :
    pauses o offset records (deeds ++ more) = pauses o offset records deeds
      ++ pauses o (offset + Entry.totalSize (Deed.entries deeds))
        (records + (Deed.entries deeds).length) more := by
  induction deeds generalizing offset records with
  | nil => rfl
  | cons deed deeds ih =>
    cases deed with
    | emitted e =>
      rw [List.cons_append, pauses, pauses, ih]
      simp only [Deed.entries, Entry.totalSize, List.filterMap_cons, List.map_cons,
        List.sum_cons, List.length_cons]
      rw [Nat.add_assoc, Nat.add_assoc, Nat.add_comm 1]
    | waited => rw [List.cons_append, pauses, pauses, ih]; rfl

section

variable {o : Options} {header : FileHeader} {deeds : List Deed} {t : Tailer}

/-- A tailer that has opened a file has printed the banner. -/
theorem tally_opened (o : Options) (header : FileHeader) :
    Tally o header [] [] (opened { options := o } header) :=
  ⟨rfl, rfl, rfl, rfl, rfl⟩

/-- The length of a wait is that of the options. -/
theorem Tally.timeout_eq {closing : List Line} (h : Tally o header deeds closing t) :
    t.timeout = o.timeout := by
  rw [Tailer.timeout, h.options]

/-- Emitting the entry at the offset keeps the tally. -/
theorem Tally.emitted {e : Entry} (h : Tally o header deeds [] t)
    (hoffset : e.frame.offset = t.offset) :
    Tally o header (deeds ++ [.emitted e]) [] (t.emitted e) := by
  have hentries := Deed.entries_emitted deeds e
  refine ⟨h.options, ?_, ?_, ?_, ?_⟩
  -- The frame starts where the emitted ones end.
  · show e.frame.endOffset = _
    rw [Frame.endOffset, hoffset, h.offset, hentries]
    simp [Entry.totalSize, Nat.add_assoc]
  · show t.records + 1 = _
    rw [h.records, hentries, List.length_append, List.length_singleton]
  · show (t.lines ++ (Line.ofTxn t.options.display e.txn).toArray).toList = _
    rw [history_append, h.options, Array.toList_append, h.lines]
    simp [history]
  · show t.waits.toList = _
    rw [pauses_append, h.waits, pauses, pauses, List.append_nil]

/-- Falling asleep at the offset keeps the tally. -/
theorem Tally.asleep (h : Tally o header deeds [] t) :
    Tally o header (deeds ++ [.waited]) [] (t.asleep t.offset) := by
  have hentries := Deed.entries_waited deeds
  refine ⟨h.options, ?_, ?_, ?_, ?_⟩
  · rw [hentries]
    exact h.offset
  · rw [hentries]
    exact h.records
  · rw [history_append, Nat.zero_add, ← h.records]
    simp only [Tailer.asleep, h.options]
    split
    · simp [h.lines, history, *]
    · simp [h.lines, history, *]
  · show (t.waits.push ⟨t.timeout, .sleep, t.offset, t.records⟩).toList = _
    rw [pauses_append, Nat.zero_add, ← h.records, ← h.offset, Array.toList_push, h.waits,
      h.timeout_eq]
    rfl

/-- Finding the end of the file closes the lines. -/
theorem Tally.finished (h : Tally o header deeds [] t) (offset pending : Nat) :
    Tally o header deeds [.finished t.records] (t.finished offset pending) := by
  refine ⟨h.options, h.offset, h.records, ?_, h.waits⟩
  show (t.lines.push (.finished t.records)).toList = _
  rw [Array.toList_push, h.lines, List.append_nil]

/-- A change of the phase and of the reports keeps the tally. -/
theorem Tally.of_eq {closing : List Line} {t' : Tailer} (h : Tally o header deeds closing t)
    (heq : t' = { t with phase := t'.phase, reports := t'.reports }) :
    Tally o header deeds closing t' := by
  rw [heq]
  exact ⟨h.options, h.offset, h.records, h.lines, h.waits⟩

/-! ### All along a run -/

/-- A step keeps the tally. -/
theorem Moment.Step.tally {m m' : Moment} {d : Deed} (hstep : m.Step d m') (hsound : m.Sound)
    (h : Tally o header deeds [] m.tailer) : Tally o header (deeds ++ [d]) [] m'.tailer := by
  cases d with
  | emitted e =>
    obtain ⟨-, hlook, rfl⟩ := (Moment.step_emitted_iff hsound).mp hstep
    have hoffset := (look_eq_entry_iff.mp hlook).2.1
    exact h.emitted (hoffset.trans hsound.position)
  | waited =>
    obtain ⟨s, -, -, rfl⟩ := (Moment.step_waited_iff hsound).mp hstep
    exact h.asleep.of_eq rfl

/-- The tally is right all along a run. -/
theorem Reaches.tally {s : Scene} {m : Moment} (h : Reaches { options := o } s deeds m)
    (hheader : FileHeader.decode s.content = .ok header) :
    Tally o header deeds [] m.tailer := by
  refine h.induct rfl (motive := fun deeds m => Tally o header deeds [] m.tailer) ?_ ?_
  · intro header' hheader'
    obtain rfl := Except.ok.inj (hheader.symm.trans hheader')
    exact tally_opened o header
  · intro deeds m d m' _ hsound hstep ih
    exact hstep.tally hsound ih

/-- A tailer that falls asleep is in the phase for it, has just recorded the wait, and keeps the
tally. -/
theorem Moment.FallsAsleep.tally {m : Moment} {t : Tailer} (hasleep : m.FallsAsleep t)
    (hsound : m.Sound) (h : Tally o header deeds [] m.tailer) :
    t.phase = .sleep ∧ t.waits = m.tailer.waits.push ⟨o.timeout, .sleep, t.offset, t.records⟩
      ∧ Tally o header (deeds ++ [.waited]) [] t := by
  obtain ⟨-, -, rfl⟩ := (Moment.fallsAsleep_iff hsound).mp hasleep
  refine ⟨rfl, ?_, h.asleep⟩
  rw [← h.timeout_eq]
  rfl

/-- What a run leaves behind after all its deeds, by its outcome. -/
def Concluded (o : Options) (header : FileHeader) (deeds : List Deed) :
    Except Error Nat × Tailer × Scene → Prop
  -- The end of the file is met, and only then the lines are closed.
  | (.ok records, t, _) =>
    t.phase = .done ∧ t.records = records ∧ Tally o header deeds [.finished records] t
  | (.error (.interrupted records), t, _) =>
    t.phase = .cancelled ∧ t.records = records ∧ Tally o header deeds [] t
  -- What is refused starts at the offset.
  | (.error e, t, s) =>
    t.phase = .fatal ∧ o.look (Cursor.seek s.content t.offset) = .refused e
      ∧ (∀ offset stored computed,
        e = .checksumMismatch offset stored computed → offset = t.offset)
      ∧ Tally o header deeds [] t

/-- The lines that are printed after all deeds of a run, by its outcome. -/
def closing : Except Error Nat → List Line
  | .ok records => [.finished records]
  | .error _ => []

/-- What a run leaves behind keeps the tally of all its deeds. -/
theorem Concluded.tally {outcome : Except Error Nat} {final : Scene}
    (h : Concluded o header deeds (outcome, t, final)) :
    Tally o header deeds (closing outcome) t := by
  cases outcome with
  | ok records => exact h.2.2
  | error e =>
    cases e with
    | interrupted records => exact h.2.2
    | _ => exact h.2.2.2

/-- Where a run ends, the tally is right and closed. -/
theorem Moment.Ends.concluded {m : Moment} {last : List Deed}
    {r : Except Error Nat × Tailer × Scene} (hends : m.Ends last r) (hsound : m.Sound)
    (h : Tally o header deeds [] m.tailer) : Concluded o header (deeds ++ last) r := by
  cases hends with
  | finished _ _ =>
    rw [List.append_nil]
    exact ⟨rfl, rfl, h.finished ..⟩
  | @failed e _ hlook =>
    rw [List.append_nil]
    have hfatal := isFatal_of_look hlook
    have hseek : o.look (Cursor.seek m.scene.content m.tailer.offset) = .refused e := by
      rw [← hsound.cursor, ← h.options]
      exact hlook
    have hrefused : (m.tailer.failed e).phase = .fatal
        ∧ o.look (Cursor.seek m.scene.content (m.tailer.failed e).offset) = .refused e
        ∧ (∀ offset stored computed, e = .checksumMismatch offset stored computed →
          offset = (m.tailer.failed e).offset)
        ∧ Tally o header deeds [] (m.tailer.failed e) := by
      refine ⟨rfl, hseek, ?_, h.of_eq rfl⟩
      rintro offset stored computed rfl
      exact offset_of_look hseek
    -- An interruption is not refused, and every other error is settled in one way.
    cases e with
    | interrupted records => contradiction
    | _ => exact hrefused
  | cancelled _ =>
    rw [List.append_nil]
    exact ⟨rfl, rfl, h.of_eq rfl⟩
  | interrupted hasleep _ =>
    exact ⟨rfl, rfl, (hasleep.tally hsound h).2.2.of_eq rfl⟩

/-- In every run of a fresh tailer on a file with a header, wherever a turn is taken the cursor
is at the offset in the file as it is, and offset, count, lines and waits are what the emitted
frames and the waits so far make them; so they are in every wait, and at the end, where only the
line about the end of the file is added, and only if it is met. Of a frame that is refused
nothing is printed or counted, and the offset is its start. Without a header nothing is printed
or counted at all. -/
theorem run_keeps_tally (o : Options) (s : Scene) (hpresent : s.present = true) :
    match FileHeader.decode s.content with
    | .error e => run { options := o } s
        = (.error (.header e), { options := o, phase := .fatal }, s)
    | .ok header =>
      (∀ deeds m, Reaches { options := o } s deeds m →
        m.cursor = Cursor.seek m.scene.content m.tailer.offset
          ∧ Tally o header deeds [] m.tailer
          ∧ ∀ t, m.FallsAsleep t → t.phase = .sleep
            ∧ t.waits = m.tailer.waits.push ⟨o.timeout, .sleep, t.offset, t.records⟩
            ∧ Tally o header (deeds ++ [.waited]) [] t)
      ∧ ∃ deeds m last, Reaches { options := o } s deeds m
          ∧ m.Ends last (run { options := o } s)
          ∧ Concluded o header (deeds ++ last) (run { options := o } s) := by
  cases hheader : FileHeader.decode s.content with
  | error e => exact run_of_header_error rfl hpresent hheader
  | ok header =>
    refine ⟨fun deeds m hreach => ?_, ?_⟩
    · have hsound := hreach.sound rfl
      have htally := hreach.tally hheader
      exact ⟨hsound.cursor, htally, fun t hasleep => hasleep.tally hsound htally⟩
    · obtain ⟨deeds, m, last, hreach, hends⟩ := exists_reaches_ends
        (t := { options := o }) rfl hpresent hheader
      exact ⟨deeds, m, last, hreach, hends,
        hends.concluded (hreach.sound rfl) (hreach.tally hheader)⟩

/-- The tally at the end of a run on a log of one record. -/
theorem run_keeps_tally_single :
    ∃ deeds m last, Reaches { options := .plain } { content := Log.single.bytes } deeds m
      ∧ m.Ends last (run { options := .plain } { content := Log.single.bytes })
      ∧ Concluded .plain Log.single.header (deeds ++ last)
        (run { options := .plain } { content := Log.single.bytes }) := by
  have hkeeps := run_keeps_tally .plain { content := Log.single.bytes } rfl
  have hheader : FileHeader.decode ({ content := Log.single.bytes } : Scene).content
      = .ok Log.single.header := Log.single.decode_head _
  rw [hheader] at hkeeps
  exact hkeeps.2

end

end TxnLog.Tailer
