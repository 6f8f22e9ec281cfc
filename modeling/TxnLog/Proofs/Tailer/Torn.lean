import TxnLog.Proofs.Tailer.Following

/-!
# Files of which only the first bytes are written

A writer extends a file with zeros ahead of time, so at any time the file holds the first bytes
of a log, cut anywhere, and zeros behind them. At the start of a record that is not completely
written no frame is seen, and nothing is wrong with a length, a checksum or a payload
(`look_cut`). So however the cut moves on during a run, what is emitted are the first records of
the log, all of them before the cut (`Reaches.progress`), and where the run waits or ends by
itself it has left out none that is (`Reaches.showsAll`).
-/

namespace TxnLog

/-- The content holds the first `cut` bytes of the log, and zeros behind them. -/
def Log.ShownIn {o : Tailer.Options} (log : Log o) (cut : Nat) (content : Bytes) : Prop :=
  ∃ zeros, content = log.bytes.take cut ++ List.replicate zeros 0

namespace Tailer

variable {o : Options}

/-- What is seen is neither an entry, nor a wrong length, checksum or payload. -/
def Sight.Unfinished : Sight → Prop
  | .unwritten | .ended _ => True
  | .refused (.frame (.missingTrailer _)) | .refused (.frame (.wrongTrailer ..)) => True
  | .entry _ | .refused _ => False

/-- Where no frame is read and no length is refused, what is seen is unfinished. -/
theorem look_unfinished {c : Cursor}
    (h : Frame.Unfinished (Frame.read .unlimited o.frameLimit c).1) :
    (o.look c).Unfinished := by
  unfold Options.look
  generalize (Frame.read .unlimited o.frameLimit c).1 = found at h
  rcases found with cause | f | offset | ⟨offset, pending⟩
  · cases cause with
    | unreasonableLength => contradiction
    | missingTrailer => trivial
    | wrongTrailer => trivial
  · contradiction
  · trivial
  · trivial

/-- Where the first bytes of stored records are written and zeros follow, the first record is
seen if it is completely written, and otherwise what is seen is unfinished. -/
theorem look_cut {c : Cursor} {records : List (LogRecord o)} {n zeros : Nat}
    (hrest : c.rest = (LogRecord.stored records).take n ++ List.replicate zeros 0) :
    (∃ r more, records = r :: more ∧ r.bytes.length ≤ n
        ∧ o.look c = .entry (r.entry c.position))
      ∨ (∀ r more, records = r :: more → n < r.bytes.length)
        ∧ (o.look c).Unfinished := by
  have hunlimited := CallLimit.productive_unlimited
  cases records with
  -- Only zeros are ahead.
  | nil =>
    rw [show LogRecord.stored ([] : List (LogRecord o)) = [] from rfl, List.take_nil] at hrest
    exact .inr ⟨by simp, look_unfinished (Frame.read_zeros hunlimited _ hrest)⟩
  | cons r more =>
    rw [LogRecord.stored_cons] at hrest
    -- The cut is behind the first record or in it.
    by_cases hwritten : r.bytes.length ≤ n
    · rw [List.take_append, List.take_of_length_le hwritten, List.append_assoc] at hrest
      exact .inl ⟨r, more, rfl, hwritten, LogRecord.look_bytes hrest⟩
    · rw [List.take_append_of_le_length (by omega)] at hrest
      have hn : n < (r.frame 0).size := by
        rw [← r.length_bytes]
        omega
      refine .inr ⟨?_, look_unfinished
        (Frame.read_torn hunlimited (r.wellFormed_frame 0) hn hrest)⟩
      intro r' more' heq
      rw [← (List.cons.inj heq).1]
      omega

/-- Behind the header and some of the records, the content holds the first bytes of the others,
and zeros behind them. -/
theorem rest_of_shownIn {log : Log o} {cut : Nat} {content : Bytes}
    (hshown : log.ShownIn cut content) {done todo : List (LogRecord o)}
    (hrecords : log.records = done ++ todo) {offset : Nat}
    (hoffset : offset = FileHeader.size + (LogRecord.stored done).length) (hcut : offset ≤ cut) :
    ∃ zeros, (Cursor.seek content offset).rest
      = (LogRecord.stored todo).take (cut - offset) ++ List.replicate zeros 0 := by
  obtain ⟨zeros, rfl⟩ := hshown
  have hbytes : log.bytes = (log.head ++ LogRecord.stored done) ++ LogRecord.stored todo := by
    unfold Log.bytes
    rw [hrecords, LogRecord.stored_append, List.append_assoc]
  have hlength : (log.head ++ LogRecord.stored done).length = offset := by
    rw [List.length_append, log.length_head, hoffset]
  refine ⟨zeros, ?_⟩
  rw [Cursor.seek_rest, List.drop_append_of_le_length, List.drop_take, hbytes,
    List.drop_left' hlength]
  rw [List.length_take, hbytes, List.length_append, hlength]
  omega

/-- What a run has emitted are the first records of a log, all of them before the cut. -/
structure Progress (log : Log o) (cut : Nat) (done todo : List (LogRecord o)) (deeds : List Deed)
    (t : Tailer) : Prop where
  /-- Some records are emitted, and the others are to come. -/
  records : log.records = done ++ todo
  /-- The emitted entries are those of the first records. -/
  entries : Deed.entries deeds = LogRecord.entries FileHeader.size done
  /-- They end before the cut. -/
  written : t.offset ≤ cut

namespace Progress

variable {log : Log o} {cut : Nat} {done todo : List (LogRecord o)} {deeds : List Deed}
  {t : Tailer}

/-- A change that leaves the offset, and a later cut, keep the progress. -/
theorem of_le {cut' : Nat} (h : Progress log cut done todo deeds t) (t' : Tailer)
    (hoffset : t'.offset = t.offset) (hcut : cut ≤ cut') :
    Progress log cut' done todo deeds t' := by
  refine ⟨h.records, h.entries, ?_⟩
  rw [hoffset]
  exact Nat.le_trans h.written hcut

/-- Waiting emits nothing. -/
theorem waited (h : Progress log cut done todo deeds t) :
    Progress log cut done todo (deeds ++ [.waited]) (t.asleep t.offset) := by
  refine ⟨h.records, ?_, h.written⟩
  rw [Deed.entries_waited, h.entries]

/-- From the tally, the offset is behind the emitted records. -/
theorem offset_eq {closing : List Line} (h : Progress log cut done todo deeds t)
    (htally : Tally o log.header deeds closing t) :
    t.offset = FileHeader.size + (LogRecord.stored done).length := by
  rw [htally.offset, h.entries, LogRecord.totalSize_entries]

/-- From the tally, the number is that of the emitted records. -/
theorem records_eq {closing : List Line} (h : Progress log cut done todo deeds t)
    (htally : Tally o log.header deeds closing t) : t.records = done.length := by
  rw [htally.records, h.entries, LogRecord.length_entries]

end Progress

/-- The header of a log is read as soon as it is written. -/
theorem decode_of_shownIn {log : Log o} {cut : Nat} {content : Bytes}
    (hshown : log.ShownIn cut content) (hcut : FileHeader.size ≤ cut) :
    FileHeader.decode content = .ok log.header := by
  obtain ⟨zeros, rfl⟩ := hshown
  unfold Log.bytes
  rw [List.take_append, List.take_of_length_le (by rw [log.length_head]; exact hcut),
    List.append_assoc]
  exact log.decode_head _

section

variable {log : Log o} {s : Scene} {cut : Nat → Nat} (hpresent : s.present = true)
  (hcut : ∀ n, cut n ≤ cut (n + 1)) (hfirst : FileHeader.size ≤ cut 0)
  (hshown : ∀ n ≤ (run { options := o } s).2.1.waits.size,
    log.ShownIn (cut n) (s.afterWaits n).content)

include hpresent hshown

/-- The content at a moment of a run. -/
theorem Reaches.shownIn {deeds : List Deed} {m : Moment}
    (h : Reaches { options := o } s deeds m) :
    log.ShownIn (cut m.tailer.waits.size) m.scene.content := by
  rw [h.scene_eq rfl rfl]
  exact hshown _ (h.waits_prefix rfl hpresent).length_le

/-- What is seen at a moment of a run is the next record, if it is completely written, and
otherwise unfinished. -/
theorem Reaches.look_cut {deeds : List Deed} {m : Moment}
    (h : Reaches { options := o } s deeds m)
    (hheader : FileHeader.decode s.content = .ok log.header) {done todo : List (LogRecord o)}
    (hprogress : Progress log (cut m.tailer.waits.size) done todo deeds m.tailer) :
    (∃ r more, todo = r :: more ∧ m.tailer.offset + r.bytes.length ≤ cut m.tailer.waits.size
        ∧ o.look m.cursor = .entry (r.entry m.tailer.offset))
      ∨ (∀ r more, todo = r :: more →
          cut m.tailer.waits.size < m.tailer.offset + r.bytes.length)
        ∧ (o.look m.cursor).Unfinished := by
  have hsound := h.sound rfl
  have hwritten := hprogress.written
  have hoffset := hprogress.offset_eq (h.tally hheader)
  obtain ⟨zeros, hrest⟩ :=
    rest_of_shownIn (h.shownIn hpresent hshown) hprogress.records hoffset hwritten
  rw [← hsound.cursor] at hrest
  obtain ⟨r, more, htodo, hle, hlook⟩ | ⟨htorn, hunfinished⟩ := Tailer.look_cut hrest
  · rw [hsound.position] at hlook
    exact .inl ⟨r, more, htodo, by omega, hlook⟩
  · refine .inr ⟨fun r more htodo => ?_, hunfinished⟩
    have hlt := htorn r more htodo
    omega

include hcut hfirst

/-- However the cut moves on, a run emits the first records of the log, all of them before the
cut. -/
theorem Reaches.progress {deeds : List Deed} {m : Moment}
    (h : Reaches { options := o } s deeds m) :
    ∃ done todo, Progress log (cut m.tailer.waits.size) done todo deeds m.tailer := by
  have hheader := decode_of_shownIn (hshown 0 (Nat.zero_le _)) hfirst
  refine h.induct rfl (motive := fun deeds m =>
    ∃ done todo, Progress log (cut m.tailer.waits.size) done todo deeds m.tailer) ?_ ?_
  · intro header _
    exact ⟨[], log.records, rfl, rfl, hfirst⟩
  · intro deeds m d m' hreach hsound hstep ⟨done, todo, hprogress⟩
    cases d with
    | emitted e =>
      obtain ⟨-, hlook, rfl⟩ := (Moment.step_emitted_iff hsound).mp hstep
      rw [hreach.options_eq] at hlook
      obtain ⟨r, more, rfl, hle, hentry⟩ | ⟨-, hunfinished⟩ :=
        hreach.look_cut hpresent hshown hheader hprogress
      · obtain rfl := Sight.entry.inj (hlook.symm.trans hentry)
        have hoffset := hprogress.offset_eq (hreach.tally hheader)
        refine ⟨done ++ [r], more, ?_, ?_, ?_⟩
        · rw [hprogress.records, List.append_assoc, List.singleton_append]
        · rw [Deed.entries_emitted, hprogress.entries, LogRecord.entries_append, hoffset]
          rfl
        · show m.tailer.offset + (r.frame m.tailer.offset).size ≤ _
          rw [← r.length_bytes]
          exact hle
      · rw [hlook] at hunfinished
        contradiction
    | waited =>
      obtain ⟨after, -, -, rfl⟩ := (Moment.step_waited_iff hsound).mp hstep
      have hsize : (m.tailer.asleep m.tailer.offset).waits.size = m.tailer.waits.size + 1 :=
        Array.size_push ..
      have hlater := hcut m.tailer.waits.size
      rw [← hsize] at hlater
      exact ⟨done, todo, hprogress.waited.of_le _ rfl hlater⟩

end

/-- What a tailer has printed of a log are its first records, all of them before the cut, and
then the closing lines. -/
structure ShowsFirst (log : Log o) (cut : Nat) (closing : List Line) (t : Tailer) : Prop where
  /-- There are as many records in the log. -/
  count : t.records ≤ log.records.length
  /-- The offset is behind the first records. -/
  offset : t.offset
    = FileHeader.size + (LogRecord.stored (log.records.take t.records)).length
  /-- They are completely written. -/
  written : t.offset ≤ cut
  /-- Without the announcements the lines are the banner and those of the first records. -/
  lines : t.lines.toList.filter (fun l => !l.isResetting) = .banner log.header
    :: (log.records.take t.records).flatMap (fun r => Line.ofTxn o.display r.txn) ++ closing

/-- From the tally, what is printed are the first records. -/
theorem Progress.showsFirst {log : Log o} {cut : Nat} {done todo : List (LogRecord o)}
    {deeds : List Deed} {t : Tailer} {closing : List Line}
    (h : Progress log cut done todo deeds t) (htally : Tally o log.header deeds closing t)
    (hclosing : closing.filter (fun l => !l.isResetting) = closing) :
    ShowsFirst log cut closing t := by
  have hcount := h.records_eq htally
  have hdone : log.records.take t.records = done := by
    rw [h.records, hcount, List.take_left]
  refine ⟨?_, ?_, h.written, ?_⟩
  · rw [h.records, hcount, List.length_append]
    omega
  · rw [hdone]
    exact h.offset_eq htally
  · rw [hdone, htally.lines, List.filter_append, List.filter_cons_of_pos rfl, filter_history,
      hclosing, h.entries, LogRecord.txn_entries, List.flatMap_map]

/-- No record of the log but those that the tailer has emitted ends before the cut. -/
def ShowsAll (log : Log o) (cut : Nat) (t : Tailer) : Prop :=
  ∀ r, log.records[t.records]? = some r → cut < t.offset + r.bytes.length

/-- If the next record does not end before the cut, none does. -/
theorem Progress.showsAll {log : Log o} {cut : Nat} {done todo : List (LogRecord o)}
    {deeds : List Deed} {t : Tailer} {closing : List Line}
    (h : Progress log cut done todo deeds t) (htally : Tally o log.header deeds closing t)
    (htorn : ∀ r more, todo = r :: more → cut < t.offset + r.bytes.length) :
    ShowsAll log cut t := by
  intro r hr
  rw [h.records, h.records_eq htally, List.getElem?_append_right (Nat.le_refl _),
    Nat.sub_self] at hr
  cases todo with
  | nil => simp at hr
  | cons r' more =>
    obtain rfl := Option.some.inj hr
    exact htorn _ more rfl

/-- The ways in which a run on a file that is being written may end. -/
def EndsHarmlessly : Except Error Nat → Phase → Prop
  | .ok _, .done => True
  | .error (.interrupted _), .cancelled => True
  | .error (.frame (.missingTrailer _)), .fatal => True
  | .error (.frame (.wrongTrailer ..)), .fatal => True
  | _, _ => False

/-- Where a run ends, it has printed the first records, and it does not end for a wrong length,
checksum or payload. -/
theorem Moment.Ends.showsFirst {m : Moment} {deeds last : List Deed}
    {r : Except Error Nat × Tailer × Scene} (hends : m.Ends last r) (hsound : m.Sound)
    {log : Log o} (htally : Tally o log.header deeds [] m.tailer) {cut : Nat → Nat}
    (hcut : ∀ n, cut n ≤ cut (n + 1)) {done todo : List (LogRecord o)}
    (hprogress : Progress log (cut m.tailer.waits.size) done todo deeds m.tailer)
    (hlast : (∃ e, o.look m.cursor = .entry e)
      ∨ ShowsAll log (cut m.tailer.waits.size) m.tailer ∧ (o.look m.cursor).Unfinished) :
    EndsHarmlessly r.1 r.2.1.phase
      ∧ ShowsFirst log (cut r.2.1.waits.size) (closing r.1) r.2.1
      ∧ (r.2.1.phase ≠ .cancelled → ShowsAll log (cut r.2.1.waits.size) r.2.1) := by
  cases hends with
  | @finished pending _ hlook =>
    rw [htally.options] at hlook
    rw [hlook] at hlast
    obtain ⟨e, heq⟩ | ⟨hall, -⟩ := hlast
    · contradiction
    have hfinished := hprogress.of_le (m.tailer.finished m.tailer.offset pending) rfl
      (Nat.le_refl _)
    exact ⟨trivial, hfinished.showsFirst (htally.finished ..) rfl, fun _ => hall⟩
  | @failed e _ hlook =>
    rw [htally.options] at hlook
    rw [hlook] at hlast
    obtain ⟨e, heq⟩ | ⟨hall, hunfinished⟩ := hlast
    · contradiction
    have hfailed := hprogress.of_le (m.tailer.failed e) rfl (Nat.le_refl _)
    refine ⟨?_, hfailed.showsFirst (htally.of_eq rfl) rfl, fun _ => hall⟩
    cases e with
    | frame cause => cases cause <;> trivial
    | _ => contradiction
  | cancelled _ =>
    have hgaveUp := hprogress.of_le m.tailer.gaveUp rfl (Nat.le_refl _)
    exact ⟨trivial, hgaveUp.showsFirst (htally.of_eq rfl) rfl, fun hphase => absurd rfl hphase⟩
  | interrupted hasleep _ =>
    obtain ⟨-, -, rfl⟩ := (Moment.fallsAsleep_iff hsound).mp hasleep
    -- The wait is recorded, so the cut may have moved on.
    have hsize : (m.tailer.asleep m.tailer.offset).gaveUp.waits.size
        = m.tailer.waits.size + 1 := Array.size_push ..
    have hgaveUp := hprogress.waited.of_le (m.tailer.asleep m.tailer.offset).gaveUp rfl
      (hcut _)
    rw [hsize]
    exact ⟨trivial, hgaveUp.showsFirst (htally.asleep.of_eq rfl) rfl,
      fun hphase => absurd rfl hphase⟩

/-- A run that sees no entry at a moment has printed all records before the cut. -/
theorem Reaches.showsAll {log : Log o} {s : Scene} {cut : Nat → Nat} (hpresent : s.present = true)
    (hshown : ∀ n ≤ (run { options := o } s).2.1.waits.size,
      log.ShownIn (cut n) (s.afterWaits n).content) {deeds : List Deed} {m : Moment}
    (h : Reaches { options := o } s deeds m)
    (hheader : FileHeader.decode s.content = .ok log.header) {done todo : List (LogRecord o)}
    (hprogress : Progress log (cut m.tailer.waits.size) done todo deeds m.tailer) :
    (∃ e, o.look m.cursor = .entry e)
      ∨ ShowsAll log (cut m.tailer.waits.size) m.tailer ∧ (o.look m.cursor).Unfinished := by
  obtain ⟨r, more, -, -, hentry⟩ | ⟨htorn, hunfinished⟩ :=
    h.look_cut hpresent hshown hheader hprogress
  · exact .inl ⟨_, hentry⟩
  · exact .inr ⟨hprogress.showsAll (h.tally hheader) htorn, hunfinished⟩

/-- While the file holds the first bytes of a log, up to a cut that never goes back, and zeros
behind them, a run has printed in every wait and at its end exactly the first records of the log,
all of them before the cut, and unless it is interrupted no other record ends before the cut. The
run is done, interrupted, or misses a trailer. The first bytes of a record, but not all of them,
with zeros behind them are never read as a frame. -/
theorem run_torn (log : Log o) (s : Scene) (hpresent : s.present = true) (cut : Nat → Nat)
    (hcut : ∀ n, cut n ≤ cut (n + 1)) (hfirst : FileHeader.size ≤ cut 0)
    (hshown : ∀ n ≤ (run { options := o } s).2.1.waits.size,
      log.ShownIn (cut n) (s.afterWaits n).content) :
    (∀ deeds m t, Reaches { options := o } s deeds m → m.FallsAsleep t →
      ShowsFirst log (cut m.tailer.waits.size) [] t
        ∧ ShowsAll log (cut m.tailer.waits.size) t)
    ∧ (∃ outcome t final, run { options := o } s = (outcome, t, final)
      ∧ EndsHarmlessly outcome t.phase
      ∧ ShowsFirst log (cut t.waits.size) (closing outcome) t
      ∧ (t.phase ≠ .cancelled → ShowsAll log (cut t.waits.size) t))
    ∧ ∀ (r : LogRecord o) (limit : CallLimit), limit.Productive →
      ∀ n < r.bytes.length, ∀ zeros position f next,
        Frame.read limit o.frameLimit ⟨position, r.bytes.take n ++ List.replicate zeros 0⟩
          ≠ (.ok (.frame f), next) := by
  have hheader := decode_of_shownIn (hshown 0 (Nat.zero_le _)) hfirst
  refine ⟨?_, ?_, ?_⟩
  · intro deeds m t hreach hasleep
    have hsound := hreach.sound rfl
    obtain ⟨done, todo, hprogress⟩ := hreach.progress hpresent hcut hfirst hshown
    have htally := hreach.tally hheader
    obtain ⟨-, hlook, rfl⟩ := (Moment.fallsAsleep_iff hsound).mp hasleep
    refine ⟨hprogress.waited.showsFirst htally.asleep rfl, ?_⟩
    obtain ⟨e, hentry⟩ | ⟨hall, -⟩ := hreach.showsAll hpresent hshown hheader hprogress
    · rw [← htally.options, hlook] at hentry
      contradiction
    · exact hall
  · obtain ⟨deeds, m, last, hreach, hends⟩ := exists_reaches_ends
      (t := { options := o }) rfl hpresent hheader
    have hsound := hreach.sound rfl
    have htally := hreach.tally hheader
    obtain ⟨done, todo, hprogress⟩ := hreach.progress hpresent hcut hfirst hshown
    exact ⟨_, _, _, rfl, hends.showsFirst hsound htally hcut hprogress
      (hreach.showsAll hpresent hshown hheader hprogress)⟩
  -- The last part is about reads, not about runs.
  · intro r limit hlimit n hn zeros position f next hread
    have hunfinished := Frame.read_torn hlimit (r.wellFormed_frame 0)
      (c := ⟨position, r.bytes.take n ++ List.replicate zeros 0⟩)
      (by rwa [← r.length_bytes]) rfl
    rw [hread] at hunfinished
    exact hunfinished

/-- The run on the growing file prints nothing but the banner before its wait, and the record
after it. -/
theorem run_torn_growing :
    (∀ deeds m t, Reaches { options := .plain } .growing deeds m → m.FallsAsleep t →
      ShowsFirst Log.single (if m.tailer.waits.size = 0 then 20 else 62) [] t
        ∧ ShowsAll Log.single (if m.tailer.waits.size = 0 then 20 else 62) t)
    ∧ ∃ t, run { options := .plain } .growing = (.ok 1, t, { content := Log.single.bytes })
      ∧ ShowsFirst Log.single 62 [.finished 1] t := by
  obtain ⟨t, hrun, -, hwaits⟩ := run_growing
  have hsize : t.waits.size = 1 := by rw [hwaits]; rfl
  have hshown : ∀ n ≤ (run { options := .plain } .growing).2.1.waits.size,
      Log.single.ShownIn (if n = 0 then 20 else 62) (Scene.growing.afterWaits n).content := by
    rw [hrun, hsize]
    intro n hn
    obtain rfl | rfl : n = 0 ∨ n = 1 := by omega
    · exact ⟨20, rfl⟩
    · exact ⟨0, by decide⟩
  obtain ⟨hasleep, ⟨outcome, t', final, hrun', -, hshows, -⟩, -⟩ := run_torn Log.single .growing rfl
    (fun n => if n = 0 then 20 else 62) (by intro n; split <;> simp) (by decide) hshown
  rw [hrun, Prod.mk.injEq, Prod.mk.injEq] at hrun'
  obtain ⟨rfl, rfl, rfl⟩ := hrun'
  rw [hsize] at hshows
  exact ⟨hasleep, t, hrun, hshows⟩

end Tailer

end TxnLog
