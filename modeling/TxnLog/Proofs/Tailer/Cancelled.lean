import TxnLog.Proofs.Line
import TxnLog.Proofs.Tailer.Bookkeeping
import TxnLog.Proofs.Tailer.Cancelling
import TxnLog.Proofs.Tailer.Lifecycle

/-!
# Cancelled runs

A run that is cancelled at a line completes the unit of that line and then breaks off, with
everything counted that it has printed (`run_cancelled`). Its last step is the one in which the
line is printed: if that emits an entry, the next turn gives up before it reads, and if it announces
a wait, the wait is interrupted. So its deeds are the first ones of the run that nobody cancels, and
what is printed for one deed is a unit.
-/

namespace TxnLog

/-- The position behind the last of some entries, and behind the header if there are none. -/
def Entry.endOf (entries : List Entry) : Nat :=
  (entries.getLast?.map (·.frame.endOffset)).getD FileHeader.size

namespace Tailer

/-! ### Deeds as units -/

/-- What is printed for one deed is no more than a unit. -/
theorem continues_of_mem_history {d : Display} {records : Nat} {x : Deed} {l : Line}
    (h : l ∈ (history d records [x]).tail) : l.continues = true := by
  cases x with
  | emitted e =>
    rw [history, history, List.append_nil] at h
    exact Line.continues_of_mem_tail h
  | waited =>
    rw [history, history, List.append_nil] at h
    split at h
    · contradiction
    · contradiction

/-- What is printed for deeds starts with a unit. -/
theorem continues_head_history {d : Display} {closing : List Line}
    (hclosing : ∀ l ∈ closing.head?, l.continues = false) (records : Nat) (deeds : List Deed) :
    ∀ l ∈ (history d records deeds ++ closing).head?, l.continues = false := by
  induction deeds generalizing records with
  | nil => exact hclosing
  | cons x deeds ih =>
    cases x with
    | emitted e =>
      rintro l hl
      obtain rfl := Option.some.inj hl
      rfl
    | waited =>
      rw [history]
      split
      · rintro l hl
        obtain rfl := Option.some.inj hl
        rfl
      · exact ih records

/-- One summary is printed for every entry. -/
theorem countP_history (d : Display) (records : Nat) (deeds : List Deed) :
    (history d records deeds).countP Line.isSummary = (Deed.entries deeds).length := by
  induction deeds generalizing records with
  | nil => rfl
  | cons x deeds ih =>
    cases x with
    | emitted e =>
      rw [history, List.countP_append, Line.countP_ofTxn, ih, Nat.add_comm]
      rfl
    | waited =>
      rw [history, List.countP_append, ih]
      split
      · exact Nat.zero_add _
      · exact Nat.zero_add _

/-- No line about the end of the file is printed for deeds. -/
theorem finished_notMem_history {d : Display} {records n : Nat} {deeds : List Deed} :
    .finished n ∉ history d records deeds := by
  induction deeds generalizing records with
  | nil => exact List.not_mem_nil
  | cons x deeds ih =>
    cases x with
    | emitted e =>
      rw [history, List.mem_append]
      rintro (h | h)
      · exact Line.finished_notMem_ofTxn h
      · exact ih h
    | waited =>
      rw [history, List.mem_append]
      rintro (h | h)
      · split at h
        · simp at h
        · contradiction
      · exact ih h

/-- The banner is a unit. -/
theorem wholeUnits_banner {header : FileHeader} {d : Display} {closing : List Line}
    (hclosing : ∀ l ∈ closing.head?, l.continues = false) (deeds : List Deed) :
    Line.wholeUnits (.banner header :: history d 0 deeds ++ closing) 1 = [.banner header] := by
  have hafter := continues_head_history hclosing (d := d) 0 deeds
  have hunits : Line.wholeUnits ([] ++ [.banner header] ++ (history d 0 deeds ++ closing)) 1
      = [] ++ [.banner header] :=
    Line.wholeUnits_append (by simp) hafter Nat.one_pos Nat.le.refl
  exact hunits

/-- What is printed for a deed is a unit, if anything is. -/
theorem wholeUnits_snoc {header : FileHeader} {d : Display} {closing : List Line} {k : Nat}
    (hclosing : ∀ l ∈ closing.head?, l.continues = false) {done rest : List Deed} {x : Deed}
    (hbefore : (Line.banner header :: history d 0 done).length < k)
    (hk : k ≤ (Line.banner header :: history d 0 (done ++ [x])).length) :
    Line.wholeUnits (.banner header :: history d 0 (done ++ [x] ++ rest) ++ closing) k
      = .banner header :: history d 0 (done ++ [x]) := by
  have hafter := continues_head_history hclosing (d := d)
    (0 + (Deed.entries (done ++ [x])).length) rest
  have hdone := history_append d 0 done [x]
  rw [history_append d 0 (done ++ [x]) rest, List.cons_append, List.append_assoc]
  rw [hdone] at hk ⊢
  exact Line.wholeUnits_append (fun _ => continues_of_mem_history) hafter hbefore hk

/-! ### Breaking off -/

/-- A run that ends at the moment reads nothing after `k` lines: it gives up whatever is at the
cursor, or its last look is before the lines are printed, and it is interrupted in its wait. -/
def Moment.LooksNoMore (m : Moment) (k : Nat) (last : List Deed) : Prop :=
  last = [] ∧ (∀ c, turn m.scene.cancels c m.tailer
      = (.error (.interrupted m.tailer.records), m.tailer.gaveUp))
    ∨ last = [.waited] ∧ m.tailer.lines.size < k

/-- What becomes of the run in the scene `s` if it is cancelled at its `k`-th line and breaks off
behind the lines `shown`. -/
structure BreaksOff (o : Options) (s : Scene) (k : Nat) (shown : List Line)
    (r : Except Error Nat × Tailer × Scene) : Prop where
  /-- It is interrupted, after the records that it has counted. -/
  outcome : r.1 = .error (.interrupted r.2.1.records)
  /-- It is over. -/
  phase : r.2.1.phase = .cancelled
  /-- Nothing else is printed. -/
  lines : r.2.1.lines.toList = shown
  /-- The records that are printed are counted. -/
  records : r.2.1.records = shown.countP Line.isSummary
  /-- The offset is behind the last of so many records of the whole run. -/
  offset : ∃ deeds m last, Reaches { options := o } s deeds m
    ∧ m.Ends last (run { options := o } s)
    ∧ r.2.1.offset = Entry.endOf ((Deed.entries deeds).take r.2.1.records)
  /-- No frame is read after the line. -/
  unread : ∃ deeds m last, Reaches { options := o } (s.cancelAt k) deeds m ∧ m.Ends last r
    ∧ m.LooksNoMore k last

section

variable {o : Options} {s : Scene} {header : FileHeader} {deeds last : List Deed} {m : Moment}
  {k : Nat}

/-- The offset stays where a run ends. -/
theorem Moment.Ends.offset_eq {r : Except Error Nat × Tailer × Scene} (hends : m.Ends last r)
    (hsound : m.Sound) : r.2.1.offset = m.tailer.offset := by
  cases hends with
  | interrupted hasleep _ =>
    obtain rfl := ((fallsAsleep_iff hsound).mp hasleep).2.2
    rfl
  | _ => rfl

/-- The lines of a run are those of its deeds, and only a run that is done adds one. -/
theorem Moment.Ends.lines_eq {outcome : Except Error Nat} {t : Tailer} {final : Scene}
    (hends : m.Ends last (outcome, t, final)) (hsound : m.Sound)
    (h : Tally o header deeds [] m.tailer) :
    ∃ closing, t.lines.toList = .banner header :: history o.display 0 (deeds ++ last) ++ closing
      ∧ (closing = [] ∨ ∃ n, closing = [.finished n] ∧ outcome = .ok n ∧ t.phase = .done) := by
  have hconcluded := hends.concluded hsound h
  cases outcome with
  | ok n => exact ⟨_, hconcluded.2.2.lines, .inr ⟨n, rfl, rfl, hconcluded.1⟩⟩
  | error e =>
    cases e with
    | interrupted n => exact ⟨[], hconcluded.2.2.lines, .inl rfl⟩
    | _ => exact ⟨[], hconcluded.2.2.2.lines, .inl rfl⟩

/-- A turn of a cancelled run gives up, whatever is at the cursor. -/
theorem Moment.looksNoMore_of_cancels (hsound : m.Sound)
    (hcancels : m.scene.cancels m.tailer.lines.size = true) : m.LooksNoMore k [] := by
  refine .inl ⟨rfl, fun c => ?_⟩
  rw [turn_eq hsound.ready, if_pos hcancels]

/-- The offset of a run is the end of the last entry. -/
theorem Reaches.offset_eq_endOf (h : Reaches { options := o } s deeds m) :
    m.tailer.offset = Entry.endOf (Deed.entries deeds) := by
  refine h.induct rfl
    (motive := fun deeds m => m.tailer.offset = Entry.endOf (Deed.entries deeds)) ?_ ?_
  · intro _ _
    rfl
  · intro deeds m d m' _ hsound hstep ih
    cases d with
    | emitted e =>
      obtain ⟨-, -, rfl⟩ := (Moment.step_emitted_iff hsound).mp hstep
      rw [Deed.entries_emitted]
      simp [Entry.endOf, Tailer.emitted]
    | waited =>
      obtain ⟨after, -, -, rfl⟩ := (Moment.step_waited_iff hsound).mp hstep
      rw [Deed.entries_waited]
      exact ih

/-- A run has printed as many lines as its tailer has kept. -/
theorem Reaches.length_lines (h : Reaches { options := o } s deeds m)
    (hheader : FileHeader.decode s.content = .ok header) :
    (Line.banner header :: history o.display 0 deeds).length = m.tailer.lines.size := by
  have hlines := (h.tally hheader).lines
  rw [List.append_nil] at hlines
  rw [← hlines, Array.length_toList]

variable (hpresent : s.present = true) (hheader : FileHeader.decode s.content = .ok header)
include hpresent hheader

/-- A run that is interrupted after some of the deeds of the whole run breaks off behind their
lines. -/
theorem breaksOff_of {done lastDone rest : List Deed} {m' : Moment} {n : Nat} {t : Tailer}
    {final : Scene} (hreach : Reaches { options := o } s deeds m)
    (hends : m.Ends last (run { options := o } s))
    (hdeeds : deeds ++ last = done ++ lastDone ++ rest)
    (hreach' : Reaches { options := o } (s.cancelAt k) done m')
    (hends' : m'.Ends lastDone (.error (.interrupted n), t, final))
    (hnomore : m'.LooksNoMore k lastDone) :
    BreaksOff o s k (.banner header :: history o.display 0 (done ++ lastDone))
      (run { options := o } (s.cancelAt k)) := by
  have hsound' := hreach'.sound rfl
  obtain ⟨hphase, rfl, htally⟩ := hends'.concluded hsound' (hreach'.tally hheader)
  -- No entry is emitted where either run ends, so those of this one are the first of the other.
  have hentries : Deed.entries deeds = Deed.entries done ++ Deed.entries rest := by
    rw [← hends.entries_append deeds, hdeeds, Deed.entries_append, hends'.entries_append]
  have hrecords : t.records = (Deed.entries done).length := by
    rw [htally.records, hends'.entries_append]
  have hoffset : t.offset = Entry.endOf (Deed.entries done) :=
    (hends'.offset_eq hsound').trans hreach'.offset_eq_endOf
  have hpresent' : (s.cancelAt k).present = true := hpresent
  rw [hreach'.run_of_ends rfl hpresent' hends']
  refine ⟨rfl, hphase, ?_, ?_, ⟨deeds, m, last, hreach, hends, ?_⟩,
    ⟨done, m', lastDone, hreach', hends', hnomore⟩⟩
  · exact htally.lines.trans (List.append_nil _)
  · rw [List.countP_cons_of_neg Bool.false_ne_true, countP_history]
    exact htally.records
  · show t.offset = Entry.endOf ((Deed.entries deeds).take t.records)
    rw [hoffset, hentries, hrecords, List.take_left]

variable (hnever : s.cancelAfter = 0) (hk : 0 < k)
include hnever hk

/-- A run that is cancelled at a line of one of its steps breaks off behind the lines of that
step. -/
theorem Moment.Step.breaksOff {done rest : List Deed} {d : Deed} {m₁ m₂ : Moment}
    (hreach : Reaches { options := o } s deeds m) (hends : m.Ends last (run { options := o } s))
    (hdeeds : deeds ++ last = done ++ [d] ++ rest) (hreach₁ : Reaches { options := o } s done m₁)
    (hlt : m₁.tailer.lines.size < k) (hstep : m₁.Step d m₂) (hge : k ≤ m₂.tailer.lines.size) :
    BreaksOff o s k (.banner header :: history o.display 0 (done ++ [d]))
      (run { options := o } (s.cancelAt k)) := by
  have hsound := hreach₁.sound rfl
  have hnever₁ := (hreach₁.cancelAfter_eq rfl).trans hnever
  have hcut := hreach₁.cancelAt rfl hnever hk hlt
  cases d with
  | emitted e =>
    -- The next turn gives up.
    have hnever₂ := ((hreach₁.snoc rfl hstep).cancelAfter_eq rfl).trans hnever
    have hcut₂ := hcut.snoc rfl (hstep.cancelAt_emitted hnever₁ hk hsound hlt)
    have hcancels := cancels_of_le hnever₂ hk hge
    have hbreak := breaksOff_of hpresent hheader hreach hends (by simpa using hdeeds) hcut₂
      (.cancelled hcancels) (looksNoMore_of_cancels (hcut₂.sound rfl) hcancels)
    rwa [List.append_nil] at hbreak
  | waited =>
    -- The wait is interrupted.
    obtain ⟨after, hasleep, hwait, rfl⟩ := (Moment.step_waited_iff hsound).mp hstep
    have hge' : k ≤ (m₁.tailer.asleep m₁.tailer.offset).lines.size := hge
    have hwait' : (m₁.scene.cancelAt k).wait (m₁.tailer.asleep m₁.tailer.offset).lines.size
        = (true, after.cancelAt k) := by
      rw [Scene.wait_cancelAt hnever₁ hk, hwait, decide_eq_true hge']
      rfl
    exact breaksOff_of hpresent hheader hreach hends hdeeds hcut
      (.interrupted (hasleep.cancelAt hnever₁ hk hsound hlt) hwait') (.inr ⟨rfl, hlt⟩)

/-- A run that is cancelled at a line other than the last one about the end of the file breaks off
behind the unit of the line. -/
theorem Reaches.breaksOff {closing : List Line} (hreach : Reaches { options := o } s deeds m)
    (hends : m.Ends last (run { options := o } s))
    (hclosing : ∀ l ∈ closing.head?, l.continues = false)
    (hlines : k ≤ (Line.banner header :: history o.display 0 (deeds ++ last)).length) :
    BreaksOff o s k
      (Line.wholeUnits (.banner header :: history o.display 0 (deeds ++ last) ++ closing) k)
      (run { options := o } (s.cancelAt k)) := by
  have hsize := hreach.length_lines hheader
  rcases Nat.lt_or_ge m.tailer.lines.size k with hlt | hge
  · -- The line is printed where the run ends, which is in a wait.
    have hends₀ := hends
    generalize hrun : run { options := o } s = r at hends
    cases hends with
    | interrupted hasleep hwait =>
      have hsound := hreach.sound rfl
      have hnever' := (hreach.cancelAfter_eq rfl).trans hnever
      have hends' := (Moment.Ends.interrupted hasleep hwait).cancelAt hnever' hk hsound hlt
      have hbreak := breaksOff_of hpresent hheader hreach hends₀ (List.append_nil _).symm
        (hreach.cancelAt rfl hnever hk hlt) hends' (.inr ⟨rfl, hlt⟩)
      rw [← hsize] at hlt
      have hunits : Line.wholeUnits (.banner header
          :: history o.display 0 (deeds ++ [.waited] ++ []) ++ closing) k
          = .banner header :: history o.display 0 (deeds ++ [.waited]) :=
        wholeUnits_snoc hclosing hlt hlines
      rw [List.append_nil] at hunits
      rwa [hunits]
    | _ =>
      rw [List.append_nil, hsize] at hlines
      omega
  · obtain ⟨header', hheader', hone⟩ | ⟨done, d, rest, m₁, m₂, rfl, hreach₁, hlt, hstep, hge₂⟩ :=
      hreach.exists_crossing rfl hge
    · -- The line is the banner.
      obtain rfl : k = 1 := Nat.le_antisymm hone hk
      have hopening : Reaches { options := o } (s.cancelAt 1) []
          (opening { options := o } (s.cancelAt 1) header) :=
        (reaches_iff rfl).mpr ⟨header, hheader, .nil⟩
      have hcancels : (opening { options := o } (s.cancelAt 1) header).scene.cancels
          (opening { options := o } (s.cancelAt 1) header).tailer.lines.size = true :=
        Moment.cancels_of_le (m := opening { options := o } s header) hnever hk hone
      rw [wholeUnits_banner hclosing]
      exact breaksOff_of hpresent hheader hreach hends (List.nil_append _).symm hopening
        (.cancelled hcancels) (Moment.looksNoMore_of_cancels (sound_opening _ _ _) hcancels)
    · have hsize₁ := hreach₁.length_lines hheader
      have hsize₂ := (hreach₁.snoc rfl hstep).length_lines hheader
      rw [List.append_assoc, wholeUnits_snoc hclosing (by omega) (by omega)]
      exact hstep.breaksOff hpresent hheader hnever hk hreach hends (by rw [List.append_assoc])
        hreach₁ hlt hge₂

end

/-- A run that is cancelled once it has printed `k` lines, against the run in the same scene that
nobody cancels. If that one prints fewer lines, they are the same. If its `k`-th line is about the
end of the file, they are the same too, and it is the last one. Otherwise the run that is cancelled
breaks off behind the unit of that line. -/
theorem run_cancelled (o : Options) {s : Scene} (hnever : s.cancelAfter = 0) {k : Nat} (hk : 0 < k)
    {outcome : Except Error Nat} {t : Tailer} {final : Scene}
    (hrun : run { options := o } s = (outcome, t, final)) :
    match t.lines.toList[k - 1]? with
    | none => run { options := o } (s.cancelAt k) = (outcome, t, final.cancelAt k)
    | some (.finished records) =>
      run { options := o } (s.cancelAt k) = (.ok records, t, final.cancelAt k)
        ∧ t.phase = .done
        ∧ Line.wholeUnits t.lines.toList k = t.lines.toList
    | some _ =>
      BreaksOff o s k (Line.wholeUnits t.lines.toList k) (run { options := o } (s.cancelAt k)) := by
  by_cases hpresent : s.present = true
  case neg =>
    -- Without a file neither run prints anything, nor with a header that is refused.
    have habsent : s.present = false := Bool.eq_false_iff.mpr hpresent
    rw [run_of_absent _ habsent, Prod.mk.injEq, Prod.mk.injEq] at hrun
    obtain ⟨rfl, rfl, rfl⟩ := hrun
    exact run_of_absent _ habsent
  have hpresent' : (s.cancelAt k).present = true := hpresent
  cases hheader : FileHeader.decode s.content with
  | error e =>
    rw [run_of_header_error rfl hpresent hheader, Prod.mk.injEq, Prod.mk.injEq] at hrun
    obtain ⟨rfl, rfl, rfl⟩ := hrun
    exact run_of_header_error rfl hpresent' hheader
  | ok header =>
    obtain ⟨deeds, m, last, hreach, hends⟩ := exists_reaches_ends
      (t := { options := o }) rfl hpresent hheader
    have hsound := hreach.sound rfl
    have hends' := hends
    rw [hrun] at hends'
    obtain ⟨closing, hlines, hclosing⟩ := hends'.lines_eq hsound (hreach.tally hheader)
    generalize hprinted : Line.banner header :: history o.display 0 (deeds ++ last) = printed
      at hlines
    rcases Nat.lt_or_ge printed.length k with hlt | hge
    · -- The line is none of those of the deeds.
      have hbefore : m.tailer.lines.size < k := by
        have hsize := hreach.length_lines hheader
        rw [← hprinted, history_append] at hlt
        simp only [List.length_cons, List.length_append] at hlt hsize
        omega
      have hnever' := (hreach.cancelAfter_eq rfl).trans hnever
      have hsame : run { options := o } (s.cancelAt k) = (outcome, t, final.cancelAt k) :=
        (hreach.cancelAt rfl hnever hk hbefore).run_of_ends rfl hpresent'
          (hends'.cancelAt hnever' hk hsound hbefore)
      rw [hlines, List.getElem?_append_right (by omega)]
      obtain rfl | ⟨n, rfl, rfl, hdone⟩ := hclosing
      · exact hsame
      · cases hline : k - 1 - printed.length with
        | zero => exact ⟨hsame, hdone, Line.wholeUnits_of_length_le (by simp; omega)⟩
        | succ i => exact hsame
    · -- The line is one of those of the deeds, and not about the end of the file.
      have hcontinues : ∀ l ∈ closing.head?, l.continues = false := by
        obtain rfl | ⟨n, rfl, -, -⟩ := hclosing
        · simp
        · rintro l hl
          obtain rfl := Option.some.inj hl
          rfl
      have hbreak := hreach.breaksOff hpresent hheader hnever hk hends hcontinues
        (hprinted ▸ hge)
      rw [hprinted, ← hlines] at hbreak
      rw [hlines, List.getElem?_append_left (by omega), ← hlines]
      cases hline : printed[k - 1]? with
      | none =>
        rw [List.getElem?_eq_none_iff] at hline
        omega
      | some l =>
        have hmem := List.mem_of_getElem? hline
        rw [← hprinted, List.mem_cons] at hmem
        cases l with
        | finished n =>
          obtain h | h := hmem
          · contradiction
          · exact absurd h finished_notMem_history
        | _ => exact hbreak

/-- Options with which the bodies of records are dumped. -/
def Options.verbose : Options := { Options.plain with display := { verbose := true } }

/-- A file in which a bad length follows a record. -/
def Scene.spoilt : Scene where
  content := Log.single.bytes ++ List.replicate 12 0xff

/-- A run that is cancelled at the summary of the record prints its dump, too, and does not look
at what makes the other run fail. -/
theorem run_cancelled_spoilt :
    ∃ t, run { options := .verbose } .spoilt
        = (.error (.frame (.unreasonableLength (-1) 62)), t, .spoilt)
      ∧ BreaksOff .verbose .spoilt 2
        [.banner Log.single.header, .summary LogRecord.plain.txn, .dump LogRecord.plain.txn.body]
        (run { options := .verbose } (Scene.spoilt.cancelAt 2)) := by
  have hsound := sound_opening { options := .verbose } .spoilt Log.single.header
  have hopening : Reaches { options := .verbose } .spoilt []
      (opening { options := .verbose } .spoilt Log.single.header) :=
    (reaches_iff rfl).mpr ⟨_, by decide, .nil⟩
  have hvalid := LogRecord.plain.valid_entry 16
  have hlook : Options.look .verbose (Cursor.seek Scene.spoilt.content 16)
      = .entry (LogRecord.plain.entry 16) :=
    look_eq_entry_iff.mpr ⟨⟨hvalid.frame, hvalid.checksum, hvalid.decode⟩, rfl, by decide⟩
  have hemitted := (Moment.step_emitted_iff hsound).mpr ⟨rfl, hlook, rfl⟩
  have hreach := hopening.snoc rfl hemitted
  have hlook' : Options.look .verbose (Cursor.seek Scene.spoilt.content 62)
      = .refused (.frame (.unreasonableLength (-1) 62)) :=
    look_of_unreasonable (by decide) (by decide) (by decide)
  obtain ⟨last, hends⟩ := hreach.ends rfl rfl (.inr ⟨_, hlook'⟩)
  obtain ⟨-, hrun⟩ := hends.of_refused (hreach.sound rfl) rfl hlook'
  exact ⟨_, hrun, run_cancelled .verbose rfl Nat.two_pos hrun⟩

end Tailer

end TxnLog
