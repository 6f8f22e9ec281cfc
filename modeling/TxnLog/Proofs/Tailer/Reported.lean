import TxnLog.Proofs.Tailer.Lifecycle

/-!
# What a run reports

A run reports notices as it goes (`notices`): of an operation without a decoder, and in verbose runs
of every wait. How it ends is told by an alarm, or by none (`alarms`): of a wrong checksum, of a
missing trailer, of an interruption, or of a frame that the file breaks off in. A step adds its
notices (`Moment.Step.told`), and an ending its alarm (`Moment.Ends.reports_eq`), so the reports of
a run are the header, the notices and the alarm, in this order. From this it follows that the
reports account for the entries, the waits and the end (`Accounted`).
-/

namespace TxnLog

/-- The operation of the entry is without a decoder. -/
def Entry.isUnknown (e : Entry) : Bool :=
  match e.txn.body with
  | .unknown _ _ => true
  | _ => false

namespace Tailer

/-- The report is a warning, or more severe. -/
def Report.isAlarm (x : Report) : Bool := Diagnostics.Level.warning.isKept x.level

/-- What is reported on the way, from the frame at `offset` on and after `records` transactions. -/
def notices (o : Options) : (offset records : Nat) → List Deed → List Report
  | _, _, [] => []
  | offset, records, .emitted e :: deeds =>
    e.reports ++ notices o (offset + e.frame.size) (records + 1) deeds
  | offset, records, .waited :: deeds =>
    (if o.display.verbose then [.unwrittenTail offset records] else [])
      ++ notices o offset records deeds

/-- What is reported of the end of a run. -/
def alarms : Except Error Nat × Tailer × Scene → List Report
  | (.ok _, t, s) =>
    if t.offset < s.content.length then [.partialFrame t.offset (s.content.length - t.offset)]
    else []
  | (.error (.interrupted _), t, _) => [.interrupted t.offset t.records]
  | (.error e, t, _) => t.failureReports e

/-- What an alarm tells of the end of a run. -/
def Report.Tells (outcome : Except Error Nat) (t : Tailer) (s : Scene) : Report → Prop
  | .checksumMismatch offset stored computed algorithm =>
    outcome = .error (.checksumMismatch offset stored computed)
      ∧ algorithm = t.options.algorithm
  | .partialTransaction offset cause =>
    outcome = .error (.frame cause) ∧ (Error.frame cause).kind = "PartialTransactionError"
      ∧ offset = t.offset
  | .interrupted offset records =>
    (∃ n, outcome = .error (.interrupted n)) ∧ offset = t.offset ∧ records = t.records
  | .partialFrame offset pending =>
    (∃ n, outcome = .ok n) ∧ t.offset < s.content.length
      ∧ offset = t.offset ∧ pending = s.content.length - t.offset
  | _ => False

/-- The reports account for the entries that a run emitted, its waits, and its end. -/
structure Accounted (o : Options) (entries : List Entry) (outcome : Except Error Nat)
    (t : Tailer) (s : Scene) : Prop where
  /-- Nothing is reported after an alarm, so there is at most one. -/
  last : ∀ before x after, t.reports.toList = before ++ x :: after → x.isAlarm = true → after = []
  /-- An alarm is one of two errors or one of two warnings. -/
  alarm : ∀ x ∈ t.reports.toList, x.isAlarm = true →
    x.level = .error
        ∧ (x.event = "Checksum mismatch" ∨ x.event = "Last transaction was partial")
      ∨ x.level = .warning
        ∧ (x.event = "Tailing interrupted" ∨ x.event = "Partial frame at end of file")
  /-- An alarm is reported exactly if the run ended as it tells. -/
  tells : ∀ x, x.isAlarm = true → (x ∈ t.reports.toList ↔ x.Tells outcome t s)
  /-- A checksum that made the run fail is at the offset, and it is wrong. -/
  mismatch : ∀ offset stored computed,
    outcome = .error (.checksumMismatch offset stored computed) →
      offset = t.offset ∧ stored ≠ computed
  /-- The run returned exactly if it is done. -/
  done : t.phase = .done ↔ ∃ records, outcome = .ok records
  /-- If nothing is reported of the end and the run is done, no byte is behind the entries. -/
  quiet : t.phase = .done → (∀ x ∈ t.reports.toList, x.isAlarm = false) →
    s.content.length ≤ FileHeader.size + Entry.totalSize entries
  /-- The entries start one behind the other. -/
  starts : ∀ before e after, entries = before ++ e :: after →
    e.frame.offset = FileHeader.size + Entry.totalSize before
  /-- The operations without a decoder are reported, those of the entries and no others. -/
  unknown : t.reports.toList.filter (·.event = "Unknown operation code")
    = (entries.filter (·.isUnknown)).map fun e =>
      .unknownOperation e.txn.header.type e.txn.header.zxid e.frame.offset
  /-- The waits are reported if the run is verbose. -/
  unwritten : t.reports.toList.filter (·.event = "Reached unwritten tail")
    = if o.display.verbose then t.waits.toList.map fun w => .unwrittenTail w.offset w.records
      else []

/-! ### What is seen -/

/-- The end of the file is seen where all bytes ahead are pending. -/
theorem length_of_look_ended {o : Options} {c : Cursor} {pending : Nat}
    (h : o.look c = .ended pending) : pending = c.rest.length := by
  unfold Options.look at h
  cases hread : Frame.read .unlimited o.frameLimit c with
  | mk found next =>
    rw [hread] at h
    rcases found with cause | f | offset | ⟨offset, pending'⟩
    · contradiction
    · dsimp only at h
      split at h
      · contradiction
      · contradiction
    · contradiction
    · obtain rfl := Sight.ended.inj h
      exact (Frame.of_endOfFile CallLimit.productive_unlimited hread).2

/-- A checksum is refused only if it is another one. -/
theorem ne_of_look {o : Options} {c : Cursor} {offset stored computed : Nat}
    (h : o.look c = .refused (.checksumMismatch offset stored computed)) : stored ≠ computed := by
  obtain ⟨cause, -, heq⟩ | ⟨f, -, hjudge⟩ := of_look_refused h
  · contradiction
  · simp only [Options.judge] at hjudge
    split at hjudge
    · next hsum =>
      simp only [Except.error.injEq, Error.checksumMismatch.injEq] at hjudge
      obtain ⟨-, rfl, rfl⟩ := hjudge
      exact hsum.symm
    · split at hjudge <;> simp at hjudge

/-! ### Notices -/

/-- An entry is reported if its operation is without a decoder. -/
theorem reports_eq (e : Entry) :
    e.reports = if e.isUnknown then
      [.unknownOperation e.txn.header.type e.txn.header.zxid e.frame.offset] else [] := by
  obtain ⟨f, txnHeader, body⟩ := e
  cases body <;> rfl

/-- The notices of deeds one after the other. -/
theorem notices_append (o : Options) (offset records : Nat) (deeds more : List Deed) :
    notices o offset records (deeds ++ more) = notices o offset records deeds
      ++ notices o (offset + Entry.totalSize (Deed.entries deeds))
        (records + (Deed.entries deeds).length) more := by
  induction deeds generalizing offset records with
  | nil => rfl
  | cons deed deeds ih =>
    cases deed with
    | emitted e =>
      have hcount : records + 1 + (Deed.entries deeds).length
          = records + (e :: Deed.entries deeds).length := by
        rw [List.length_cons]
        omega
      rw [List.cons_append, notices, notices, ih, Deed.entries_emitted_cons, Entry.totalSize_cons,
        hcount, Nat.add_assoc, List.append_assoc]
    | waited =>
      rw [List.cons_append, notices, notices, ih, Deed.entries_waited_cons, List.append_assoc]

/-- No notice is an alarm. -/
theorem isAlarm_of_mem_notices {o : Options} {offset records : Nat} {deeds : List Deed}
    {x : Report} (hx : x ∈ notices o offset records deeds) : x.isAlarm = false := by
  induction deeds generalizing offset records with
  | nil => contradiction
  | cons deed deeds ih =>
    cases deed with
    | emitted e =>
      rw [notices, reports_eq, List.mem_append] at hx
      obtain hx | hx := hx
      · split at hx
        · obtain rfl := List.mem_singleton.mp hx
          rfl
        · contradiction
      · exact ih hx
    | waited =>
      rw [notices, List.mem_append] at hx
      obtain hx | hx := hx
      · split at hx
        · obtain rfl := List.mem_singleton.mp hx
          rfl
        · contradiction
      · exact ih hx

/-- Of notices those of an operation without a decoder are one for each such entry. -/
theorem filter_notices_unknown (o : Options) (offset records : Nat) (deeds : List Deed) :
    (notices o offset records deeds).filter (·.event = "Unknown operation code")
      = ((Deed.entries deeds).filter (·.isUnknown)).map fun e =>
        .unknownOperation e.txn.header.type e.txn.header.zxid e.frame.offset := by
  induction deeds generalizing offset records with
  | nil => rfl
  | cons deed deeds ih =>
    cases deed with
    | emitted e =>
      rw [notices, List.filter_append, ih, reports_eq, Deed.entries_emitted_cons]
      -- The entry is kept where it is reported.
      by_cases hunknown : e.isUnknown = true
      · simp [hunknown, Report.event]
      · simp [hunknown]
    | waited =>
      rw [notices, List.filter_append, ih, Deed.entries_waited_cons]
      by_cases hverbose : o.display.verbose = true
      · simp [hverbose, Report.event]
      · simp [hverbose]

/-- Of notices those of unwritten space are one for each wait, in verbose runs. -/
theorem filter_notices_unwritten (o : Options) (offset records : Nat) (deeds : List Deed) :
    (notices o offset records deeds).filter (·.event = "Reached unwritten tail")
      = if o.display.verbose then
        (pauses o offset records deeds).map fun w => .unwrittenTail w.offset w.records
      else [] := by
  induction deeds generalizing offset records with
  | nil => simp [notices, pauses]
  | cons deed deeds ih =>
    cases deed with
    | emitted e =>
      have hreports : e.reports.filter (·.event = "Reached unwritten tail") = [] := by
        rw [reports_eq]
        split
        · rfl
        · rfl
      rw [notices, List.filter_append, ih, hreports, List.nil_append, pauses]
    | waited =>
      rw [notices, List.filter_append, ih, pauses]
      by_cases hverbose : o.display.verbose = true
      · simp [hverbose, Report.event]
      · simp [hverbose]

/-! ### All along a run -/

section

variable {o : Options} {header : FileHeader} {deeds : List Deed} {t : Tailer}

/-- The header and the notices of the deeds are reported. -/
def Told (o : Options) (header : FileHeader) (deeds : List Deed) (t : Tailer) : Prop :=
  t.reports.toList = .headerRead o.path header :: notices o FileHeader.size 0 deeds

/-- Emitting an entry adds its notices. -/
theorem Told.emitted (h : Told o header deeds t) (e : Entry) :
    Told o header (deeds ++ [.emitted e]) (t.emitted e) := by
  have hreports : (t.emitted e).reports.toList = t.reports.toList ++ e.reports :=
    Array.toList_append ..
  unfold Told at h ⊢
  rw [hreports, h, notices_append, notices, notices, List.append_nil, List.cons_append]

/-- Falling asleep adds the notice of the wait. -/
theorem Told.asleep (h : Told o header deeds t) (htally : Tally o header deeds [] t) :
    Told o header (deeds ++ [.waited]) (t.asleep t.offset) := by
  have hreports : (t.asleep t.offset).reports.toList = t.reports.toList
      ++ if o.display.verbose then [.unwrittenTail t.offset t.records] else [] := by
    rw [← htally.options]
    unfold Tailer.asleep
    split
    · exact Array.toList_push ..
    · exact (List.append_nil _).symm
  unfold Told at h ⊢
  rw [hreports, h, notices_append, notices, notices, List.append_nil, Nat.zero_add,
    ← htally.offset, ← htally.records, List.cons_append]

/-- A step adds its notices. -/
theorem Moment.Step.told {m m' : Moment} {d : Deed} (hstep : m.Step d m') (hsound : m.Sound)
    (htally : Tally o header deeds [] m.tailer) (h : Told o header deeds m.tailer) :
    Told o header (deeds ++ [d]) m'.tailer := by
  cases d with
  | emitted e =>
    obtain ⟨-, -, rfl⟩ := (Moment.step_emitted_iff hsound).mp hstep
    exact h.emitted e
  | waited =>
    obtain ⟨s, -, -, rfl⟩ := (Moment.step_waited_iff hsound).mp hstep
    exact h.asleep htally

/-- All along a run the header and the notices so far are reported. -/
theorem Reaches.told {s : Scene} {m : Moment} (h : Reaches { options := o } s deeds m)
    (hheader : FileHeader.decode s.content = .ok header) : Told o header deeds m.tailer := by
  refine h.induct rfl (motive := fun deeds m => Told o header deeds m.tailer) ?_ ?_
  · intro header' hheader'
    obtain rfl := Except.ok.inj (hheader.symm.trans hheader')
    rfl
  · intro deeds m d m' hreach hsound hstep ih
    exact hstep.told hsound (hreach.tally hheader) ih

/-- Each entry of a run starts behind those before it. -/
theorem Reaches.starts {s : Scene} {m : Moment} (h : Reaches { options := o } s deeds m)
    (hheader : FileHeader.decode s.content = .ok header) :
    ∀ before e after, Deed.entries deeds = before ++ e :: after →
      e.frame.offset = FileHeader.size + Entry.totalSize before := by
  refine h.induct rfl (motive := fun deeds _ => ∀ before e after,
    Deed.entries deeds = before ++ e :: after →
      e.frame.offset = FileHeader.size + Entry.totalSize before) ?_ ?_
  · intro _ _ before e after hentries
    simp [Deed.entries] at hentries
  · intro deeds m d m' hreach hsound hstep ih before e after hentries
    cases d with
    | waited =>
      rw [Deed.entries_waited] at hentries
      exact ih before e after hentries
    | emitted e' =>
      obtain ⟨-, hlook, -⟩ := (Moment.step_emitted_iff hsound).mp hstep
      have hoffset := (look_eq_entry_iff.mp hlook).2.1
      rw [Deed.entries_emitted] at hentries
      -- The entry is the last one, or one of those before.
      obtain rfl | ⟨after, y, rfl⟩ := List.eq_nil_or_concat after
      · obtain ⟨rfl, hlast⟩ := List.append_inj' hentries rfl
        obtain rfl := List.singleton_inj.mp hlast
        rw [hoffset, hsound.position, (hreach.tally hheader).offset]
      · rw [List.concat_eq_append, ← List.cons_append, ← List.append_assoc] at hentries
        exact ih before e after (List.append_inj' hentries rfl).1

/-! ### Endings -/

/-- An ending adds its alarm. -/
theorem Moment.Ends.reports_eq {m : Moment} {last : List Deed}
    {r : Except Error Nat × Tailer × Scene} (hends : m.Ends last r) (hsound : m.Sound)
    (htally : Tally o header deeds [] m.tailer) (h : Told o header deeds m.tailer) :
    r.2.1.reports.toList
      = .headerRead o.path header :: notices o FileHeader.size 0 (deeds ++ last) ++ alarms r := by
  cases hends with
  | @finished pending _ hlook =>
    -- All bytes behind the offset are pending, so there are any exactly if some are reported.
    have hpending : pending = m.scene.content.length - m.tailer.offset := by
      rw [length_of_look_ended hlook, hsound.length_rest]
    have hreports : (m.tailer.finished m.tailer.offset pending).reports.toList
        = m.tailer.reports.toList
          ++ if pending ≠ 0 then [.partialFrame m.tailer.offset pending] else [] := by
      unfold Tailer.finished
      split
      · exact Array.toList_push ..
      · exact (List.append_nil _).symm
    have halarms : (if pending ≠ 0 then [.partialFrame m.tailer.offset pending] else [])
        = alarms (.ok m.tailer.records, m.tailer.finished m.tailer.offset pending, m.scene) := by
      show _ = if m.tailer.offset < m.scene.content.length then
        [Report.partialFrame m.tailer.offset (m.scene.content.length - m.tailer.offset)] else []
      rw [← hpending]
      exact if_congr (by omega) rfl rfl
    rw [hreports, halarms, h, List.append_nil]
  | @failed e _ hlook =>
    have hreports : (m.tailer.failed e).reports.toList
        = m.tailer.reports.toList ++ m.tailer.failureReports e := Array.toList_append ..
    have halarms : alarms (.error e, m.tailer.failed e, m.scene)
        = m.tailer.failureReports e := by
      -- An interruption is not refused.
      have hfatal := isFatal_of_look hlook
      cases e with
      | interrupted records => contradiction
      | _ => rfl
    rw [hreports, halarms, h, List.append_nil]
  | cancelled _ =>
    rw [List.append_nil, ← h]
    exact Array.toList_push ..
  | interrupted hasleep _ =>
    obtain rfl := ((Moment.fallsAsleep_iff hsound).mp hasleep).2.2
    rw [← h.asleep htally]
    exact Array.toList_push ..

end

/-! ### Alarms -/

/-- There are four alarms, two of them errors and two of them warnings. -/
theorem Report.of_isAlarm {x : Report} (hx : x.isAlarm = true) :
    x.level = .error
        ∧ (x.event = "Checksum mismatch" ∨ x.event = "Last transaction was partial")
      ∨ x.level = .warning
        ∧ (x.event = "Tailing interrupted" ∨ x.event = "Partial frame at end of file") := by
  cases x with
  | checksumMismatch => exact .inl ⟨rfl, .inl rfl⟩
  | partialTransaction => exact .inl ⟨rfl, .inr rfl⟩
  | interrupted => exact .inr ⟨rfl, .inl rfl⟩
  | partialFrame => exact .inr ⟨rfl, .inr rfl⟩
  | _ => contradiction

section

variable {outcome : Except Error Nat} {t : Tailer} {s : Scene}

/-- At the end of the file the bytes behind the offset are reported, if there are any. -/
theorem alarms_ok (records : Nat) (t : Tailer) (s : Scene) :
    alarms (.ok records, t, s) = if t.offset < s.content.length then
      [.partialFrame t.offset (s.content.length - t.offset)] else [] := rfl

/-- The alarms of an end are those that tell of it. -/
theorem mem_alarms_iff {x : Report} : x ∈ alarms (outcome, t, s) ↔ x.Tells outcome t s := by
  constructor
  -- The outcome leaves no choice of the report.
  · intro hx
    cases outcome with
    | ok records =>
      rw [alarms_ok] at hx
      split at hx
      · next hbehind =>
        obtain rfl := List.mem_singleton.mp hx
        exact ⟨⟨records, rfl⟩, hbehind, rfl, rfl⟩
      · contradiction
    | error e =>
      cases e with
      | interrupted records =>
        obtain rfl := List.mem_singleton.mp hx
        exact ⟨⟨records, rfl⟩, rfl, rfl⟩
      | checksumMismatch offset stored computed =>
        obtain rfl := List.mem_singleton.mp hx
        exact ⟨rfl, rfl⟩
      | frame cause =>
        -- Of these, a trailer that is missing or wrong is reported.
        cases cause with
        | unreasonableLength => contradiction
        | _ =>
          obtain rfl := List.mem_singleton.mp hx
          exact ⟨rfl, rfl, rfl⟩
      | _ => contradiction
  -- The report tells of the outcome.
  · intro hx
    cases x with
    | checksumMismatch offset stored computed algorithm =>
      obtain ⟨rfl, rfl⟩ := hx
      exact List.mem_singleton_self _
    | partialTransaction offset cause =>
      obtain ⟨rfl, hkind, rfl⟩ := hx
      cases cause with
      | unreasonableLength => simp [Error.kind] at hkind
      | _ => exact List.mem_singleton_self _
    | interrupted offset records =>
      obtain ⟨⟨n, rfl⟩, rfl, rfl⟩ := hx
      exact List.mem_singleton_self _
    | partialFrame offset pending =>
      obtain ⟨⟨n, rfl⟩, hbehind, rfl, rfl⟩ := hx
      rw [alarms_ok, if_pos hbehind]
      exact List.mem_singleton_self _
    | _ => contradiction

/-- What is reported of the end is at most one alarm. -/
theorem length_alarms_le : (alarms (outcome, t, s)).length ≤ 1 := by
  cases outcome with
  | ok records =>
    rw [alarms_ok]
    split <;> simp
  | error e =>
    cases e with
    | frame cause => cases cause <;> simp [alarms, failureReports]
    | _ => simp [alarms, failureReports]

/-- What tells of the end is an alarm. -/
theorem Report.Tells.isAlarm {x : Report} (hx : x.Tells outcome t s) : x.isAlarm = true := by
  cases x with
  | headerRead => contradiction
  | unknownOperation => contradiction
  | unwrittenTail => contradiction
  | _ => rfl

end

/-! ### Accounts -/

section

variable {o : Options} {entries : List Entry} {front : List Report}
  {outcome : Except Error Nat} {t : Tailer} {s : Scene}

/-- An alarm among reports is one of the end, if those before the end are notices. -/
theorem mem_reports_iff (hreports : t.reports.toList = front ++ alarms (outcome, t, s))
    (hfront : ∀ x ∈ front, x.isAlarm = false) {x : Report} (hx : x.isAlarm = true) :
    x ∈ t.reports.toList ↔ x ∈ alarms (outcome, t, s) := by
  have hnotice : x ∉ front := by
    intro hmem
    rw [hfront x hmem] at hx
    contradiction
  rw [hreports, List.mem_append]
  exact or_iff_right hnotice

/-- Nothing is reported after an alarm, if those before the end are notices. -/
theorem eq_nil_of_isAlarm (hreports : t.reports.toList = front ++ alarms (outcome, t, s))
    (hfront : ∀ x ∈ front, x.isAlarm = false) {before after : List Report} {x : Report}
    (hsplit : t.reports.toList = before ++ x :: after) (hx : x.isAlarm = true) : after = [] := by
  have heq : before ++ x :: after = front ++ alarms (outcome, t, s) := hsplit.symm.trans hreports
  have hlength := congrArg List.length heq
  have hone : (alarms (outcome, t, s)).length ≤ 1 := length_alarms_le
  -- Were the alarm not at the end, it would be a notice.
  have hle : front.length ≤ before.length := by
    by_contra hlt
    have hat : (before ++ x :: after)[before.length]? = some x := by simp
    rw [heq, List.getElem?_append_left (by omega)] at hat
    rw [hfront x (List.mem_of_getElem? hat)] at hx
    contradiction
  rw [List.length_append, List.length_append, List.length_cons] at hlength
  exact List.eq_nil_of_length_eq_zero (by omega)

/-- Of an end nothing else is reported than its alarm. -/
theorem filter_alarms_eq_nil {event : String}
    (hevent : event ∉ ["Checksum mismatch", "Last transaction was partial",
      "Tailing interrupted", "Partial frame at end of file"]) :
    (alarms (outcome, t, s)).filter (·.event = event) = [] := by
  rw [List.filter_eq_nil_iff]
  intro x hx heq
  have halarm := (mem_alarms_iff.mp hx).isAlarm
  obtain rfl := of_decide_eq_true heq
  obtain ⟨-, hx | hx⟩ | ⟨-, hx | hx⟩ := Report.of_isAlarm halarm
  all_goals simp [hx] at hevent

/-- The reports account for a run that settled its tailer, if they are some notices and the alarms
of the end. -/
theorem accounted_of_reports (hreports : t.reports.toList = front ++ alarms (outcome, t, s))
    (hfront : ∀ x ∈ front, x.isAlarm = false) (hsettled : Settled outcome t)
    (hmismatch : ∀ offset stored computed,
      outcome = .error (.checksumMismatch offset stored computed) →
        offset = t.offset ∧ stored ≠ computed)
    (hoffset : t.phase = .done → t.offset = FileHeader.size + Entry.totalSize entries)
    (hstarts : ∀ before e after, entries = before ++ e :: after →
      e.frame.offset = FileHeader.size + Entry.totalSize before)
    (hunknown : front.filter (·.event = "Unknown operation code")
      = (entries.filter (·.isUnknown)).map fun e =>
        .unknownOperation e.txn.header.type e.txn.header.zxid e.frame.offset)
    (hunwritten : front.filter (·.event = "Reached unwritten tail")
      = if o.display.verbose then t.waits.toList.map fun w => .unwrittenTail w.offset w.records
        else []) :
    Accounted o entries outcome t s where
  last before x after := eq_nil_of_isAlarm hreports hfront
  alarm x _ hx := Report.of_isAlarm hx
  tells x hx := (mem_reports_iff hreports hfront hx).trans mem_alarms_iff
  mismatch := hmismatch
  done := hsettled.done
  quiet hdone hnone := by
    rw [← hoffset hdone]
    by_contra hbehind
    -- Bytes behind the offset are reported.
    have htells : (Report.partialFrame t.offset (s.content.length - t.offset)).Tells outcome t s :=
      ⟨hsettled.done.mp hdone, by omega, rfl, rfl⟩
    have hmem := (mem_reports_iff hreports hfront htells.isAlarm).mpr (mem_alarms_iff.mpr htells)
    have hquiet := hnone _ hmem
    rw [htells.isAlarm] at hquiet
    contradiction
  starts := hstarts
  unknown := by
    rw [hreports, List.filter_append, hunknown, filter_alarms_eq_nil (by decide),
      List.append_nil]
  unwritten := by
    rw [hreports, List.filter_append, hunwritten, filter_alarms_eq_nil (by decide),
      List.append_nil]

end

/-- In every run of a fresh tailer on a file the reports account for what the run emitted, for its
waits and for its end. -/
theorem run_accounted (o : Options) (s : Scene) (hpresent : s.present = true) :
    match FileHeader.decode s.content with
    | .error _ => Accounted o [] (run { options := o } s).1 (run { options := o } s).2.1
        (run { options := o } s).2.2
    | .ok _ => ∃ deeds m last, Reaches { options := o } s deeds m
        ∧ m.Ends last (run { options := o } s)
        ∧ Accounted o (Deed.entries (deeds ++ last)) (run { options := o } s).1
          (run { options := o } s).2.1 (run { options := o } s).2.2 := by
  have hsettled := run_settled (t := { options := o }) rfl hpresent
  cases hheader : FileHeader.decode s.content with
  | error e =>
    rw [run_of_header_error rfl hpresent hheader] at hsettled ⊢
    refine accounted_of_reports (show _ = [] ++ _ from rfl) ?_ hsettled ?_ ?_ ?_ rfl ?_
    · simp
    · intro offset stored computed hmismatch
      cases hmismatch
    · intro hdone
      cases hdone
    · simp
    · split <;> rfl
  | ok header =>
    obtain ⟨deeds, m, last, hreach, hends⟩ := exists_reaches_ends
      (t := { options := o }) rfl hpresent hheader
    refine ⟨deeds, m, last, hreach, hends, ?_⟩
    have hsound := hreach.sound rfl
    have htally := hreach.tally hheader
    have hreports := hends.reports_eq hsound htally (hreach.told hheader)
    have hconcluded := hends.concluded hsound htally
    have hentries := hends.entries_append deeds
    generalize run { options := o } s = r at *
    obtain ⟨outcome, t, final⟩ := r
    have hclosed := hconcluded.tally
    refine accounted_of_reports hreports ?_ hsettled ?_ (fun _ => hclosed.offset) ?_ ?_ ?_
    · intro x hx
      obtain rfl | hx := List.mem_cons.mp hx
      · rfl
      · exact isAlarm_of_mem_notices hx
    · rintro offset stored computed rfl
      obtain ⟨-, hlook, hoffset, -⟩ := hconcluded
      exact ⟨hoffset _ _ _ rfl, ne_of_look hlook⟩
    · rw [hentries]
      exact hreach.starts hheader
    · exact filter_notices_unknown ..
    · rw [hclosed.waits]
      exact filter_notices_unwritten ..

/-- A file that ends three bytes behind its record. -/
def Scene.begun : Scene where
  content := Log.single.bytes ++ [0, 0, 0]

/-- A run on the file is done behind the record. -/
theorem run_begun :
    ∃ t, run { options := .plain } .begun = (.ok 1, t, .begun) ∧ t.offset = 62 := by
  have hsound := sound_opening { options := .plain } .begun Log.single.header
  have hopening : Reaches { options := .plain } .begun []
      (opening { options := .plain } .begun Log.single.header) :=
    reaches_opening rfl (Log.single.decode_head _)
  have hrest : (Cursor.seek Scene.begun.content FileHeader.size).rest
      = LogRecord.plain.bytes ++ [0, 0, 0] := by decide
  have hemitted := (Moment.step_emitted_iff hsound).mpr
    ⟨rfl, LogRecord.look_bytes hrest, rfl⟩
  have hreach := hopening.snoc rfl hemitted
  -- Three bytes are no length.
  have hlook : Options.look .plain (Cursor.seek Scene.begun.content 62) = .ended 3 :=
    look_of_length_lt (by decide)
  obtain ⟨last, hends⟩ := hreach.ends rfl rfl (.inl ⟨3, hlook⟩)
  obtain ⟨-, hrun⟩ := hends.of_ended (hreach.sound rfl) rfl hlook
  exact ⟨_, hrun, rfl⟩

/-- The three bytes are reported at the end of the run. -/
theorem run_accounted_begun :
    .partialFrame 62 3 ∈ (run { options := .plain } .begun).2.1.reports.toList := by
  have haccounted := run_accounted .plain .begun rfl
  have hheader : FileHeader.decode Scene.begun.content = .ok Log.single.header :=
    Log.single.decode_head _
  rw [hheader] at haccounted
  obtain ⟨deeds, m, last, -, -, haccounted⟩ := haccounted
  obtain ⟨t, hrun, hoffset⟩ := run_begun
  rw [hrun] at haccounted ⊢
  have hbehind : 62 < Scene.begun.content.length := by decide
  have htells : (Report.partialFrame 62 3).Tells (.ok 1) t .begun :=
    ⟨⟨1, rfl⟩, hoffset ▸ hbehind, hoffset.symm, by rw [hoffset]; decide⟩
  exact (haccounted.tells _ rfl).mpr htells

end Tailer

end TxnLog
