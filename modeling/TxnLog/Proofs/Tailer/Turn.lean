import TxnLog.Proofs.Attempt
import TxnLog.Proofs.Frame
import TxnLog.Tailer

/-!
# One turn of a tailer

What a turn does depends on what the tailer makes of the bytes at the cursor. `Options.look` says
what that is: a frame with its transaction, unwritten space, the end of the file, or bytes that
are refused. `turn_eq` writes a turn out as a case distinction on it, with the tailer afterwards
as a function of the tailer before (`emitted`, `asleep`, `finished`, `stopped`, `gaveUp`). No
other proof opens the actions that a turn is made of.
-/

namespace TxnLog

/-- A frame and the transaction in it. -/
structure Entry where
  frame : Frame
  txn : Txn

/-- What is reported of an entry. -/
def Entry.reports (e : Entry) : List Tailer.Report :=
  match e.txn.body with
  | .unknown _ _ => [.unknownOperation e.txn.header.type e.txn.header.zxid e.frame.offset]
  | _ => []

/-- The number of bytes that entries take in the file. -/
def Entry.totalSize (entries : List Entry) : Nat := (entries.map (·.frame.size)).sum

/-- The entry can stand in a log that a tailer with the options reads. -/
structure Entry.Valid (o : Tailer.Options) (e : Entry) : Prop where
  /-- The frame is well-formed. -/
  frame : e.frame.WellFormed o.frameLimit
  /-- The stored checksum is that of the payload. -/
  checksum : o.algorithm.compute e.frame.payload = e.frame.checksum
  /-- The transaction is the one in the payload. -/
  decode : Txn.decode e.frame.payload = .ok e.txn

namespace Tailer

/-- What a tailer makes of the bytes at a cursor. -/
inductive Sight where
  /-- A frame with its transaction. -/
  | entry (e : Entry)
  /-- Space that is not yet written. -/
  | unwritten
  /-- The end of the file, `pending` bytes into a frame. -/
  | ended (pending : Nat)
  /-- Bytes that are refused. -/
  | refused (e : Error)

/-- What a tailer with these options makes of a frame. -/
def Options.judge (o : Options) (f : Frame) : Except Error Entry :=
  let computed := o.algorithm.compute f.payload
  if computed ≠ f.checksum then .error (.checksumMismatch f.offset f.checksum computed)
  else match Txn.decode f.payload with
    | .error e => .error (.decode e)
    | .ok txn => .ok ⟨f, txn⟩

/-- What a tailer with these options makes of the bytes at the cursor. -/
def Options.look (o : Options) (c : Cursor) : Sight :=
  match (Frame.read .unlimited o.frameLimit c).1 with
  | .error e => .refused (.frame e)
  | .ok (.emptyTail _) => .unwritten
  | .ok (.endOfFile _ pending) => .ended pending
  | .ok (.frame f) =>
    match o.judge f with
    | .error e => .refused e
    | .ok e => .entry e

/-- What is judged right is the frame with a transaction, and its checksum is right. -/
theorem of_judge {o : Options} {f : Frame} {e : Entry} (h : o.judge f = .ok e) :
    e.frame = f ∧ o.algorithm.compute f.payload = f.checksum
      ∧ Txn.decode f.payload = .ok e.txn := by
  simp only [Options.judge] at h
  split at h
  · contradiction
  · next hsum =>
    split at h
    · contradiction
    · next txn hdecode =>
      obtain rfl := Except.ok.inj h
      exact ⟨rfl, by simpa using hsum, hdecode⟩

/-- An entry is seen exactly where its frame is stored, if it is valid. -/
theorem look_eq_entry_iff {o : Options} {c : Cursor} {e : Entry} :
    o.look c = .entry e ↔
      e.Valid o ∧ e.frame.offset = c.position
        ∧ c.rest = e.frame.encode ++ (c.advance e.frame.size).rest := by
  constructor
  · intro h
    unfold Options.look at h
    cases hread : Frame.read .unlimited o.frameLimit c with
    | mk found next =>
      rw [hread] at h
      rcases found with e' | f | offset | ⟨offset, pending⟩
      · contradiction
      · dsimp only at h
        cases hjudge : o.judge f with
        | error e' => rw [hjudge] at h; contradiction
        | ok e' =>
          rw [hjudge] at h
          obtain rfl := Sight.entry.inj h
          obtain ⟨hframe, hsum, hdecode⟩ := of_judge hjudge
          obtain ⟨hwell, hoffset, hrest, hnext⟩ :=
            Frame.of_read CallLimit.productive_unlimited hread
          subst hframe
          exact ⟨⟨hwell, hsum, hdecode⟩, hoffset, by rw [← hnext]; exact hrest⟩
      · contradiction
      · contradiction
  -- A stored frame is read, and judged right.
  · rintro ⟨⟨hwell, hsum, hdecode⟩, hoffset, hrest⟩
    unfold Options.look
    rw [Frame.read_encode CallLimit.productive_unlimited hwell hoffset hrest]
    simp [Options.judge, hsum, hdecode]

/-- The end of the file is seen where not even a length is ahead. -/
theorem look_of_length_lt {o : Options} {c : Cursor} (h : c.rest.length < Frame.prefixSize) :
    o.look c = .ended c.rest.length := by
  unfold Options.look
  rw [Frame.read_eq CallLimit.productive_unlimited, if_pos h]

/-- Unwritten space is seen where the length ahead is zero. -/
theorem look_of_lengthField_eq_zero {o : Options} {c : Cursor}
    (hlength : Frame.prefixSize ≤ c.rest.length) (h : Frame.lengthField c.rest = 0) :
    o.look c = .unwritten := by
  unfold Options.look
  rw [Frame.read_eq CallLimit.productive_unlimited, if_neg (by omega), if_pos h]

/-- A length that no frame has is refused. -/
theorem look_of_unreasonable {o : Options} {c : Cursor}
    (hlength : Frame.prefixSize ≤ c.rest.length)
    (h : Frame.lengthField c.rest < 0 ∨ o.frameLimit < Frame.lengthField c.rest)
    (hne : Frame.lengthField c.rest ≠ 0) :
    o.look c = .refused (.frame (.unreasonableLength (Frame.lengthField c.rest) c.position)) := by
  unfold Options.look
  rw [Frame.read_eq CallLimit.productive_unlimited, if_neg (by omega), if_neg hne, if_pos h]

/-- What is refused is no frame, or a frame that is judged wrong. -/
theorem of_look_refused {o : Options} {c : Cursor} {e : Error} (h : o.look c = .refused e) :
    (∃ cause, (Frame.read .unlimited o.frameLimit c).1 = .error cause ∧ e = .frame cause)
      ∨ ∃ f, (Frame.read .unlimited o.frameLimit c).1 = .ok (.frame f)
        ∧ o.judge f = .error e := by
  unfold Options.look at h
  split at h
  · next cause hread => exact .inl ⟨cause, hread, (Sight.refused.inj h).symm⟩
  · contradiction
  · contradiction
  · next f hread =>
    split at h
    · next hjudge =>
      obtain rfl := Sight.refused.inj h
      exact .inr ⟨f, hread, hjudge⟩
    · contradiction

/-- A frame is judged wrong by its checksum or by its payload. -/
theorem of_judge_error {o : Options} {f : Frame} {e : Error} (h : o.judge f = .error e) :
    e = .checksumMismatch f.offset f.checksum (o.algorithm.compute f.payload)
      ∨ ∃ cause, e = .decode cause := by
  simp only [Options.judge] at h
  split at h
  · exact .inl (Except.error.inj h).symm
  · split at h
    · next cause _ => exact .inr ⟨cause, (Except.error.inj h).symm⟩
    · contradiction

/-- What is refused makes a run fail. -/
theorem isFatal_of_look {o : Options} {c : Cursor} {e : Error} (h : o.look c = .refused e) :
    e.isFatal = true := by
  obtain ⟨cause, -, rfl⟩ | ⟨f, -, hjudge⟩ := of_look_refused h
  · rfl
  · obtain rfl | ⟨cause, rfl⟩ := of_judge_error hjudge
    · rfl
    · rfl

/-- A wrong checksum is refused at the position of the cursor. -/
theorem offset_of_look {o : Options} {c : Cursor} {offset stored computed : Nat}
    (h : o.look c = .refused (.checksumMismatch offset stored computed)) :
    offset = c.position := by
  obtain ⟨cause, -, heq⟩ | ⟨f, hread, hjudge⟩ := of_look_refused h
  · contradiction
  · obtain ⟨-, hoffset, -⟩ := Frame.of_read CallLimit.productive_unlimited
      (Prod.ext hread rfl : Frame.read .unlimited o.frameLimit c = (.ok (.frame f), _))
    obtain heq | ⟨cause, heq⟩ := of_judge_error hjudge
    · rw [← hoffset]
      exact (Error.checksumMismatch.inj heq).1
    · contradiction

/-! ### The tailer after a turn -/

/-- The tailer after it emitted an entry. -/
def emitted (t : Tailer) (e : Entry) : Tailer :=
  { t with
    phase := .emit
    offset := e.frame.endOffset
    records := t.records + 1
    lines := t.lines ++ (Line.ofTxn t.options.display e.txn).toArray
    reports := t.reports ++ e.reports.toArray }

/-- The tailer asleep at the unwritten space at `offset`. -/
def asleep (t : Tailer) (offset : Nat) : Tailer :=
  { t with
    phase := .sleep
    offset
    lines := if t.options.display.verbose then t.lines.push (.resetting t.records) else t.lines
    reports := if t.options.display.verbose then
      t.reports.push (.unwrittenTail offset t.records) else t.reports
    waits := t.waits.push ⟨t.timeout, .sleep, offset, t.records⟩ }

/-- The tailer done at the end of the file, `pending` bytes into the frame at `offset`. -/
def finished (t : Tailer) (offset pending : Nat) : Tailer :=
  { t with
    phase := .done
    lines := t.lines.push (.finished t.records)
    reports := if pending ≠ 0 then t.reports.push (.partialFrame offset pending) else t.reports }

/-- The tailer that gave up because it was cancelled. -/
def gaveUp (t : Tailer) : Tailer :=
  { t with phase := .cancelled, reports := t.reports.push (.interrupted t.offset t.records) }

/-- The tailer that an error stopped in its turn. -/
def stopped (t : Tailer) : Error → Tailer
  | .frame _ => { t with phase := .frameWait }
  | .checksumMismatch offset stored computed =>
    { t with
      phase := .frameReady
      reports := t.reports.push
        (.checksumMismatch offset stored computed t.options.algorithm) }
  | _ => { t with phase := .frameReady }

/-! ### The actions of a turn -/

/-- Entering a phase that may follow. -/
theorem enter_eq {p : Phase} {t : Tailer} (h : t.phase.canMoveTo p = true) :
    enter p t = (.ok (), { t with phase := p }) := by
  unfold enter
  rw [if_pos h]

/-- Printing lines one after the other. -/
theorem emitAll_eq (lines : List Line) (t : Tailer) :
    emitAll lines t = (.ok (), { t with lines := t.lines ++ lines.toArray }) := by
  induction lines generalizing t with
  | nil => simp [emitAll, pure, Attempt.pure]
  | cons line lines ih =>
    have h : emitAll (line :: lines) t
        = emitAll lines { t with lines := t.lines.push line } := rfl
    rw [h, ih]
    simp

/-- Giving up where a run may be cancelled. -/
theorem giveUp_eq {α : Type} {t : Tailer} (h : t.phase.canMoveTo .cancelled = true) :
    (giveUp : Action α) t = (.error (.interrupted t.records), t.gaveUp) := by
  simp only [giveUp, Attempt.bind_apply, enter_eq h, Attempt.state_apply, report,
    Attempt.modify_apply, Attempt.fail_apply, gaveUp]

/-- Falling asleep where a frame is looked for. -/
theorem fallAsleep_eq {t : Tailer} (h : t.phase = .frameWait) (offset : Nat) :
    fallAsleep offset t = (.ok (), t.asleep offset) := by
  have htail : t.phase.canMoveTo .tailWait = true := by rw [h]; decide
  have hsleep : Phase.tailWait.canMoveTo .sleep = true := by decide
  simp only [fallAsleep, Attempt.bind_apply, enter_eq htail, moveTo, Attempt.modify_apply,
    Attempt.state_apply]
  -- Only a verbose run announces the wait.
  by_cases hverbose : t.options.display.verbose = true
  · simp [Attempt.bind_apply, emit, report, Attempt.modify_apply, enter, hsleep, asleep, timeout,
      hverbose]
  · simp [Attempt.bind_apply, Attempt.modify_apply, enter, hsleep, asleep, timeout, hverbose]

/-- Ending the run where a frame is looked for. -/
theorem finish_eq {t : Tailer} (h : t.phase = .frameWait) (offset pending : Nat) :
    finish offset pending t = (.ok t.records, t.finished offset pending) := by
  have hdone : t.phase.canMoveTo .done = true := by rw [h]; decide
  -- A frame that is only begun is reported.
  by_cases hpending : pending = 0
  · simp [finish, hpending, Attempt.bind_apply, enter, hdone, Attempt.state_apply, emit,
      Attempt.modify_apply, Attempt.pure_apply, finished]
  · simp [finish, hpending, Attempt.bind_apply, report, enter, hdone, Attempt.state_apply, emit,
      Attempt.modify_apply, Attempt.pure_apply, finished]

/-- Verifying, decoding, printing and counting a frame where one is looked for. -/
theorem process_eq {t : Tailer} (h : t.phase = .frameWait) (f : Frame) :
    process f t = match t.options.judge f with
      | .ok e => (.ok (), t.emitted e)
      | .error e => (.error e, t.stopped e) := by
  have hready : t.phase.canMoveTo .frameReady = true := by rw [h]; decide
  have hemit : Phase.frameReady.canMoveTo .emit = true := by decide
  simp only [process, Attempt.bind_apply, enter_eq hready, Attempt.state_apply, Options.judge]
  by_cases hsum : t.options.algorithm.compute f.payload = f.checksum
  · simp only [hsum, ne_eq, not_true_eq_false, if_false]
    cases Txn.decode f.payload with
    | error e => rfl
    | ok txn =>
      obtain ⟨header, body⟩ := txn
      -- Only the body of an unknown operation is reported.
      cases body with
      | unknown type raw =>
        simp [Attempt.bind_apply, report, Attempt.modify_apply, enter, hemit, emitAll_eq, count,
          moveTo, emitted, Entry.reports]
      | _ =>
        simp [Attempt.bind_apply, Attempt.modify_apply, enter, hemit, emitAll_eq, count, moveTo,
          emitted, Entry.reports]
  · simp [hsum, Attempt.bind_apply, report, Attempt.modify_apply, Attempt.fail_apply, stopped]

/-- A turn, by what the tailer makes of the bytes at the cursor. -/
theorem turn_eq {t : Tailer} (h : t.phase.canMoveTo .frameWait = true) (cancels : Nat → Bool)
    (c : Cursor) :
    turn cancels c t =
      if cancels t.lines.size then (.error (.interrupted t.records), t.gaveUp)
      else match t.options.look c with
        | .entry e => (.ok (.again (c.advance e.frame.size)), t.emitted e)
        | .unwritten => (.ok .asleep, t.asleep c.position)
        | .ended pending => (.ok (.finished t.records), t.finished c.position pending)
        | .refused e => (.error e, t.stopped e) := by
  simp only [turn, Attempt.bind_apply, enter_eq h, Attempt.state_apply]
  split
  · rw [giveUp_eq rfl]
    rfl
  -- Both sides go by what the read finds, and it finds it at the cursor.
  have hunlimited := CallLimit.productive_unlimited
  unfold Options.look
  cases hread : Frame.read .unlimited t.options.frameLimit c with
  | mk found next =>
    rcases found with e | f | offset | ⟨offset, pending⟩
    · rfl
    · obtain ⟨-, -, -, rfl⟩ := Frame.of_read hunlimited hread
      simp only [Attempt.bind_apply, process_eq (t := { t with phase := .frameWait }) rfl]
      cases hjudge : t.options.judge f with
      | error e => cases e <;> rfl
      | ok e =>
        rw [← (of_judge hjudge).1]
        rfl
    · obtain rfl := Frame.offset_of_emptyTail hunlimited hread
      simp only [Attempt.bind_apply, fallAsleep_eq (t := { t with phase := .frameWait }) rfl]
      rfl
    · obtain ⟨rfl, -⟩ := Frame.of_endOfFile hunlimited hread
      simp only [Attempt.bind_apply, finish_eq (t := { t with phase := .frameWait }) rfl]
      rfl

end Tailer

end TxnLog
