import TxnLog.Proofs.Tailer.Complete
import TxnLog.Proofs.Tailer.Lifecycle
import TxnLog.Proofs.Text.Breaks
import TxnLog.Proofs.Txn.RoundTrip

/-!
# One line for each record

The summary of a transaction has no line break but those of the path in it (`Txn.breaks_summary`):
everything else in it are numerals and fixed words. So the text that is printed for a whole log has
as many lines as there are records, and two more, if no path holds a line break, and otherwise it
has more (`run_prints_lines`): a path is printed as it is, and a record whose path holds a line
break is printed on several lines, which may look like any others (`run_prints_forgedLog`).
-/

namespace TxnLog

open Archive Text

/-! ### The line breaks of a summary -/

/-- The text of a time has no line break. -/
@[simp]
theorem Timestamp.breaks_render (ms : Int) : breaks (render ms) = 0 := by
  unfold render
  split
  · next t _ =>
    simp only [text, breaks_append, breaks_decimal, breaks_decimalPadded]
    rfl
  · rw [breaks_append, breaks_append, breaks_decimal]
    rfl

/-- The name of an operation has no line break. -/
theorem OpCode.breaks_name (op : OpCode) : breaks op.name = 0 := by
  cases op <;> rfl

/-- The display name for a code has no line break. -/
@[simp]
theorem OpCode.breaks_display (n : Int) : breaks (display n) = 0 := by
  unfold display
  split
  · exact breaks_name _
  · rw [breaks_append, breaks_decimal]
    rfl

/-- A number in hexadecimal has no line break. -/
@[simp]
theorem Txn.breaks_hexId (n : Int) : breaks (hexId n) = 0 := by
  rw [hexId, breaks_append, breaks_hexDigits]
  rfl

namespace TxnBody

/-- The path in the summary of a body. -/
def path? : TxnBody → Option String
  | .create path .. | .createContainer path .. | .delete path | .setData path .. => path
  | _ => none

/-- Where a null text is replaced, there is no line break. -/
theorem breaks_orNone (s : Option String) : breaks (orNone s) = s.elim 0 breaks := by
  cases s <;> rfl

/-- The line breaks where a path and the length of data are shown are those of the path. -/
theorem breaks_pathAndLength (path : Option String) (length : Nat) :
    breaks ("path:" ++ orNone path ++ " len:" ++ Text.decimal length) = path.elim 0 breaks := by
  have hpath : breaks "path:" = 0 := by decide
  have hlen : breaks " len:" = 0 := by decide
  rw [breaks_append, breaks_append, breaks_append, breaks_orNone, breaks_decimal, hpath, hlen]
  omega

/-- The line breaks in the summary of a body are those of the path. -/
theorem breaks_summary (b : TxnBody) : breaks b.summary = b.path?.elim 0 breaks := by
  -- A numeral behind a label without line breaks has none.
  have hlabelled {label : String} (h : breaks label = 0) (n : Int) :
      breaks (label ++ Text.decimal n) = 0 := by
    rw [breaks_append, breaks_decimal, h]
  cases b with
  | createSession timeout => exact hlabelled (by decide) timeout
  | closeSession paths => rfl
  | create path data _ _ _ => exact breaks_pathAndLength path data.length
  | createContainer path data _ _ => exact breaks_pathAndLength path data.length
  | setData path data _ => exact breaks_pathAndLength path data.length
  | delete path =>
    have hpath : breaks "path:" = 0 := by decide
    show breaks ("path:" ++ orNone path) = path.elim 0 breaks
    rw [breaks_append, breaks_orNone, hpath, Nat.zero_add]
  | error err => exact hlabelled (by decide) err
  | multi txns => exact hlabelled (by decide) txns.length
  | unknown type _ => exact hlabelled (by decide) type

end TxnBody

/-- The line breaks in the summary of a transaction are those of the path. -/
theorem Txn.breaks_summary (t : Txn) : breaks t.summary = t.body.path?.elim 0 breaks := by
  have hsession : breaks " session:" = 0 := by decide
  have hcxid : breaks " cxid:" = 0 := by decide
  have hzxid : breaks " zxid:" = 0 := by decide
  have hspace : breaks " " = 0 := by decide
  simp only [summary, breaks_append, Timestamp.breaks_render, breaks_hexId, OpCode.breaks_display,
    TxnBody.breaks_summary, hsession, hcxid, hzxid, hspace, Nat.zero_add, Nat.add_zero]

/-! ### Printed lines -/

/-- The lines about transactions where nothing is displayed beside their summaries. -/
def Line.summaries (header : FileHeader) (txns : List Txn) : List Line :=
  .banner header :: txns.map .summary ++ [.finished txns.length]

/-- What is printed are the texts of the lines, each ended by a line break. -/
theorem toList_printed (lines : List Line) :
    (printed lines).toList = (lines.map (·.text.toList)).flatMap (· ++ ['\n']) := by
  unfold printed
  rw [String.toList_join, List.flatMap_map, List.flatMap_map]
  simp only [String.toList_append]
  rfl

/-- Beside the line breaks that end lines there are those in the lines. -/
theorem breaks_printed (lines : List Line) :
    breaks (printed lines) = lines.length + (lines.map fun l => breaks l.text).sum := by
  rw [breaks, toList_printed, count_lines, List.length_map, List.map_map]
  rfl

/-- A reader who splits the printed text finds the lines again if and only if none of them holds a
line break. -/
theorem split_printed_iff (lines : List Line) :
    split '\n' (printed lines).toList = lines.map (·.text.toList) ++ [[]]
      ↔ ∀ l ∈ lines, breaks l.text = 0 := by
  rw [toList_printed, split_lines_iff, List.forall_mem_map]
  simp only [breaks_eq_zero_iff]

/-- The line breaks in the line of a transaction are those of the path. -/
theorem Line.breaks_summary (txn : Txn) :
    breaks (Line.summary txn).text = txn.body.path?.elim 0 breaks := by
  unfold text
  exact txn.breaks_summary

/-- The banner has no line break. -/
theorem Line.breaks_banner (header : FileHeader) : breaks (Line.banner header).text = 0 := by
  have hdbid : breaks "Transactional log file with dbid " = 0 := by decide
  have hversion : breaks " txnlog format version " = 0 := by decide
  unfold text
  rw [breaks_append, breaks_append, breaks_append, breaks_decimal, breaks_decimal, hdbid, hversion]

/-- The line about the end of the file has no line break. -/
theorem Line.breaks_finished (records : Nat) : breaks (Line.finished records).text = 0 := by
  have hafter : breaks "EOF reached after " = 0 := by decide
  have htxns : breaks " txns." = 0 := by decide
  unfold text
  rw [breaks_append, breaks_append, breaks_decimal, hafter, htxns]

/-- The line breaks in summaries are those that end the lines and those of the paths. -/
theorem breaks_printed_summaries (header : FileHeader) (txns : List Txn) :
    breaks (printed (Line.summaries header txns))
      = txns.length + 2 + (txns.map fun txn => txn.body.path?.elim 0 breaks).sum := by
  have hpaths : (txns.map Line.summary).map (fun l => breaks l.text)
      = txns.map fun txn => txn.body.path?.elim 0 breaks := by
    rw [List.map_map]
    refine List.map_congr_left fun txn _ => ?_
    rw [Function.comp_apply, Line.breaks_summary]
  have hlength : (Line.summaries header txns).length = txns.length + 2 := by
    simp [Line.summaries]
  have hsum : ((Line.summaries header txns).map fun l => breaks l.text).sum
      = ((txns.map Line.summary).map fun l => breaks l.text).sum := by
    rw [Line.summaries, List.map_append, List.map_cons, List.sum_append, List.sum_cons,
      Line.breaks_banner, List.map_singleton, List.sum_singleton, Line.breaks_finished]
    omega
  rw [breaks_printed, hlength, hsum, hpaths]

/-- A reader who splits printed summaries finds them again, with the banner and the line about the
end, if and only if no path holds a line break. -/
theorem split_printed_summaries_iff (header : FileHeader) (txns : List Txn) :
    split '\n' (printed (Line.summaries header txns)).toList
        = (Line.summaries header txns).map (·.text.toList) ++ [[]]
      ↔ ∀ txn ∈ txns, ∀ path ∈ txn.body.path?, '\n' ∉ path.toList := by
  rw [split_printed_iff]
  constructor
  · intro h txn htxn path hpath
    have hmem : Line.summary txn ∈ Line.summaries header txns := by
      simp [Line.summaries, htxn]
    have hnone := h (Line.summary txn) hmem
    rw [Line.breaks_summary, Option.mem_def.mp hpath] at hnone
    exact breaks_eq_zero_iff.mp hnone
  · intro h l hl
    simp only [Line.summaries, List.cons_append, List.mem_cons, List.mem_append, List.mem_map,
      List.not_mem_nil, or_false] at hl
    obtain rfl | ⟨txn, htxn, rfl⟩ | rfl := hl
    · exact Line.breaks_banner header
    · rw [Line.breaks_summary]
      cases hpath : txn.body.path? with
      | none => rfl
      | some path => exact breaks_eq_zero_iff.mpr (h txn htxn path hpath)
    · exact Line.breaks_finished _

namespace Tailer

/-- Where nothing is displayed beside them, the summaries are printed for deeds. -/
theorem history_plain (records : Nat) (deeds : List Deed) :
    history {} records deeds = ((Deed.entries deeds).map (·.txn)).map .summary := by
  induction deeds generalizing records with
  | nil => rfl
  | cons deed deeds ih =>
    cases deed with
    | emitted e =>
      rw [history, ih, Deed.entries_emitted_cons]
      rfl
    | waited =>
      rw [history, ih, Deed.entries_waited_cons]
      rfl

/-- A run that displays nothing beside the summaries and is done has printed one line for the
banner, one for the summary of each transaction, in order, and one for the end of the file. Each of
them is ended by a line break, and the only other line breaks in the printed text are those in the
paths. So a reader who splits the text finds exactly these lines if and only if no path holds a line
break. -/
theorem run_prints_lines {o : Options} (hplain : o.display = {}) {s : Scene}
    {outcome : Except Error Nat} {t : Tailer} {final : Scene}
    (hrun : run { options := o } s = (outcome, t, final)) (hdone : t.phase = .done) :
    ∃ header deeds m last, FileHeader.decode s.content = .ok header
      ∧ Reaches { options := o } s deeds m
      ∧ m.Ends last (outcome, t, final)
      ∧ ∃ txns, txns = (Deed.entries deeds).map (·.txn)
        ∧ txns.length = t.records
        ∧ t.lines.toList = Line.summaries header txns
        ∧ breaks (printed t.lines.toList)
          = t.records + 2 + (txns.map fun txn => txn.body.path?.elim 0 breaks).sum
        ∧ (split '\n' (printed t.lines.toList).toList
            = (Line.summaries header txns).map (·.text.toList) ++ [[]]
          ↔ ∀ txn ∈ txns, ∀ path ∈ txn.body.path?, '\n' ∉ path.toList) := by
  -- Without a file or a header no run is done.
  have hpresent : s.present = true := by
    by_contra habsent
    rw [run_of_absent _ (Bool.eq_false_iff.mpr habsent), Prod.mk.injEq, Prod.mk.injEq] at hrun
    obtain ⟨-, rfl, -⟩ := hrun
    contradiction
  obtain ⟨header, hheader⟩ : ∃ header, FileHeader.decode s.content = .ok header := by
    cases hheader : FileHeader.decode s.content with
    | ok header => exact ⟨header, rfl⟩
    | error e =>
      rw [run_of_header_error rfl hpresent hheader, Prod.mk.injEq, Prod.mk.injEq] at hrun
      obtain ⟨-, rfl, -⟩ := hrun
      contradiction
  obtain ⟨deeds, m, last, hreach, hends⟩ := exists_reaches_ends
    (t := { options := o }) rfl hpresent hheader
  rw [hrun] at hends
  obtain ⟨records, rfl⟩ := hends.settled.done.mp hdone
  have htally := (hends.concluded (hreach.sound rfl) (hreach.tally hheader)).tally
  have hentries := hends.entries_append deeds
  have hlength : ((Deed.entries deeds).map (·.txn)).length = t.records := by
    rw [List.length_map, htally.records, hentries]
  have hrecords : t.records = records := hends.settled.records records (.inl rfl)
  have hlines : t.lines.toList = Line.summaries header ((Deed.entries deeds).map (·.txn)) := by
    rw [htally.lines, hplain, history_plain, hentries, Line.summaries, hlength, hrecords]
    rfl
  refine ⟨header, deeds, m, last, hheader, hreach, hends, _, rfl, hlength, hlines, ?_, ?_⟩
  · rw [hlines, breaks_printed_summaries, hlength]
  · rw [hlines]
    exact split_printed_summaries_iff ..

/-- The run on the growing file prints three lines. -/
theorem run_prints_lines_growing :
    ∃ t header txns, run { options := .plain } .growing
        = (.ok 1, t, { content := Log.single.bytes })
      ∧ txns.length = 1
      ∧ t.lines.toList = Line.summaries header txns
      ∧ breaks (printed t.lines.toList)
        = 3 + (txns.map fun txn => txn.body.path?.elim 0 breaks).sum
      ∧ (split '\n' (printed t.lines.toList).toList
          = (Line.summaries header txns).map (·.text.toList) ++ [[]]
        ↔ ∀ txn ∈ txns, ∀ path ∈ txn.body.path?, '\n' ∉ path.toList) := by
  obtain ⟨t, hrun, hdone, -⟩ := run_growing
  obtain ⟨header, deeds, m, last, -, -, hends, txns, -, hlength, hlines, hbreaks, hsplit⟩ :=
    run_prints_lines (o := .plain) rfl hrun hdone
  have hrecords : t.records = 1 := hends.settled.records 1 (.inl rfl)
  rw [hrecords] at hlength hbreaks
  exact ⟨t, header, txns, hrun, hlength, hlines, hbreaks, hsplit⟩

/-! ### A path with a line break -/

/-- The header of a deletion. -/
def deletionHeader : TxnHeader := ⟨0, 0, 0, 0, OpCode.delete.code⟩

/-- The deletion of a node is decoded from what it is written as, whatever its path is. -/
theorem decode_deletion {path : Option String} (hfits : Field.FitsString path) :
    Txn.decode (deletionHeader.encode ++ Field.string path)
      = .ok ⟨deletionHeader, .delete path⟩ := by
  have hheader : deletionHeader.Fits := by constructor <;> decide
  have hdelete : TxnBody.read OpCode.delete.code = TxnBody.readDelete :=
    TxnBody.read_code (by decide)
  have hbody : Reads (TxnBody.read deletionHeader.type) (Field.string path) (.delete path) := by
    rw [deletionHeader, hdelete]
    exact (reads_string _ hfits).map _
  have hread : Reads Txn.read (deletionHeader.encode ++ Field.string path)
      ⟨deletionHeader, .delete path⟩ := (TxnHeader.reads hheader).bind (hbody.map _)
  have hempty : (deletionHeader.encode ++ Field.string path).isEmpty = false := rfl
  rw [Txn.decode, hempty, Cursor.ofBytes, hread.last]
  rfl

/-- A path that goes on with the line about the end of the file. -/
def forgedPath : String := "/\nEOF reached after 7 txns."

/-- The record of the deletion of a node with this path. -/
def forgedRecord : LogRecord .plain where
  payload := deletionHeader.encode ++ Field.string (some forgedPath)
  txn := ⟨deletionHeader, .delete (some forgedPath)⟩
  pos := by decide +kernel
  limit := by decide +kernel
  fits := by decide +kernel
  decode := decode_deletion (by rintro _ ⟨⟩; decide +kernel)

/-- A log of this record. -/
def forgedLog : Log .plain := { Log.single with records := [forgedRecord] }

/-- The run on this log is done after one transaction, but a reader who splits the printed text
finds four lines, and the third of them tells of the end of the file after seven. -/
theorem run_prints_forgedLog :
    ∃ t, run { options := .plain } { content := forgedLog.bytes }
        = (.ok 1, t, { content := forgedLog.bytes })
      ∧ t.phase = .done
      ∧ (split '\n' (printed t.lines.toList).toList).map String.ofList = [
        "Transactional log file with dbid 0 txnlog format version 2",
        "1970-01-01 00:00:00.000Z session:0x0 cxid:0x0 zxid:0x0 delete path:/",
        "EOF reached after 7 txns.",
        "EOF reached after 1 txns.",
        ""] := by
  have hheader : FileHeader.decode forgedLog.bytes = .ok forgedLog.header :=
    forgedLog.decode_head _
  obtain ⟨t, hreach⟩ := reaches_of_reads (s := { content := forgedLog.bytes }) (fun _ => rfl)
    hheader (reads_log forgedLog)
  -- The entry has been emitted, and nothing is ahead.
  have htally := hreach.tally hheader
  have hrecords : t.records = 1 := by
    rw [htally.records, Deed.entries_map_emitted, LogRecord.length_entries]
    rfl
  have hlook : t.options.look (Cursor.seek forgedLog.bytes forgedLog.bytes.length) = .ended 0 := by
    rw [look_of_length_lt] <;> simp [Frame.prefixSize]
  obtain ⟨last, hends⟩ := hreach.ends rfl rfl (.inl ⟨_, hlook⟩)
  obtain ⟨rfl, hrun⟩ := hends.of_ended (hreach.sound rfl) rfl hlook
  have hlines : (t.finished t.offset 0).lines.toList
      = Line.summaries forgedLog.header [forgedRecord.txn] := by
    rw [(htally.finished t.offset 0).lines, history_map_emitted, LogRecord.txn_entries, hrecords]
    rfl
  refine ⟨t.finished t.offset 0, ?_, rfl, ?_⟩
  · rw [hrun, hrecords]
  · rw [hlines]
    decide +kernel

end Tailer

end TxnLog
