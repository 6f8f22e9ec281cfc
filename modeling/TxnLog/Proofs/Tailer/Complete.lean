import TxnLog.Proofs.Tailer.Reading

/-!
# Runs on complete logs

On the bytes of a whole log a run prints the banner, every record and the line about the end of
the file, and returns the number of the records (`run_complete`): the header is read back, the
records are read up to the end of the file, and there the run is done.
-/

namespace TxnLog.Tailer

variable {o : Options}

/-- The records of a log are read behind its header, up to the end of the file. -/
theorem reads_log (log : Log o) :
    o.Reads (Cursor.seek log.bytes FileHeader.size)
      (LogRecord.entries FileHeader.size log.records)
      (Cursor.seek log.bytes log.bytes.length) := by
  have hrest : (Cursor.seek log.bytes FileHeader.size).rest
      = LogRecord.stored log.records ++ [] := by
    rw [Cursor.seek_rest, Log.bytes, List.append_nil, List.drop_left' log.length_head]
  have hlength : log.bytes.length = FileHeader.size + (LogRecord.stored log.records).length := by
    unfold Log.bytes
    rw [List.length_append, log.length_head]
  have hreads := reads_entries hrest
  rwa [Cursor.advance_seek, ← hlength] at hreads

/-- A run of a fresh tailer on a whole log that is not cancelled returns the number of records,
does not wait, is done at the end of the file, and prints the banner, the lines of every record
in order, and the line about the end of the file. -/
theorem run_complete (log : Log o) (s : Scene) (hpresent : s.present = true)
    (hcontent : s.content = log.bytes) (hcancels : ∀ lines, s.cancels lines = false) :
    ∃ t, run { options := o } s = (.ok log.records.length, t, s)
      ∧ t.phase = .done
      ∧ t.offset = s.content.length
      ∧ t.records = log.records.length
      ∧ t.waits = #[]
      ∧ t.lines.toList = .banner log.header
        :: log.records.flatMap (fun r => Line.ofTxn o.display r.txn)
        ++ [.finished log.records.length] := by
  have hheader : FileHeader.decode s.content = .ok log.header := by
    rw [hcontent, Log.bytes]
    exact log.decode_head _
  have hreads := reads_log log
  rw [← hcontent] at hreads
  obtain ⟨t, hreach⟩ := reaches_of_reads hcancels hheader hreads
  have hsound := hreach.sound rfl
  -- Nothing is ahead at the end of the file.
  have hlook : t.options.look (Cursor.seek s.content s.content.length) = .ended 0 := by
    rw [look_of_length_lt] <;> simp [Frame.prefixSize]
  obtain ⟨last, hends⟩ := hreach.ends rfl hpresent (.inl ⟨_, hlook⟩)
  obtain ⟨rfl, hrun⟩ := hends.of_ended hsound (hcancels _) hlook
  have htally := hreach.tally hheader
  have hrecords : t.records = log.records.length := by
    rw [htally.records, Deed.entries_map_emitted, LogRecord.length_entries]
  have hfinished := htally.finished t.offset 0
  refine ⟨t.finished t.offset 0, ?_, rfl, hsound.position.symm, hrecords, ?_, ?_⟩
  · rw [hrun, ← hrecords]
  · have hwaits := hfinished.waits
    rw [pauses_map_emitted] at hwaits
    exact Array.toList_inj.mp hwaits
  · rw [hfinished.lines, history_map_emitted, LogRecord.txn_entries, List.flatMap_map, hrecords]

/-- A run on a log of one record. -/
theorem run_complete_single :
    ∃ t, run { options := .plain } { content := Log.single.bytes }
        = (.ok 1, t, { content := Log.single.bytes })
      ∧ t.phase = .done
      ∧ t.offset = 62
      ∧ t.records = 1
      ∧ t.waits = #[]
      ∧ t.lines.toList
        = [.banner ⟨FileHeader.magicNumber, 2, 0⟩, .summary LogRecord.plain.txn, .finished 1] :=
  run_complete Log.single { content := Log.single.bytes } rfl rfl fun _ => rfl

end TxnLog.Tailer
