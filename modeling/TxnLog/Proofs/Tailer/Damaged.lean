import TxnLog.Proofs.Checksum.OneByte
import TxnLog.Proofs.Frame.OneByte
import TxnLog.Proofs.Tailer.Reading

/-!
# Logs with one changed byte

A byte of a record that is changed after it was written does not go unnoticed, unless it is in
the length field: a byte of the checksum or of the payload makes the checksum wrong, and another
byte in the trailer's place is refused (`LogRecord.look_damaged`). A run prints the records before
it as they are, fails at the start of the damaged one, and says why (`run_damaged`).
-/

namespace TxnLog

variable {o : Tailer.Options}

namespace LogRecord

/-- The `i`-th byte of the record is in its checksum, in its payload or in the trailer's place. -/
def Protects (r : LogRecord o) (i : Nat) : Prop :=
  i < 8 ∨ Frame.prefixSize ≤ i ∧ i ≤ Frame.prefixSize + r.payload.length

/-- Such a byte is one of the record. -/
theorem Protects.lt {r : LogRecord o} {i : Nat} (hi : r.Protects i) : i < r.bytes.length := by
  have hsize : r.bytes.length = Frame.prefixSize + r.payload.length + 1 := r.length_bytes 0
  unfold Protects Frame.prefixSize at hi
  unfold Frame.prefixSize at hsize
  omega

/-- Why the record at an offset is refused after its `i`-th byte was changed to `b`. -/
def damage (r : LogRecord o) (offset i : Nat) (b : UInt8) : Tailer.Error :=
  let computed := o.algorithm.compute r.payload
  if i < 8 then
    .checksumMismatch offset (BigEndian.toNat ((r.bytes.take 8).set i b)) computed
  else if i < Frame.prefixSize + r.payload.length then
    .checksumMismatch offset computed
      (o.algorithm.compute (r.payload.set (i - Frame.prefixSize) b))
  else
    .frame (.wrongTrailer b (offset + (Frame.prefixSize + r.payload.length)))

/-- A record starts with its checksum. -/
theorem take_bytes (r : LogRecord o) :
    r.bytes.take 8 = BigEndian.ofNat 8 (o.algorithm.compute r.payload) := by
  have hencode := Frame.encode_append (r.frame 0) []
  rw [List.append_nil] at hencode
  rw [bytes, hencode]
  exact List.take_left' (BigEndian.length_ofNat ..)

/-- Behind checksum and length stands the payload, and then the trailer. -/
theorem drop_bytes (r : LogRecord o) :
    r.bytes.drop Frame.prefixSize = r.payload ++ [Frame.mark] := by
  rw [bytes, Frame.encode, List.append_assoc]
  exact List.drop_left' (Frame.length_prefix _)

/-- A changed checksum field holds another number. -/
theorem stored_ne (r : LogRecord o) {i : Nat} (hi : i < 8) {b : UInt8}
    (hb : r.bytes[i]? ≠ some b) :
    BigEndian.toNat ((r.bytes.take 8).set i b) ≠ o.algorithm.compute r.payload := by
  intro heq
  have hlength : (r.bytes.take 8).length = 8 := by
    rw [take_bytes, BigEndian.length_ofNat]
  have hset : (r.bytes.take 8).set i b = r.bytes.take 8 := by
    apply BigEndian.eq_of_toNat_eq (List.length_set ..)
    rw [heq, take_bytes, BigEndian.toNat_ofNat (Checksum.Algorithm.compute_lt ..)]
  have hget : ((r.bytes.take 8).set i b)[i]? = some b :=
    List.getElem?_set_self (by rw [hlength]; exact hi)
  rw [hset, List.getElem?_take_of_lt hi] at hget
  exact hb hget

/-- A frame whose checksum is not that of its payload is refused for it. -/
theorem look_of_mismatch {c : Cursor} {f : Frame} {rest : Bytes}
    (hf : f.WellFormed o.frameLimit) (hoffset : f.offset = c.position)
    (hrest : c.rest = f.encode ++ rest) (hsum : o.algorithm.compute f.payload ≠ f.checksum) :
    o.look c = .refused
      (.checksumMismatch c.position f.checksum (o.algorithm.compute f.payload)) := by
  unfold Tailer.Options.look
  rw [Frame.read_encode CallLimit.productive_unlimited hf hoffset hrest]
  simp [Tailer.Options.judge, hsum, hoffset]

/-- Where a record with a changed byte stands, it is refused, and rightly so. -/
theorem look_damaged {c : Cursor} {r : LogRecord o} {i : Nat} (hi : r.Protects i) {b : UInt8}
    (hb : r.bytes[i]? ≠ some b) {rest : Bytes} (hrest : c.rest = r.bytes.set i b ++ rest) :
    o.look c = .refused (r.damage c.position i b) := by
  have hwell := r.wellFormed_frame c.position
  rw [← r.encode_frame c.position] at hrest
  unfold damage
  obtain hchecksum | ⟨hbehind, hlast⟩ := hi
  -- The checksum field.
  · have hne := r.stored_ne hchecksum hb
    have hlt := BigEndian.toNat_lt ((r.bytes.take 8).set i b)
    rw [List.length_set, take_bytes, BigEndian.length_ofNat] at hlt
    rw [take_bytes] at hne
    rw [Frame.encode_set_checksum _ hchecksum] at hrest
    rw [if_pos hchecksum, take_bytes]
    exact look_of_mismatch (hwell.with_checksum hlt) rfl hrest hne.symm
  rw [if_neg (by unfold Frame.prefixSize at hbehind; omega)]
  obtain ⟨j, rfl⟩ := Nat.exists_eq_add_of_le hbehind
  rw [← List.getElem?_drop, drop_bytes] at hb
  rcases Nat.lt_or_eq_of_le hlast with hpayload | hplace
  -- The payload.
  · have hj : j < r.payload.length := by omega
    rw [List.getElem?_append_left hj, List.getElem?_eq_getElem hj] at hb
    have hne := o.algorithm.compute_set_ne hj (fun heq => hb (congrArg some heq))
    rw [Frame.encode_set_payload _ hj] at hrest
    rw [if_pos hpayload, Nat.add_sub_cancel_left]
    exact look_of_mismatch (hwell.with_payload (List.length_set ..)) rfl hrest hne
  -- The trailer.
  · obtain rfl : j = r.payload.length := by omega
    rw [List.getElem?_append_right (Nat.le_refl _), Nat.sub_self] at hb
    have hmark : b ≠ Frame.mark := fun heq => hb (congrArg some heq.symm)
    rw [if_neg (Nat.lt_irrefl _)]
    have hrest' : c.rest = { r.frame c.position with trailer := b }.encode ++ rest := by
      rw [← Frame.encode_set_trailer]
      exact hrest
    unfold Tailer.Options.look
    rw [Frame.read_wrongTrailer CallLimit.productive_unlimited hwell hmark hrest']
    rfl

end LogRecord

namespace Tailer

/-- A run that is not cancelled, on a log in which one byte of a record was changed, in its
checksum, its payload or the trailer's place, prints the banner and the records before it, and
fails at its start for a wrong checksum or trailer, whatever stands behind the log. -/
theorem run_damaged (log : Log o) (s : Scene) (hpresent : s.present = true)
    (hcancels : ∀ lines, s.cancels lines = false) {before after : List (LogRecord o)}
    {r : LogRecord o} (hrecords : log.records = before ++ r :: after) {offset : Nat}
    (hoffset : offset = FileHeader.size + (LogRecord.stored before).length) {i : Nat}
    (hi : r.Protects i) {b : UInt8} (hb : r.bytes[i]? ≠ some b) (rest : Bytes)
    (hcontent : s.content = (log.bytes ++ rest).set (offset + i) b) :
    ∃ t, run { options := o } s = (.error (r.damage offset i b), t, s)
      ∧ t.phase = .fatal
      ∧ t.records = before.length
      ∧ t.offset = offset
      ∧ t.waits = #[]
      ∧ t.lines.toList
        = .banner log.header :: before.flatMap (fun r => Line.ofTxn o.display r.txn) := by
  have hlength : (log.head ++ LogRecord.stored before).length = offset := by
    rw [List.length_append, log.length_head, hoffset]
  -- The damaged byte is behind the records before.
  have hsplit : s.content = log.head ++ (LogRecord.stored before
      ++ (r.bytes.set i b ++ (LogRecord.stored after ++ rest))) := by
    rw [hcontent, Log.bytes, hrecords, LogRecord.stored_append, LogRecord.stored_cons, ← hlength,
      ← List.append_assoc log.head, List.append_assoc _ _ rest,
      List.set_append_right _ _ (Nat.le_add_right ..), Nat.add_sub_cancel_left,
      List.append_assoc r.bytes, List.set_append_left _ _ hi.lt, List.append_assoc]
  have hheader : FileHeader.decode s.content = .ok log.header := by
    rw [hsplit]
    exact log.decode_head _
  have hreads : o.Reads (Cursor.seek s.content FileHeader.size)
      (LogRecord.entries FileHeader.size before) (Cursor.seek s.content offset) := by
    have hrest : (Cursor.seek s.content FileHeader.size).rest = LogRecord.stored before
        ++ (r.bytes.set i b ++ (LogRecord.stored after ++ rest)) := by
      rw [Cursor.seek_rest, hsplit, List.drop_left' log.length_head]
    have hreads := reads_entries hrest
    rwa [Cursor.advance_seek, ← hoffset] at hreads
  obtain ⟨t, hreach⟩ := reaches_of_reads hcancels hheader hreads
  have hsound := hreach.sound rfl
  have htally := hreach.tally hheader
  -- There the damaged record stands.
  have hlook : t.options.look (Cursor.seek s.content offset)
      = .refused (r.damage offset i b) := by
    have hrest : (Cursor.seek s.content offset).rest
        = r.bytes.set i b ++ (LogRecord.stored after ++ rest) := by
      rw [Cursor.seek_rest, hsplit, ← List.append_assoc, List.drop_left' hlength]
    rw [htally.options]
    exact LogRecord.look_damaged hi hb hrest
  obtain ⟨last, hends⟩ := hreach.ends rfl hpresent (.inr ⟨_, hlook⟩)
  obtain ⟨rfl, hrun⟩ := hends.of_refused hsound (hcancels _) hlook
  have hfailed : Tally o log.header _ [] (t.failed (r.damage offset i b)) := htally.of_eq rfl
  refine ⟨t.failed (r.damage offset i b), hrun, rfl, ?_, hsound.position.symm, ?_, ?_⟩
  · rw [hfailed.records, Deed.entries_map_emitted, LogRecord.length_entries]
  · have hwaits := hfailed.waits
    rw [pauses_map_emitted] at hwaits
    exact Array.toList_inj.mp hwaits
  · rw [hfailed.lines, history_map_emitted, LogRecord.txn_entries, List.flatMap_map,
      List.append_nil]

/-- A run on a log of two records, the first byte of the second payload changed, and a byte
behind the log. -/
theorem run_damaged_second :
    ∃ t, run { options := .plain } { content := (Log.double.bytes ++ [7]).set 74 1 }
        = (.error (.checksumMismatch 62 15466601 17629290), t,
          { content := (Log.double.bytes ++ [7]).set 74 1 })
      ∧ t.phase = .fatal
      ∧ t.records = 1
      ∧ t.offset = 62
      ∧ t.waits = #[]
      ∧ t.lines.toList
        = [.banner ⟨FileHeader.magicNumber, 2, 0⟩, .summary LogRecord.plain.txn] := by
  have hrecords : Log.double.records = [.plain] ++ LogRecord.plain :: [] := rfl
  have hoffset : 62 = FileHeader.size + (LogRecord.stored [LogRecord.plain]).length := by decide
  have hdamage : LogRecord.plain.damage 62 12 1
      = .checksumMismatch 62 15466601 17629290 := by decide
  rw [← hdamage]
  exact run_damaged Log.double _ rfl (fun _ => rfl) hrecords hoffset (.inr (by decide))
    (by decide) [7] rfl

end Tailer

end TxnLog
