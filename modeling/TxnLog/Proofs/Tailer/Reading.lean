import TxnLog.Proofs.Log
import TxnLog.Proofs.Tailer.Bookkeeping

/-!
# What is read between two cursors

`Options.Reads` says which entries are seen one after the other from one cursor to another. It
depends on no byte behind the second one (`Reads.of_take_eq`), and records are read where they
are stored (`reads_entries`). A run that is not cancelled comes to the second cursor by emitting
the entries, without a wait (`reaches_of_reads`).
-/

namespace TxnLog.Tailer

variable {o : Options}

/-- The entries are seen one after the other between two cursors. -/
inductive Options.Reads (o : Options) (c : Cursor) : List Entry → Cursor → Prop where
  | nil : o.Reads c [] c
  | snoc {entries : List Entry} {c' : Cursor} {e : Entry} (hreads : o.Reads c entries c')
      (hlook : o.look c' = .entry e) :
      o.Reads c (entries ++ [e]) (c'.advance e.frame.size)

namespace Options.Reads

variable {c c' : Cursor} {entries : List Entry} {e : Entry}

/-- An entry is seen before others. -/
theorem cons (hlook : o.look c = .entry e)
    (hreads : o.Reads (c.advance e.frame.size) entries c') : o.Reads c (e :: entries) c' := by
  induction hreads with
  | nil => exact Reads.nil.snoc hlook
  | snoc _ hlast ih => exact ih.snoc hlast

/-- What is read is behind by as many bytes as the entries take. -/
theorem eq_advance (hreads : o.Reads c entries c') :
    c' = c.advance (Entry.totalSize entries) := by
  induction hreads with
  | nil => rfl
  | snoc _ _ ih => rw [ih, Cursor.advance_advance]; simp [Entry.totalSize]

end Options.Reads

/-- An entry is seen in every content with the same bytes up to its end. -/
theorem look_of_take_eq {content content' : Bytes} {p : Nat} {e : Entry}
    (hlook : o.look (Cursor.seek content p) = .entry e)
    (htake : content'.take (p + e.frame.size) = content.take (p + e.frame.size)) :
    o.look (Cursor.seek content' p) = .entry e := by
  rw [look_eq_entry_iff] at hlook ⊢
  obtain ⟨hvalid, hoffset, hrest⟩ := hlook
  refine ⟨hvalid, hoffset, ?_⟩
  rw [Cursor.seek_rest, Cursor.advance_seek, Cursor.seek_rest] at hrest
  -- The frame stands before the end of what the contents share.
  have hframe : (content.take (p + e.frame.size)).drop p = e.frame.encode := by
    rw [List.drop_take, Nat.add_sub_cancel_left, hrest, List.take_left' (Frame.length_encode _)]
  rw [Cursor.seek_rest, Cursor.advance_seek, Cursor.seek_rest]
  calc content'.drop p
      = (content'.drop p).take e.frame.size ++ (content'.drop p).drop e.frame.size :=
        (List.take_append_drop ..).symm
    _ = (content'.take (p + e.frame.size)).drop p ++ content'.drop (p + e.frame.size) := by
      rw [List.drop_take, Nat.add_sub_cancel_left, List.drop_drop]
    _ = e.frame.encode ++ content'.drop (p + e.frame.size) := by rw [htake, hframe]

/-- The same entries are read in every content with the same bytes up to their end. -/
theorem Options.Reads.of_take_eq {content content' : Bytes} {p q : Nat} {entries : List Entry}
    (hreads : o.Reads (Cursor.seek content p) entries (Cursor.seek content q))
    (htake : content'.take q = content.take q) :
    o.Reads (Cursor.seek content' p) entries (Cursor.seek content' q) := by
  generalize hc : Cursor.seek content q = c at hreads
  induction hreads generalizing q with
  | nil =>
    obtain rfl : q = p := congrArg Cursor.position hc
    exact .nil
  | @snoc entries c' e hreads hlook ih =>
    have hc' := hreads.eq_advance
    rw [Cursor.advance_seek] at hc'
    subst hc'
    obtain rfl : q = p + Entry.totalSize entries + e.frame.size := congrArg Cursor.position hc
    -- The entries before it are read in the shared bytes, too.
    have hbefore : content'.take (p + Entry.totalSize entries)
        = content.take (p + Entry.totalSize entries) := by
      have h := congrArg (List.take (p + Entry.totalSize entries)) htake
      rwa [List.take_take, List.take_take, Nat.min_eq_left (Nat.le_add_right ..)] at h
    rw [← Cursor.advance_seek]
    exact (ih hbefore rfl).snoc (look_of_take_eq hlook htake)

/-- Records are read where they are stored. -/
theorem reads_entries {c : Cursor} {records : List (LogRecord o)} {rest : Bytes}
    (hrest : c.rest = LogRecord.stored records ++ rest) :
    o.Reads c (LogRecord.entries c.position records)
      (c.advance (LogRecord.stored records).length) := by
  induction records generalizing c with
  | nil => exact .nil
  | cons r records ih =>
    rw [LogRecord.stored_cons, List.append_assoc] at hrest
    have hlook := LogRecord.look_bytes hrest
    have hsize : r.bytes.length = (r.entry c.position).frame.size := r.length_bytes _
    have hmore : (c.advance r.bytes.length).rest = LogRecord.stored records ++ rest := by
      rw [Cursor.advance_rest, hrest, List.drop_left]
    have h := ih hmore
    rw [Cursor.advance_advance, ← List.length_append, ← LogRecord.stored_cons] at h
    exact .cons hlook (hsize ▸ h)

/-! ### Runs without a wait -/

/-- The options of a tailer stay the same. -/
theorem Reaches.options_eq {s : Scene} {deeds : List Deed} {m : Moment}
    (h : Reaches { options := o } s deeds m) : m.tailer.options = o := by
  obtain ⟨header, hheader, -⟩ := (reaches_iff rfl).mp h
  exact (h.tally hheader).options

/-- A run that is not cancelled emits what is to be read behind the header. -/
theorem reaches_of_reads {s : Scene} (hcancels : ∀ lines, s.cancels lines = false)
    {header : FileHeader} (hheader : FileHeader.decode s.content = .ok header)
    {entries : List Entry} {c : Cursor}
    (hreads : o.Reads (Cursor.seek s.content FileHeader.size) entries c) :
    ∃ t, Reaches { options := o } s (entries.map .emitted) ⟨s, c, t⟩ := by
  induction hreads with
  | nil => exact ⟨_, reaches_opening rfl hheader⟩
  | @snoc entries c e _ hlook ih =>
    obtain ⟨t, hreach⟩ := ih
    have hstep : Moment.Step ⟨s, c, t⟩ (.emitted e) ⟨s, c.advance e.frame.size, t.emitted e⟩ := by
      refine (Moment.step_emitted_iff (hreach.sound rfl)).mpr ⟨hcancels _, ?_, rfl⟩
      rw [hreach.options_eq]
      exact hlook
    rw [List.map_append]
    exact ⟨_, hreach.snoc rfl hstep⟩

/-- The entries of deeds that only emit. -/
theorem Deed.entries_map_emitted (entries : List Entry) :
    Deed.entries (entries.map .emitted) = entries := by
  induction entries with
  | nil => rfl
  | cons e entries ih =>
    rw [List.map_cons, Deed.entries, List.filterMap_cons]
    exact congrArg (e :: ·) ih

/-- What is printed for deeds that only emit. -/
theorem history_map_emitted (d : Display) (records : Nat) (entries : List Entry) :
    history d records (entries.map .emitted)
      = (entries.map (·.txn)).flatMap (Line.ofTxn d) := by
  induction entries generalizing records with
  | nil => rfl
  | cons e entries ih => rw [List.map_cons, history, ih, List.map_cons, List.flatMap_cons]

/-- Deeds that only emit have no waits. -/
theorem pauses_map_emitted (offset records : Nat) (entries : List Entry) :
    pauses o offset records (entries.map .emitted) = [] := by
  induction entries generalizing offset records with
  | nil => rfl
  | cons e entries ih => rw [List.map_cons, pauses, ih]

end TxnLog.Tailer
