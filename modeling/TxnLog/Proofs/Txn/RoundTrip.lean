import TxnLog.Proofs.Txn.Form

/-!
# Transactions are read back

A transaction is decoded from what it is written as (`decode_written`), in the layout of every
operation and to any depth of multi transactions. A layout reads its fields in a row. Two layouts
ask how much is left, so a body is read as the last thing in its archive, which it is: the body of
a transaction ends its payload, and that of a sub-operation its buffer. The recursion is that of
the form: a multi transaction is read as codes and buffers (`SubForm.reads_raw`), and then every
buffer as a body of its own.
-/

namespace TxnLog

open Archive

/-! ### Headers and entries -/

/-- A header is read from what it is written as. -/
theorem TxnHeader.reads {h : TxnHeader} (hfits : h.Fits) : Reads TxnHeader.read h.encode h := by
  unfold encode
  simp only [List.append_assoc]
  refine (reads_long _ hfits.clientId).bind ((reads_int _ hfits.cxid).bind
    ((reads_long _ hfits.zxid).bind ((reads_long _ hfits.time).bind ?_)))
  exact (reads_int _ hfits.type).map _

/-- An entry is read from what it is written as. -/
theorem Acl.reads {a : Acl} (hfits : a.Fits) : Reads Acl.read a.encode a := by
  unfold encode
  rw [List.append_assoc]
  refine (reads_int _ hfits.perms).bind ((reads_string _ hfits.scheme).bind ?_)
  exact (reads_string _ hfits.id).map _

/-- A buffer is read from its field, null as empty. -/
theorem Archive.reads_bytes (tag : String) {ob : Option Bytes} (h : Field.FitsBuffer ob) :
    Reads (bytes tag) (Field.buffer ob) (ob.getD []) := by
  unfold bytes
  exact (reads_buffer tag h).map _

/-! ### Operations and their layouts -/

/-- An operation is found by its code. -/
theorem OpCode.ofCode?_code (op : OpCode) : ofCode? op.code = some op := by
  cases op <;> rfl

namespace TxnBody

/-- The body of every operation but a multi transaction is read in the operation's layout. -/
theorem read_code {op : OpCode} (hop : op ≠ .multi) : read op.code =
    match op with
    | .createSession => readCreateSession
    | .closeSession => readCloseSession
    | .create | .create2 => readCreate
    | .createContainer => readCreateContainer
    | .delete | .deleteContainer => readDelete
    | .setData | .reconfig => readSetData
    | .error => readError
    | _ => readUnknown op.code := by
  funext c
  rw [read, OpCode.ofCode?_code]
  cases op <;> first | rfl | contradiction

/-- The body of an operation without a layout is kept as it is. -/
theorem read_unknown {code : Int} (h : ∀ op ∈ OpCode.withLayout, code ≠ op.code) :
    read code = readUnknown code := by
  cases hop : OpCode.ofCode? code with
  | none =>
    funext c
    rw [read, hop]
  | some op =>
    -- There are operations that have a code, but no layout.
    have hcode : op.code = code := by simpa using List.find?_some hop
    subst hcode
    have hwithout : op ∉ OpCode.withLayout := fun hmem => h op hmem rfl
    rw [read_code (by rintro rfl; exact hwithout (by decide))]
    cases op <;> first | rfl | exact absurd (by decide) hwithout

/-- The end of a session is read from what it is written as, also where nothing is written. -/
theorem readsLast_closeSession {paths : Option (Option (List (Option String)))}
    (hfits : ∀ ps ∈ paths, Field.FitsVector Field.FitsString ps) :
    ReadsLast readCloseSession (BodyForm.closeSession paths).encode
      (.closeSession (paths.join.getD [])) := by
  unfold readCloseSession
  apply ReadsLast.remaining
  cases paths with
  | none => exact (Reads.pure _).last
  | some ps =>
    -- Something remains even for a null vector, which is written as its number.
    have hread := reads_list "paths2Delete" (hfits ps rfl) fun _ => reads_string "path"
    rw [BodyForm.encode, if_neg (Field.length_vector_ne _ ps)]
    exact (hread.map _).last

/-- The creation of a node is read from what it is written as, with and without its last field. -/
theorem readsLast_create {path : Option String} {data : Option Bytes} {acl : Option (List Acl)}
    {ephemeral : Bool} {parentCversion : Option Int}
    (hfits : (BodyForm.create path data acl ephemeral parentCversion).Fits) :
    ReadsLast readCreate (BodyForm.create path data acl ephemeral parentCversion).encode
      (BodyForm.create path data acl ephemeral parentCversion).body := by
  rw [BodyForm.Fits] at hfits
  obtain ⟨hpath, hdata, hacl, hversion⟩ := hfits
  rw [BodyForm.encode]
  refine (reads_string _ hpath).bind_last ((reads_bytes _ hdata).bind_last
    ((reads_list _ hacl fun _ => Acl.reads).bind_last
      ((reads_bool _ _).bind_last (ReadsLast.remaining ?_))))
  cases parentCversion with
  | none => exact (Reads.pure _).last
  | some v =>
    rw [if_pos (by simp [Field.int])]
    exact ((reads_int _ (hversion v rfl)).map _).last

/-- The creation of a container is read from what it is written as. -/
theorem reads_createContainer {path : Option String} {data : Option Bytes}
    {acl : Option (List Acl)} {parentCversion : Int}
    (hfits : (BodyForm.createContainer path data acl parentCversion).Fits) :
    Reads readCreateContainer (BodyForm.createContainer path data acl parentCversion).encode
      (BodyForm.createContainer path data acl parentCversion).body := by
  rw [BodyForm.Fits] at hfits
  obtain ⟨hpath, hdata, hacl, hversion⟩ := hfits
  rw [BodyForm.encode]
  refine (reads_string _ hpath).bind ((reads_bytes _ hdata).bind
    ((reads_list _ hacl fun _ => Acl.reads).bind ?_))
  exact (reads_int _ hversion).map _

/-- A change of data is read from what it is written as. -/
theorem reads_setData {path : Option String} {data : Option Bytes} {version : Int}
    (hfits : (BodyForm.setData path data version).Fits) :
    Reads readSetData (BodyForm.setData path data version).encode
      (BodyForm.setData path data version).body := by
  rw [BodyForm.Fits] at hfits
  obtain ⟨hpath, hdata, hversion⟩ := hfits
  rw [BodyForm.encode]
  refine (reads_string _ hpath).bind ((reads_bytes _ hdata).bind ?_)
  exact (reads_int _ hversion).map _

/-- What remains is read as it is. -/
theorem readsLast_unknown (code : Int) (raw : Bytes) :
    ReadsLast (readUnknown code) raw (.unknown code raw) := by
  intro position
  simp [readUnknown, Attempt.bind_apply, Attempt.pure_apply, rest, Cursor.advance]

end TxnBody

/-! ### Multi transactions -/

/-- A sub-operation as it is decoded, from its code and its serialized body. -/
def SubTxn.decoded (type : Int) (raw : Bytes) : SubTxn :=
  match TxnBody.read type (Cursor.ofBytes raw) with
  | (.ok body, _) => .mk type raw body
  | (.error _, _) => .mk type raw (.unknown type raw)

/-- The sub-operations of a multi transaction are read first and decoded then. -/
theorem TxnBody.read_multi {c next : Cursor} {subs : List (Int × Bytes)}
    (h : vector "txns" SubTxn.readRaw c = (.ok subs, next)) :
    read OpCode.multi.code c
      = (.ok (.multi (subs.map fun s => SubTxn.decoded s.1 s.2)), next) := by
  rw [read, OpCode.ofCode?_code]
  dsimp only
  split
  · next heq =>
    rw [h] at heq
    cases heq
  · next heq =>
    cases heq.symm.trans h
    congr 3
    -- The members are attached only so that the recursion is seen to end.
    exact List.attach_map_val (l := subs) (f := fun s => SubTxn.decoded s.1 s.2)

namespace SubForm

/-- The code and the serialized body of a sub-operation are read from what it is written as. -/
theorem reads_raw {s : SubForm} (hfits : s.Fits) :
    Reads SubTxn.readRaw s.encode (s.type, s.raw) := by
  obtain ⟨type, body, null⟩ := s
  rw [Fits] at hfits
  obtain ⟨htype, -, -, hlength, hnull⟩ := hfits
  rw [encode]
  refine (reads_int _ htype).bind ?_
  cases null with
  | false => exact (reads_bytes _ (by rintro _ ⟨⟩; exact hlength)).map _
  | true =>
    -- Null is read as empty, and stands only for a body that is written as nothing.
    rw [raw, hnull rfl]
    exact (reads_bytes _ (by rintro _ ⟨⟩)).map _

end SubForm

/-- A multi transaction is read from what it is written as if each of its sub-operations is
decoded from its own bytes. -/
theorem TxnBody.reads_multi {txns : Option (List SubForm)} (hfits : (BodyForm.multi txns).Fits)
    (hdecoded : ∀ s ∈ txns.getD [], SubTxn.decoded s.type s.raw = s.txn) :
    Reads (read OpCode.multi.code) (BodyForm.multi txns).encode (BodyForm.multi txns).body := by
  intro position rest
  have hread := reads_vector "txns" (BodyForm.fits_multi txns |>.mp hfits)
    (fun _ => SubForm.reads_raw) position rest
  rw [BodyForm.encode_multi, BodyForm.body_multi, read_multi hread, List.map_map]
  congr 3
  exact List.map_congr_left hdecoded

/-! ### Bodies of every form -/

mutual

/-- A body is read from what it is written as. -/
theorem BodyForm.readsLast : (form : BodyForm) → {code : Int} → form.Matches code → form.Fits →
    ReadsLast (TxnBody.read code) form.encode form.body
  | .createSession timeout, _, rfl, hfits => by
    rw [BodyForm.Fits] at hfits
    rw [TxnBody.read_code (by decide), BodyForm.encode]
    exact ((reads_int _ hfits).map _).last
  | .closeSession paths, _, rfl, hfits => by
    rw [BodyForm.Fits] at hfits
    rw [TxnBody.read_code (by decide)]
    exact TxnBody.readsLast_closeSession hfits
  | .create .., _, hmatches, hfits => by
    rcases hmatches with rfl | rfl
    all_goals
      rw [TxnBody.read_code (by decide)]
      exact TxnBody.readsLast_create hfits
  | .createContainer .., _, rfl, hfits => by
    rw [TxnBody.read_code (by decide)]
    exact (TxnBody.reads_createContainer hfits).last
  | .delete path, _, hmatches, hfits => by
    rw [BodyForm.Fits] at hfits
    rcases hmatches with rfl | rfl
    all_goals
      rw [TxnBody.read_code (by decide), BodyForm.encode]
      exact ((reads_string _ hfits).map _).last
  | .setData .., _, hmatches, hfits => by
    rcases hmatches with rfl | rfl
    all_goals
      rw [TxnBody.read_code (by decide)]
      exact (TxnBody.reads_setData hfits).last
  | .error err, _, rfl, hfits => by
    rw [BodyForm.Fits] at hfits
    rw [TxnBody.read_code (by decide), BodyForm.encode]
    exact ((reads_int _ hfits).map _).last
  | .multi none, _, rfl, hfits => (TxnBody.reads_multi hfits (by simp)).last
  | .multi (some subs), _, rfl, hfits => by
    have hsubs := ((BodyForm.fits_multi _).mp hfits subs rfl).2
    exact (TxnBody.reads_multi hfits (SubForm.decoded_all subs hsubs)).last
  | .unknown type raw, _, ⟨rfl, hwithout⟩, _ => by
    rw [TxnBody.read_unknown hwithout, BodyForm.encode]
    exact TxnBody.readsLast_unknown _ raw

/-- A sub-operation is decoded from its own bytes. -/
theorem SubForm.decoded_eq : (s : SubForm) → s.Fits → SubTxn.decoded s.type s.raw = s.txn
  | .mk type body null, hfits => by
    rw [SubForm.Fits] at hfits
    obtain ⟨-, hmatches, hbody, -, -⟩ := hfits
    -- The buffer of a sub-operation is an archive of its own, which starts at zero.
    have hread := BodyForm.readsLast body hmatches hbody 0
    unfold SubTxn.decoded
    rw [SubForm.type, SubForm.raw, Cursor.ofBytes, hread, SubForm.txn]

/-- Sub-operations are decoded from their own bytes. -/
theorem SubForm.decoded_all : (subs : List SubForm) → (∀ s ∈ subs, s.Fits) →
    ∀ s ∈ subs, SubTxn.decoded s.type s.raw = s.txn
  | [], _ => by simp
  | s :: subs, hfits => by
    rw [List.forall_mem_cons] at hfits ⊢
    exact ⟨SubForm.decoded_eq s hfits.1, SubForm.decoded_all subs hfits.2⟩

end

/-! ### Transactions -/

/-- A transaction is decoded from what it is written as. -/
theorem Txn.decode_written {h : TxnHeader} {form : BodyForm} (hheader : h.Fits)
    (hmatches : form.Matches h.type) (hbody : form.Fits) :
    Txn.decode (h.encode ++ form.encode) = .ok ⟨h, form.body⟩ := by
  have hread : ReadsLast Txn.read (h.encode ++ form.encode) ⟨h, form.body⟩ :=
    (TxnHeader.reads hheader).bind_last ((form.readsLast hmatches hbody).map _)
  -- What is written is not the empty payload, which would be refused.
  have hlength : (h.encode ++ form.encode).length = 32 + form.encode.length := by
    simp [TxnHeader.encode, Field.long, Field.int]; omega
  have hempty : (h.encode ++ form.encode).isEmpty = false :=
    List.isEmpty_eq_false_iff.mpr (List.ne_nil_of_length_pos (by omega))
  rw [decode, hempty, Cursor.ofBytes, hread]
  rfl

/-- A multi transaction in another, with a null vector, null for an empty body, a node's creation
without its last field and an operation that has no layout. -/
def BodyForm.nested : BodyForm :=
  .multi (some [
    .mk 1 (.create (some "/é") none none true none) false,
    .mk (-11) (.closeSession none) true,
    .mk 14 (.multi (some [.mk 14 (.multi none) false, .mk 100 (.unknown 100 [0xff]) false])) false])

/-- A nested multi transaction is decoded from what it is written as. -/
theorem Txn.decode_written_nested :
    TxnHeader.Fits ⟨0x100, 1, -2, 1700000000123, 14⟩ ∧ BodyForm.nested.Matches 14
      ∧ BodyForm.nested.Fits
      ∧ Txn.decode (TxnHeader.encode ⟨0x100, 1, -2, 1700000000123, 14⟩ ++ BodyForm.nested.encode)
        = .ok ⟨⟨0x100, 1, -2, 1700000000123, 14⟩, .multi [
            .mk 1 [0, 0, 0, 3, 0x2f, 0xc3, 0xa9, 0xff, 0xff, 0xff, 0xff, 0xff, 0xff, 0xff, 0xff, 1]
              (.create (some "/é") [] [] true (-1)),
            .mk (-11) [] (.closeSession []),
            .mk 14 [0, 0, 0, 2,
                0, 0, 0, 14, 0, 0, 0, 4, 0xff, 0xff, 0xff, 0xff,
                0, 0, 0, 100, 0, 0, 0, 1, 0xff]
              (.multi [.mk 14 [0xff, 0xff, 0xff, 0xff] (.multi []),
                .mk 100 [0xff] (.unknown 100 [0xff])])]⟩ := by
  have hheader : TxnHeader.Fits ⟨0x100, 1, -2, 1700000000123, 14⟩ := by
    constructor <;> decide
  have hmatches : BodyForm.nested.Matches 14 := rfl
  have hbody : BodyForm.nested.Fits := by
    simp +decide [BodyForm.nested, BodyForm.Fits, SubForm.Fits, SubForm.AllFit,
      BodyForm.Matches, Field.FitsString, Field.FitsBuffer, Field.FitsVector]
  exact ⟨hheader, hmatches, hbody, Txn.decode_written hheader hmatches hbody⟩

end TxnLog
