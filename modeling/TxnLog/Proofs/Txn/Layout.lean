import TxnLog.Proofs.Archive.Delimited
import TxnLog.Proofs.Txn.RoundTrip

/-!
# Payloads in their layouts

A payload in which there is a transaction starts with the header as it is written, and the body is
read from what is behind it (`Txn.of_decode`, `Txn.decode_eq`). The layout of an operation decides
whether the bytes behind a body matter. Most layouts are delimited (`TxnBody.delimited`), that of a
multi transaction among them, since its members are read as buffers before they are decoded. The
other ones ask how much is left: the end of a session may be written as nothing at all, and a node's
creation has a last field if there are four bytes for it behind the `Creation`. A body of theirs
that has nothing of its last part is `OpenEnded`.
-/

namespace TxnLog

open Archive

/-! ### Headers and entries -/

namespace TxnHeader

/-- The number of bytes that a header takes. -/
def size : Nat := 32

/-- A header takes as many bytes as it should. -/
theorem length_encode (h : TxnHeader) : h.encode.length = size := by
  simp [encode, Field.long, Field.int, size]

/-- A header is read only from what it is written as. -/
theorem readsOnly : ReadsOnly read fun h used => h.Fits ∧ used = h.encode := by
  refine ((readsOnly_long _).bind fun clientId => (readsOnly_int _).bind fun cxid =>
    (readsOnly_long _).bind fun zxid => (readsOnly_long _).bind fun time =>
    (readsOnly_int _).map fun type => TxnHeader.mk clientId cxid zxid time type).mono ?_
  rintro _ _ ⟨clientId, _, _, ⟨hclientId, rfl⟩, ⟨cxid, _, _, ⟨hcxid, rfl⟩, ⟨zxid, _, _,
    ⟨hzxid, rfl⟩, ⟨time, _, _, ⟨htime, rfl⟩, ⟨type, ⟨htype, rfl⟩, rfl⟩, rfl⟩, rfl⟩, rfl⟩, rfl⟩
  refine ⟨⟨hclientId, hcxid, hzxid, htime, htype⟩, ?_⟩
  simp only [encode, List.append_assoc]

/-- A header is read from its own bytes. -/
theorem delimited : Delimited read :=
  readsOnly.delimited_encode fun _ => TxnHeader.reads

end TxnHeader

namespace Acl

/-- An entry is read only from what it is written as. -/
theorem readsOnly : ReadsOnly read fun a used => a.Fits ∧ used = a.encode := by
  refine ((readsOnly_int _).bind fun perms => (readsOnly_string _).bind fun scheme =>
    (readsOnly_string _).map fun id => Acl.mk perms scheme id).mono ?_
  rintro _ _ ⟨perms, _, _, ⟨hperms, rfl⟩, ⟨scheme, _, _, ⟨hscheme, rfl⟩,
    ⟨id, ⟨hid, rfl⟩, rfl⟩, rfl⟩, rfl⟩
  exact ⟨⟨hperms, hscheme, hid⟩, (List.append_assoc ..).symm⟩

/-- An entry is read from its own bytes. -/
theorem delimited : Delimited read :=
  readsOnly.delimited_encode fun _ => Acl.reads

end Acl

/-! ### Creations -/

/-- The creation of a node, up to its flag. Older servers write no more. -/
structure Creation where
  /-- The path of the node. -/
  path : Option String
  /-- Its data. -/
  data : Option Bytes
  /-- Its access control list. -/
  acl : Option (List Acl)
  /-- The byte that tells whether the node is ephemeral, which is zero for false. -/
  flag : UInt8

namespace Creation

/-- The creation as it is written. -/
def encode (k : Creation) : Bytes :=
  Field.string k.path
    ++ (Field.buffer k.data ++ (Field.vector Acl.encode k.acl ++ [k.flag]))

/-- The texts and lengths of a creation fit their fields. -/
structure Fits (k : Creation) : Prop where
  path : Field.FitsString k.path
  data : Field.FitsBuffer k.data
  acl : Field.FitsVector Acl.Fits k.acl

/-- What there is to read in a creation with the given last field. -/
def body (k : Creation) (parentCversion : Int) : TxnBody :=
  .create k.path (k.data.getD []) (k.acl.getD []) (k.flag.toNat != 0) parentCversion

/-- Reads a creation up to its flag, and leaves the last field open. -/
def read : Reader (Int → TxnBody) := do
  let path ← string "path"
  let data ← bytes "data"
  let acl ← vector "acl" Acl.read
  let ephemeral ← bool "ephemeral"
  return .create path data acl ephemeral

/-- A creation is read from what it is written as. -/
theorem reads {k : Creation} (hfits : k.Fits) : Reads read k.encode k.body := by
  refine (reads_string _ hfits.path).bind ((reads_bytes _ hfits.data).bind
    ((reads_list _ hfits.acl fun _ => Acl.reads).bind ?_))
  exact (reads_flag _ k.flag).map _

/-- A creation is read only from what it is written as. -/
theorem readsOnly :
    ReadsOnly read fun make used => ∃ k : Creation, k.Fits ∧ used = k.encode ∧ make = k.body := by
  refine ((readsOnly_string _).bind fun path => (readsOnly_bytes _).bind fun data =>
    (readsOnly_list _ Acl.readsOnly).bind fun acl =>
    (readsOnly_bool _).map fun ephemeral => TxnBody.create path data acl ephemeral).mono ?_
  rintro _ _ ⟨path, _, _, ⟨hpath, rfl⟩, ⟨_, _, _, ⟨data, hdata, rfl, rfl⟩, ⟨_, _, _,
    ⟨acl, hacl, rfl, rfl⟩, ⟨_, ⟨flag, rfl, rfl⟩, rfl⟩, rfl⟩, rfl⟩, rfl⟩
  exact ⟨⟨path, data, acl, flag⟩, ⟨hpath, hdata, hacl⟩, rfl, rfl⟩

/-- A creation is read from its own bytes. -/
theorem delimited : Delimited read := by
  refine readsOnly.delimited ?_
  rintro _ _ ⟨k, hfits, rfl, rfl⟩
  exact reads hfits

end Creation

namespace TxnBody

/-- Reads the last field of a creation if there are enough bytes left for it. -/
def readVersion (make : Int → TxnBody) : Reader TxnBody := do
  if 4 ≤ (← remaining) then return make (← int "parentCVersion")
  else return make (-1)

/-- The body of a node's creation is a creation up to its flag and the last field. -/
theorem readCreate_eq : readCreate = Creation.read >>= readVersion := by
  unfold Creation.read
  simp only [Attempt.bind_assoc, Attempt.pure_bind]
  rfl

/-- Fewer than four bytes are not read as a last field. -/
theorem readVersion_of_lt {make : Int → TxnBody} {bs : Bytes} (h : bs.length < 4)
    (position : Nat) : readVersion make ⟨position, bs⟩ = (.ok (make (-1)), ⟨position, bs⟩) := by
  have hleft : ¬ 4 ≤ bs.length := by omega
  simp only [readVersion, Attempt.bind_apply, remaining, if_neg hleft, Attempt.pure_apply]

/-- Four bytes are read as a last field. -/
theorem readVersion_of_le {make : Int → TxnBody} {c : Cursor} (h : 4 ≤ c.rest.length) :
    readVersion make c = (do return make (← int "parentCVersion") : Reader TxnBody) c := by
  simp only [readVersion, Attempt.bind_apply, remaining, if_pos h]

/-- A last field is read if it is there, whatever follows. -/
theorem reads_version (make : Int → TxnBody) {v : Int} (hv : BigEndian.Fits 4 v) :
    Reads (readVersion make) (Field.int v) (make v) := by
  intro position rest
  have hlength : 4 ≤ (Field.int v ++ rest).length := by simp [Field.int]
  rw [readVersion_of_le hlength]
  exact (reads_int "parentCVersion" hv).map make position rest

/-- A creation with its last field is read, whatever follows. -/
theorem reads_create {k : Creation} (hfits : k.Fits) {v : Int} (hv : BigEndian.Fits 4 v) :
    Reads readCreate (k.encode ++ Field.int v) (k.body v) := by
  rw [readCreate_eq]
  exact (Creation.reads hfits).bind (reads_version k.body hv)

/-- A creation is read without its last field if fewer than four bytes follow. -/
theorem readCreate_of_lt {k : Creation} (hfits : k.Fits) {behind : Bytes}
    (h : behind.length < 4) (position : Nat) :
    readCreate ⟨position, k.encode ++ behind⟩
      = (.ok (k.body (-1)), ⟨position + k.encode.length, behind⟩) := by
  rw [readCreate_eq, Attempt.bind_apply, Creation.reads hfits position behind]
  exact readVersion_of_lt h _

/-- The body of a node's creation is read only from a creation, with its last field or with fewer
than four bytes behind the flag. -/
theorem of_readCreate {position : Nat} {bs : Bytes} {b : TxnBody} {next : Cursor}
    (hread : readCreate ⟨position, bs⟩ = (.ok b, next)) :
    ∃ k : Creation, k.Fits ∧
      ((∃ behind, behind.length < 4 ∧ bs = k.encode ++ behind ∧ b = k.body (-1)
        ∧ next = ⟨position + k.encode.length, behind⟩)
      ∨ ∃ v rest, BigEndian.Fits 4 v ∧ bs = k.encode ++ Field.int v ++ rest ∧ b = k.body v
        ∧ next = ⟨position + (k.encode ++ Field.int v).length, rest⟩) := by
  rw [readCreate_eq] at hread
  obtain ⟨make, mid, hcreation, hversion⟩ := Attempt.bind_eq_ok_iff.mp hread
  obtain ⟨_, behind, rfl, rfl, k, hfits, rfl, rfl⟩ := Creation.readsOnly _ _ _ _ hcreation
  refine ⟨k, hfits, ?_⟩
  by_cases hleft : behind.length < 4
  · rw [readVersion_of_lt hleft] at hversion
    cases hversion
    exact .inl ⟨behind, hleft, rfl, rfl, rfl⟩
  · rw [readVersion_of_le (Nat.le_of_not_lt hleft)] at hversion
    obtain ⟨_, rest, rfl, rfl, v, ⟨hv, rfl⟩, rfl⟩ :=
      (readsOnly_int "parentCVersion").map k.body _ _ _ _ hversion
    refine .inr ⟨v, rest, hv, (List.append_assoc ..).symm, rfl, ?_⟩
    rw [List.length_append, Nat.add_assoc]

/-- A creation that is cut before the end of its flag is refused. -/
theorem error_of_take_create {k : Creation} (hfits : k.Fits) {m : Nat}
    (hm : m < k.encode.length) (position : Nat) :
    ∃ e next, readCreate ⟨position, k.encode.take m⟩ = (.error e, next) := by
  obtain ⟨e, next, herror⟩ :=
    Creation.delimited.error_of_take (Creation.reads hfits) hm position
  refine ⟨e, next, ?_⟩
  rw [readCreate_eq, Attempt.bind_apply, herror]

/-! ### Ends of sessions -/

/-- Where something is left, the end of a session is read as a vector of paths. -/
theorem readCloseSession_of_ne {bs : Bytes} (h : bs ≠ []) (position : Nat) :
    readCloseSession ⟨position, bs⟩ =
      (do return .closeSession (← vector "paths2Delete" (string "path")) : Reader TxnBody)
        ⟨position, bs⟩ := by
  have hleft : bs.length ≠ 0 := fun hlength => h (List.length_eq_zero_iff.mp hlength)
  simp only [readCloseSession, Attempt.bind_apply, remaining, if_neg hleft]

/-- The end of a session is read from a vector of paths, whatever follows. -/
theorem reads_closeSession {paths : Option (List (Option String))}
    (hfits : Field.FitsVector Field.FitsString paths) :
    Reads readCloseSession (Field.vector Field.string paths) (.closeSession (paths.getD [])) := by
  intro position rest
  have hne : Field.vector Field.string paths ++ rest ≠ [] := by
    intro hnil
    have hvector := (List.append_eq_nil_iff.mp hnil).1
    exact Field.length_vector_ne Field.string paths (List.length_eq_zero_iff.mpr hvector)
  rw [readCloseSession_of_ne hne]
  exact (reads_list _ hfits fun _ => reads_string _).map _ position rest

/-- The end of a session is read only from nothing and from a vector of paths. -/
theorem of_readCloseSession {position : Nat} {bs : Bytes} {b : TxnBody} {next : Cursor}
    (hread : readCloseSession ⟨position, bs⟩ = (.ok b, next)) :
    (bs = [] ∧ b = .closeSession [] ∧ next = ⟨position, []⟩)
      ∨ ∃ paths rest, Field.FitsVector Field.FitsString paths
        ∧ bs = Field.vector Field.string paths ++ rest ∧ b = .closeSession (paths.getD [])
        ∧ next = ⟨position + (Field.vector Field.string paths).length, rest⟩ := by
  by_cases hbs : bs = []
  · subst hbs
    cases hread
    exact .inl ⟨rfl, rfl, rfl⟩
  · rw [readCloseSession_of_ne hbs] at hread
    obtain ⟨_, rest, rfl, rfl, _, ⟨paths, hfits, rfl, rfl⟩, rfl⟩ :=
      (readsOnly_list _ (readsOnly_string _)).map TxnBody.closeSession _ _ _ _ hread
    exact .inr ⟨paths, rest, hfits, rfl, rfl, rfl⟩

/-- The end of a session is refused if its vector of paths is cut, unless nothing of it is left. -/
theorem error_of_take_closeSession {paths : Option (List (Option String))}
    (hfits : Field.FitsVector Field.FitsString paths) {m : Nat} (hpos : 0 < m)
    (hm : m < (Field.vector Field.string paths).length) (position : Nat) :
    ∃ e next,
      readCloseSession ⟨position, (Field.vector Field.string paths).take m⟩ = (.error e, next) := by
  have hne : (Field.vector Field.string paths).take m ≠ [] := by
    refine List.ne_nil_of_length_pos ?_
    rw [List.length_take]
    omega
  have hreads : Reads (vector "paths2Delete" (string "path")) (Field.vector Field.string paths)
      (paths.getD []) := reads_list _ hfits fun _ => reads_string _
  obtain ⟨e, next, herror⟩ :=
    ((delimited_string "path").vector "paths2Delete").error_of_take hreads hm position
  refine ⟨e, next, ?_⟩
  rw [readCloseSession_of_ne hne, Attempt.bind_apply, herror]

/-! ### Delimited layouts -/

/-- A multi transaction is read as a vector of codes and buffers, which are decoded then. -/
theorem read_multi_eq : read OpCode.multi.code =
    (do return .multi ((← vector "txns" SubTxn.readRaw).map fun s => SubTxn.decoded s.1 s.2)
      : Reader TxnBody) := by
  funext c
  rw [Attempt.bind_apply]
  cases hvector : vector "txns" SubTxn.readRaw c with
  | mk result next =>
  cases result with
  | ok subs => exact read_multi hvector
  | error e =>
    rw [read, OpCode.ofCode?_code]
    dsimp only
    split
    · next heq =>
      cases hvector.symm.trans heq
      rfl
    · next heq => cases hvector.symm.trans heq

end TxnBody

/-- The code and the serialized body of a sub-operation are read from their own bytes. -/
theorem SubTxn.delimited_readRaw : Delimited SubTxn.readRaw :=
  (delimited_int _).bind fun code => (delimited_bytes _).map fun raw => (code, raw)

namespace TxnBody

/-- Every layout is delimited but those of a session's end and of a node's creation. -/
theorem delimited {op : OpCode} (hlayout : op ∈ OpCode.withLayout) (hclose : op ≠ .closeSession)
    (hcreate : op ≠ .create) (hcreate2 : op ≠ .create2) : Delimited (read op.code) := by
  by_cases hmulti : op = .multi
  · subst hmulti
    rw [read_multi_eq]
    exact (SubTxn.delimited_readRaw.vector _).map _
  rw [read_code hmulti]
  cases op with
  | createSession => exact (delimited_int _).map _
  | createContainer =>
    exact (delimited_string _).bind fun _ => (delimited_bytes _).bind fun _ =>
      (Acl.delimited.vector _).bind fun _ => (delimited_int _).map _
  | delete | deleteContainer => exact (delimited_string _).map _
  | setData | reconfig =>
    exact (delimited_string _).bind fun _ => (delimited_bytes _).bind fun _ =>
      (delimited_int _).map _
  | error => exact (delimited_int _).map _
  | closeSession | create | create2 | multi => contradiction
  | _ => exact absurd hlayout (by decide)

/-- The body of an operation with a layout is none of an operation without one. -/
theorem ne_unknown {op : OpCode} (hlayout : op ∈ OpCode.withLayout) {c next : Cursor}
    {b : TxnBody} (hread : read op.code c = (.ok b, next)) (type : Int) (raw : Bytes) :
    b ≠ .unknown type raw := by
  rintro rfl
  by_cases hmulti : op = .multi
  · subst hmulti
    rw [read_multi_eq] at hread
    simp at hread
  rw [read_code hmulti] at hread
  cases op with
  | createSession => simp [readCreateSession] at hread
  | closeSession =>
    rcases of_readCloseSession hread with ⟨-, hb, -⟩ | ⟨_, _, -, -, hb, -⟩
    all_goals cases hb
  | create | create2 =>
    obtain ⟨_, -, ⟨_, -, -, hb, -⟩ | ⟨_, _, -, -, hb, -⟩⟩ := of_readCreate hread
    all_goals cases hb
  | createContainer => simp [readCreateContainer] at hread
  | delete | deleteContainer => simp [readDelete] at hread
  | setData | reconfig => simp [readSetData] at hread
  | error => simp [readError] at hread
  | multi => contradiction
  | _ => exact absurd hlayout (by decide)

/-- The body of a session's end may be written as nothing. -/
theorem read_closeSession {code : Int} (hcode : code = OpCode.closeSession.code) :
    read code = readCloseSession := by
  rw [hcode]
  exact read_code (by decide)

/-- The creation of a node has one layout for both of its operations. -/
theorem read_create {code : Int}
    (hcode : code = OpCode.create.code ∨ code = OpCode.create2.code) : read code = readCreate := by
  rcases hcode with rfl | rfl
  all_goals exact read_code (by decide)

/-- What a code asks for: to keep the bytes, to look at what is left, or a delimited layout. -/
theorem read_code_cases (code : Int) :
    ((∀ op ∈ OpCode.withLayout, code ≠ op.code) ∧ read code = readUnknown code)
      ∨ (code = OpCode.closeSession.code ∧ read code = readCloseSession)
      ∨ ((code = OpCode.create.code ∨ code = OpCode.create2.code) ∧ read code = readCreate)
      ∨ (∃ op ∈ OpCode.withLayout, code = op.code) ∧ Delimited (read code) := by
  by_cases hnone : ∀ op ∈ OpCode.withLayout, code ≠ op.code
  · exact .inl ⟨hnone, read_unknown hnone⟩
  push Not at hnone
  obtain ⟨op, hlayout, rfl⟩ := hnone
  by_cases hclose : op = .closeSession
  · subst hclose
    exact .inr (.inl ⟨rfl, read_closeSession rfl⟩)
  by_cases hcreate : op = .create
  · subst hcreate
    exact .inr (.inr (.inl ⟨.inl rfl, read_create (.inl rfl)⟩))
  by_cases hcreate2 : op = .create2
  · subst hcreate2
    exact .inr (.inr (.inl ⟨.inr rfl, read_create (.inr rfl)⟩))
  exact .inr (.inr (.inr ⟨⟨op, hlayout, rfl⟩, delimited hlayout hclose hcreate hcreate2⟩))

/-- A body that has nothing of a last part that could follow. -/
inductive OpenEnded (code : Int) : Bytes → Prop
  /-- The end of a session without its paths. -/
  | closeSession (hcode : code = OpCode.closeSession.code) : OpenEnded code []
  /-- The creation of a node with fewer than four bytes behind its flag. -/
  | create {k : Creation} {behind : Bytes}
      (hcode : code = OpCode.create.code ∨ code = OpCode.create2.code) (hfits : k.Fits)
      (hshort : behind.length < 4) : OpenEnded code (k.encode ++ behind)

/-- A body that is not open-ended is read from bytes of its own, or is kept as it is. -/
theorem exists_reads {code : Int} {position : Nat} {bs : Bytes} {b : TxnBody} {next : Cursor}
    (hread : read code ⟨position, bs⟩ = (.ok b, next)) (hclosed : ¬ OpenEnded code bs) :
    (read code = readUnknown code ∧ b = .unknown code bs)
      ∨ ∃ used rest, bs = used ++ rest ∧ next = ⟨position + used.length, rest⟩
        ∧ Reads (read code) used b := by
  rcases read_code_cases code with ⟨-, heq⟩ | ⟨hcode, heq⟩ | ⟨hcode, heq⟩ | ⟨-, hdelimited⟩
  · rw [heq] at hread
    cases hread
    exact .inl ⟨heq, rfl⟩
  · rw [heq] at hread ⊢
    rcases of_readCloseSession hread with ⟨rfl, -, -⟩ | ⟨paths, rest, hfits, rfl, rfl, rfl⟩
    · exact absurd (.closeSession hcode) hclosed
    · exact .inr ⟨_, rest, rfl, rfl, reads_closeSession hfits⟩
  · rw [heq] at hread ⊢
    obtain ⟨k, hfits, ⟨behind, hshort, rfl, -, -⟩ | ⟨v, rest, hv, rfl, rfl, rfl⟩⟩ :=
      of_readCreate hread
    · exact absurd (.create hcode hfits hshort) hclosed
    · exact .inr ⟨_, rest, rfl, rfl, reads_create hfits hv⟩
  · exact .inr (hdelimited _ _ _ _ hread)

end TxnBody

/-! ### Payloads -/

namespace Txn

/-- The number of bytes of a payload that are read. -/
def consumed (p : Bytes) : Nat := (read (Cursor.ofBytes p)).2.position

/-- Behind its header, a transaction is read as a body. -/
theorem read_encode {h : TxnHeader} (hfits : h.Fits) (bs : Bytes) :
    read (Cursor.ofBytes (h.encode ++ bs)) =
      match TxnBody.read h.type ⟨TxnHeader.size, bs⟩ with
      | (.ok b, next) => (.ok ⟨h, b⟩, next)
      | (.error e, next) => (.error e, next) := by
  have hheader := TxnHeader.reads hfits 0 bs
  rw [h.length_encode, Nat.zero_add] at hheader
  rw [Cursor.ofBytes, read, Attempt.bind_apply, hheader]
  show Attempt.bind (TxnBody.read h.type) _ _ = _
  unfold Attempt.bind
  cases TxnBody.read h.type ⟨TxnHeader.size, bs⟩ with
  | mk result next => cases result <;> rfl

/-- A payload is not refused as empty if a header is in it. -/
theorem decode_encode (h : TxnHeader) (bs : Bytes) :
    decode (h.encode ++ bs) = (read (Cursor.ofBytes (h.encode ++ bs))).1 := by
  have hlength : (h.encode ++ bs).length = TxnHeader.size + bs.length := by
    rw [List.length_append, h.length_encode]
  have hpos : 0 < (h.encode ++ bs).length := by
    rw [hlength]
    exact Nat.add_pos_left (by decide) _
  rw [decode, List.isEmpty_eq_false_iff.mpr (List.ne_nil_of_length_pos hpos), if_neg (by decide)]

/-- A payload in which a body is read holds the transaction of it. -/
theorem decode_of_read {h : TxnHeader} (hfits : h.Fits) {bs : Bytes} {b : TxnBody}
    {next : Cursor} (hread : TxnBody.read h.type ⟨TxnHeader.size, bs⟩ = (.ok b, next)) :
    decode (h.encode ++ bs) = .ok ⟨h, b⟩ ∧ consumed (h.encode ++ bs) = next.position := by
  unfold consumed
  rw [decode_encode, read_encode hfits, hread]
  exact ⟨rfl, rfl⟩

/-- A payload in which no body is read holds no transaction. -/
theorem decode_of_error {h : TxnHeader} (hfits : h.Fits) {bs : Bytes} {e : DecodeError}
    {next : Cursor} (hread : TxnBody.read h.type ⟨TxnHeader.size, bs⟩ = (.error e, next)) :
    decode (h.encode ++ bs) = .error e := by
  rw [decode_encode, read_encode hfits, hread]

/-- A payload in which there is a transaction is the header as it is written, and behind it what
the body is read from. -/
theorem of_decode {p : Bytes} {h : TxnHeader} {b : TxnBody} (hdecode : decode p = .ok ⟨h, b⟩) :
    h.Fits ∧ ∃ bs next, p = h.encode ++ bs
      ∧ TxnBody.read h.type ⟨TxnHeader.size, bs⟩ = (.ok b, next) := by
  unfold decode at hdecode
  split at hdecode
  · contradiction
  cases hread : read (Cursor.ofBytes p) with
  | mk result next =>
  rw [hread] at hdecode
  dsimp only at hdecode
  subst hdecode
  obtain ⟨h', mid, hheader, hread⟩ := Attempt.bind_eq_ok_iff.mp hread
  obtain ⟨_, bs, hp, rfl, hfits, rfl⟩ := TxnHeader.readsOnly _ _ _ _ hheader
  obtain ⟨b', next', hbody, hpure⟩ := Attempt.bind_eq_ok_iff.mp hread
  cases hpure
  rw [h.length_encode, Nat.zero_add] at hbody
  exact ⟨hfits, bs, next, hp, hbody⟩

/-- There is no transaction in a payload that ends within the header. -/
theorem error_of_take_header {h : TxnHeader} (hfits : h.Fits) (bs : Bytes) {m : Nat}
    (hm : m < TxnHeader.size) : ∃ e, decode ((h.encode ++ bs).take m) = .error e := by
  have hlength : m < h.encode.length := by rwa [h.length_encode]
  have htake : (h.encode ++ bs).take m = h.encode.take m :=
    List.take_append_of_le_length hlength.le
  obtain ⟨e, next, herror⟩ :=
    TxnHeader.delimited.error_of_take (TxnHeader.reads hfits) hlength 0
  rw [htake, decode]
  split
  · exact ⟨_, rfl⟩
  · refine ⟨e, ?_⟩
    rw [Cursor.ofBytes, read, Attempt.bind_apply, herror]

end Txn

end TxnLog
