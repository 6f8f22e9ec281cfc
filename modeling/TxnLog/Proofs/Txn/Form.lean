import TxnLog.Proofs.Archive
import TxnLog.Txn.Decode

/-!
# Transactions as a writer has them

A writer makes differences that a reader does not keep: null or empty, a field left out or given
its default. A `BodyForm` makes all of them, at every depth of a multi transaction; `encode` is how
it is written, and `body` is what there is to read in it. It has the layout of the operations with
a code that it `Matches`, and it `Fits` if all of its numbers and lengths fit their fields.
-/

namespace TxnLog

open Archive BigEndian

namespace TxnHeader

/-- The header as it is written. -/
def encode (h : TxnHeader) : Bytes :=
  Field.long h.clientId ++ Field.int h.cxid ++ Field.long h.zxid ++ Field.long h.time
    ++ Field.int h.type

/-- The numbers of a header fit their fields. -/
structure Fits (h : TxnHeader) : Prop where
  clientId : BigEndian.Fits 8 h.clientId
  cxid : BigEndian.Fits 4 h.cxid
  zxid : BigEndian.Fits 8 h.zxid
  time : BigEndian.Fits 8 h.time
  type : BigEndian.Fits 4 h.type

end TxnHeader

namespace Acl

/-- The entry as it is written. -/
def encode (a : Acl) : Bytes := Field.int a.perms ++ Field.string a.scheme ++ Field.string a.id

/-- The number and the texts of an entry fit their fields. -/
structure Fits (a : Acl) : Prop where
  perms : BigEndian.Fits 4 a.perms
  scheme : Field.FitsString a.scheme
  id : Field.FitsString a.id

end Acl

mutual

/-- The body of a transaction as a writer has it. Buffers and vectors may be null. -/
inductive BodyForm where
  | createSession (timeout : Int)
  /-- Older servers write no body at all. -/
  | closeSession (paths : Option (Option (List (Option String))))
  /-- Older servers write no `parentCversion`. -/
  | create (path : Option String) (data : Option Bytes) (acl : Option (List Acl))
      (ephemeral : Bool) (parentCversion : Option Int)
  | createContainer (path : Option String) (data : Option Bytes) (acl : Option (List Acl))
      (parentCversion : Int)
  | delete (path : Option String)
  | setData (path : Option String) (data : Option Bytes) (version : Int)
  | error (err : Int)
  | multi (txns : Option (List SubForm))
  /-- The bytes of an operation that has no layout. -/
  | unknown (type : Int) (raw : Bytes)

/-- One operation of a multi transaction. Its body is serialized as a buffer of its own, and null
may stand for an empty one. -/
inductive SubForm where
  | mk (type : Int) (body : BodyForm) (null : Bool)

end

/-- The operations whose bodies have a layout. -/
def OpCode.withLayout : List OpCode := [
  .createSession, .closeSession, .create, .create2, .createContainer, .delete, .deleteContainer,
  .setData, .reconfig, .error, .multi]

/-- A body of this form belongs to the operation with the code. -/
def BodyForm.Matches (code : Int) : BodyForm → Prop
  | .createSession .. => code = OpCode.createSession.code
  | .closeSession .. => code = OpCode.closeSession.code
  | .create .. => code = OpCode.create.code ∨ code = OpCode.create2.code
  | .createContainer .. => code = OpCode.createContainer.code
  | .delete .. => code = OpCode.delete.code ∨ code = OpCode.deleteContainer.code
  | .setData .. => code = OpCode.setData.code ∨ code = OpCode.reconfig.code
  | .error .. => code = OpCode.error.code
  | .multi .. => code = OpCode.multi.code
  | .unknown type _ => code = type ∧ ∀ op ∈ OpCode.withLayout, code ≠ op.code

mutual

/-- The body as it is written. -/
def BodyForm.encode : BodyForm → Bytes
  | .createSession timeout => Field.int timeout
  | .closeSession none => []
  | .closeSession (some paths) => Field.vector Field.string paths
  | .create path data acl ephemeral parentCversion =>
    Field.string path ++ (Field.buffer data ++ (Field.vector Acl.encode acl
      ++ (Field.bool ephemeral ++ (parentCversion.map Field.int).getD [])))
  | .createContainer path data acl parentCversion =>
    Field.string path ++ (Field.buffer data ++ (Field.vector Acl.encode acl
      ++ Field.int parentCversion))
  | .delete path => Field.string path
  | .setData path data version => Field.string path ++ (Field.buffer data ++ Field.int version)
  | .error err => Field.int err
  | .multi none => Field.int (-1)
  | .multi (some txns) => Field.int txns.length ++ SubForm.encodeAll txns
  | .unknown _ raw => raw

/-- The operation as it is written, its code and the buffer of its body. -/
def SubForm.encode : SubForm → Bytes
  | .mk type body null => Field.int type ++ Field.buffer (if null then none else some body.encode)

/-- The operations as they are written, one after the other. -/
def SubForm.encodeAll : List SubForm → Bytes
  | [] => []
  | s :: subs => s.encode ++ SubForm.encodeAll subs

end

mutual

/-- What there is to read in the body. -/
def BodyForm.body : BodyForm → TxnBody
  | .createSession timeout => .createSession timeout
  | .closeSession paths => .closeSession (paths.join.getD [])
  | .create path data acl ephemeral parentCversion =>
    .create path (data.getD []) (acl.getD []) ephemeral (parentCversion.getD (-1))
  | .createContainer path data acl parentCversion =>
    .createContainer path (data.getD []) (acl.getD []) parentCversion
  | .delete path => .delete path
  | .setData path data version => .setData path (data.getD []) version
  | .error err => .error err
  | .multi none => .multi []
  | .multi (some txns) => .multi (SubForm.txns txns)
  | .unknown type raw => .unknown type raw

/-- What there is to read in the operation: its code, its body as it is written and the body. -/
def SubForm.txn : SubForm → SubTxn
  | .mk type body _ => .mk type body.encode body.body

/-- What there is to read in the operations. -/
def SubForm.txns : List SubForm → List SubTxn
  | [] => []
  | s :: subs => s.txn :: SubForm.txns subs

end

mutual

/-- The numbers and lengths of a body fit their fields. -/
def BodyForm.Fits : BodyForm → Prop
  | .createSession timeout => BigEndian.Fits 4 timeout
  | .closeSession paths => ∀ ps ∈ paths, Field.FitsVector Field.FitsString ps
  | .create path data acl _ parentCversion =>
    Field.FitsString path ∧ Field.FitsBuffer data ∧ Field.FitsVector Acl.Fits acl
      ∧ ∀ v ∈ parentCversion, BigEndian.Fits 4 v
  | .createContainer path data acl parentCversion =>
    Field.FitsString path ∧ Field.FitsBuffer data ∧ Field.FitsVector Acl.Fits acl
      ∧ BigEndian.Fits 4 parentCversion
  | .delete path => Field.FitsString path
  | .setData path data version =>
    Field.FitsString path ∧ Field.FitsBuffer data ∧ BigEndian.Fits 4 version
  | .error err => BigEndian.Fits 4 err
  | .multi none => True
  | .multi (some txns) => txns.length < Field.lengths ∧ SubForm.AllFit txns
  | .unknown .. => True

/-- An operation has a body of its own code, which fits and whose length fits its field. -/
def SubForm.Fits : SubForm → Prop
  | .mk type body null =>
    BigEndian.Fits 4 type ∧ body.Matches type ∧ body.Fits ∧ body.encode.length < Field.lengths
      ∧ (null = true → body.encode = [])

/-- All operations fit. -/
def SubForm.AllFit : List SubForm → Prop
  | [] => True
  | s :: subs => s.Fits ∧ SubForm.AllFit subs

end

/-! ### Multi transactions as vectors -/

namespace SubForm

/-- The operation code. -/
def type : SubForm → Int
  | .mk type _ _ => type

/-- The body as it is written. -/
def raw : SubForm → Bytes
  | .mk _ body _ => body.encode

/-- Operations are written one after the other. -/
theorem encodeAll_eq (subs : List SubForm) : encodeAll subs = subs.flatMap encode := by
  induction subs with
  | nil => rfl
  | cons s subs ih => rw [encodeAll, ih, List.flatMap_cons]

/-- Operations are read one after the other. -/
theorem txns_eq (subs : List SubForm) : txns subs = subs.map txn := by
  induction subs with
  | nil => rfl
  | cons s subs ih => rw [txns, ih, List.map_cons]

/-- All operations fit if each one does. -/
theorem allFit_iff (subs : List SubForm) : AllFit subs ↔ ∀ s ∈ subs, s.Fits := by
  induction subs with
  | nil => simp [AllFit]
  | cons s subs ih => rw [AllFit, ih, List.forall_mem_cons]

end SubForm

namespace BodyForm

/-- A multi transaction is written as a vector. -/
theorem encode_multi (txns : Option (List SubForm)) :
    (multi txns).encode = Field.vector SubForm.encode txns := by
  cases txns with
  | none => rfl
  | some subs => rw [encode, SubForm.encodeAll_eq, Field.vector]

/-- A multi transaction has the operations that are written, none for null. -/
theorem body_multi (txns : Option (List SubForm)) :
    (multi txns).body = .multi ((txns.getD []).map SubForm.txn) := by
  cases txns with
  | none => rfl
  | some subs => rw [body, SubForm.txns_eq, Option.getD_some]

/-- A multi transaction fits as a vector does. -/
theorem fits_multi (txns : Option (List SubForm)) :
    (multi txns).Fits ↔ Field.FitsVector SubForm.Fits txns := by
  cases txns with
  | none => simp [Fits, Field.FitsVector]
  | some subs => simp [Fits, Field.FitsVector, SubForm.allFit_iff]

end BodyForm

end TxnLog
