import TxnLog.Archive
import TxnLog.OpCode
import TxnLog.Txn

/-!
# Decoding transactions

A payload is a header and a body in the layout of the header's operation. An operation without
a layout keeps its bytes, so that newer logs stay readable, and bytes after a body are ignored.
A multi transaction first reads the codes and buffers of its sub-operations and then decodes
each buffer on its own: a sub-operation that cannot be decoded keeps its bytes and disturbs no
other. Every buffer is shorter than what it was read from, so the nesting ends.
-/

namespace TxnLog

open Archive

/-- Reads a buffer, null as empty. -/
def Archive.bytes (tag : String) : Reader Bytes := do
  return (← buffer tag).getD []

namespace TxnHeader

/-- Reads a header. -/
def read : Reader TxnHeader := do
  let clientId ← long "clientId"
  let cxid ← int "cxid"
  let zxid ← long "zxid"
  let time ← long "time"
  let type ← int "type"
  return { clientId, cxid, zxid, time, type }

end TxnHeader

namespace Acl

/-- Reads an access control entry. -/
def read : Reader Acl := do
  let perms ← int "perms"
  let scheme ← string "scheme"
  let id ← string "id"
  return { perms, scheme, id }

end Acl

namespace TxnBody

/-- Reads the body of a session's creation. -/
def readCreateSession : Reader TxnBody := do
  return .createSession (← int "timeOut")

/-- Reads the body of a session's end, which older logs leave out. -/
def readCloseSession : Reader TxnBody := do
  if (← remaining) = 0 then return .closeSession []
  else return .closeSession (← vector "paths2Delete" (string "path"))

/-- Reads the body of a node's creation. The last field is missing from older logs. -/
def readCreate : Reader TxnBody := do
  let path ← string "path"
  let data ← bytes "data"
  let acl ← vector "acl" Acl.read
  let ephemeral ← bool "ephemeral"
  if 4 ≤ (← remaining) then
    return .create path data acl ephemeral (← int "parentCVersion")
  else
    return .create path data acl ephemeral (-1)

/-- Reads the body of a container's creation. -/
def readCreateContainer : Reader TxnBody := do
  let path ← string "path"
  let data ← bytes "data"
  let acl ← vector "acl" Acl.read
  return .createContainer path data acl (← int "parentCVersion")

/-- Reads the body of a deletion. -/
def readDelete : Reader TxnBody := do
  return .delete (← string "path")

/-- Reads the body of a change of data. -/
def readSetData : Reader TxnBody := do
  let path ← string "path"
  let data ← bytes "data"
  return .setData path data (← int "version")

/-- Reads the body of a failed request. -/
def readError : Reader TxnBody := do
  return .error (← int "err")

/-- Reads what remains as the body of an operation without a layout. -/
def readUnknown (code : Int) : Reader TxnBody := do
  return .unknown code (← rest)

end TxnBody

namespace SubTxn

/-- Reads the code and the serialized body of a sub-operation. -/
def readRaw : Reader (Int × Bytes) := do
  let code ← int "type"
  let raw ← bytes "data"
  return (code, raw)

end SubTxn

/-! ### The nesting ends -/

namespace Archive

/-- What is taken and what remains make up what was there. -/
theorem length_of_take {tag : String} {n : Nat} {c next : Cursor} {bs : Bytes}
    (h : take tag n c = (.ok bs, next)) :
    bs.length = n ∧ n + next.rest.length = c.rest.length := by
  simp only [take] at h
  split at h
  · simp at h
  · next hlt =>
    simp only [Prod.mk.injEq, Except.ok.injEq] at h
    obtain ⟨rfl, rfl⟩ := h
    simp only [List.length_take] at hlt
    simp only [Cursor.advance, List.length_take, List.length_drop]
    omega

/-- An integer takes four bytes. -/
theorem length_of_int {tag : String} {c next : Cursor} {n : Int}
    (h : int tag c = (.ok n, next)) : 4 + next.rest.length = c.rest.length := by
  simp only [int, Attempt.bind_eq_ok_iff, Attempt.pure_eq_ok_iff] at h
  obtain ⟨bs, mid, htake, _, rfl⟩ := h
  exact (length_of_take htake).2

/-- A buffer takes four bytes more than it holds. -/
theorem length_of_buffer {tag : String} {c next : Cursor} {ob : Option Bytes}
    (h : buffer tag c = (.ok ob, next)) :
    4 + (ob.getD []).length + next.rest.length = c.rest.length := by
  simp only [buffer, Attempt.bind_eq_ok_iff] at h
  obtain ⟨n, mid, hint, h⟩ := h
  have hfour := length_of_int hint
  split at h
  · -- null
    simp only [Attempt.pure_eq_ok_iff] at h
    obtain ⟨rfl, rfl⟩ := h
    simpa using hfour
  · split at h
    · simp at h
    · simp only [Attempt.bind_eq_ok_iff, Attempt.pure_eq_ok_iff] at h
      obtain ⟨bs, _, htake, rfl, rfl⟩ := h
      have := length_of_take htake
      simp; omega

/-- A buffer takes four bytes more than it holds, also where null is read as empty. -/
theorem length_of_bytes {tag : String} {c next : Cursor} {bs : Bytes}
    (h : bytes tag c = (.ok bs, next)) :
    4 + bs.length + next.rest.length = c.rest.length := by
  simp only [bytes, Attempt.bind_eq_ok_iff, Attempt.pure_eq_ok_iff] at h
  obtain ⟨ob, mid, hbuffer, rfl, rfl⟩ := h
  exact length_of_buffer hbuffer

end Archive

/-- A sub-operation's serialized body is shorter than what it is read from. -/
theorem SubTxn.length_of_readRaw {c next : Cursor} {s : Int × Bytes}
    (h : SubTxn.readRaw c = (.ok s, next)) :
    s.2.length < c.rest.length ∧ next.rest.length ≤ c.rest.length := by
  simp only [SubTxn.readRaw, Attempt.bind_eq_ok_iff, Attempt.pure_eq_ok_iff] at h
  obtain ⟨code, mid, hint, raw, last, hbytes, rfl, rfl⟩ := h
  have := length_of_int hint
  have := length_of_bytes hbytes
  simp; omega

/-- Every sub-operation of a vector is shorter than what the vector is read from. -/
theorem SubTxn.length_of_elements {count : Nat} {done subs : List (Int × Bytes)}
    {c next : Cursor} (h : elements SubTxn.readRaw count done c = (.ok subs, next)) :
    ∀ s ∈ subs, s ∈ done ∨ s.2.length < c.rest.length := by
  induction count generalizing done c with
  | zero =>
    simp only [elements, Prod.mk.injEq, Except.ok.injEq] at h
    intro s hs
    rw [← h.1] at hs
    exact .inl (List.mem_reverse.mp hs)
  | succ count ih =>
    simp only [elements] at h
    split at h
    · next hraw =>
      intro s hs
      obtain ⟨hlt, hle⟩ := SubTxn.length_of_readRaw hraw
      rcases ih h s hs with hmem | hlen
      · rcases List.mem_cons.mp hmem with rfl | hmem
        · exact .inr hlt
        · exact .inl hmem
      · exact .inr (by omega)
    · simp at h

/-- Every sub-operation of a multi transaction is shorter than its body. -/
theorem SubTxn.length_of_vector {tag : String} {subs : List (Int × Bytes)} {c next : Cursor}
    (h : vector tag SubTxn.readRaw c = (.ok subs, next)) :
    ∀ s ∈ subs, s.2.length < c.rest.length := by
  simp only [vector, Attempt.bind_eq_ok_iff] at h
  obtain ⟨count, mid, hint, h⟩ := h
  have hfour := length_of_int hint
  split at h
  · simp only [Attempt.pure_eq_ok_iff] at h
    simp [← h.1]
  · split at h
    · simp at h
    · intro s hs
      rcases SubTxn.length_of_elements h s hs with hmem | hlen
      · simp at hmem
      · omega

namespace TxnBody

/-- Reads the body of the operation with the given code. -/
def read (code : Int) (c : Cursor) : Except DecodeError TxnBody × Cursor :=
  match OpCode.ofCode? code with
  | some .createSession => readCreateSession c
  | some .closeSession => readCloseSession c
  | some .create | some .create2 => readCreate c
  | some .createContainer => readCreateContainer c
  | some .delete | some .deleteContainer => readDelete c
  | some .setData | some .reconfig => readSetData c
  | some .error => readError c
  | some .multi =>
    match _h : vector "txns" SubTxn.readRaw c with
    | (.error e, next) => (.error e, next)
    | (.ok subs, next) =>
      let txns := subs.attach.map fun ⟨(type, raw), _⟩ =>
        match read type (Cursor.ofBytes raw) with
        | (.ok body, _) => SubTxn.mk type raw body
        | (.error _, _) => SubTxn.mk type raw (.unknown type raw)
      (.ok (.multi txns), next)
  | _ => readUnknown code c
termination_by c.rest.length
decreasing_by
  exact SubTxn.length_of_vector _h _ ‹_›

end TxnBody

namespace Txn

/-- Reads a header and the body that belongs to it. -/
def read : Reader Txn := do
  let header ← TxnHeader.read
  let body ← TxnBody.read header.type
  return { header, body }

/-- The transaction in a frame's payload. -/
def decode (payload : Bytes) : Except DecodeError Txn :=
  if payload.isEmpty then .error .emptyPayload else (read (Cursor.ofBytes payload)).1

end Txn

end TxnLog
