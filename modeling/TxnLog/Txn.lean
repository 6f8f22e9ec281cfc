import TxnLog.Bytes

/-!
# Transactions

A transaction is a header and a body whose shape depends on the operation. Texts and buffers
may be null in a log; a null text stays distinct from an empty one, a null buffer does not.
-/

namespace TxnLog

/-- The fixed part at the start of every transaction. -/
structure TxnHeader where
  /-- The session that issued the request. -/
  clientId : Int
  /-- The number of the request within its session. -/
  cxid : Int
  /-- The number of the transaction in the order of all. -/
  zxid : Int
  /-- The wall-clock time, in milliseconds since 1970. -/
  time : Int
  /-- The operation code. -/
  type : Int
  deriving DecidableEq, Repr

/-- One entry of an access control list. -/
structure Acl where
  /-- The permission bits. -/
  perms : Int
  /-- The scheme by which `id` is to be understood. -/
  scheme : Option String
  /-- Whom the entry is for. -/
  id : Option String
  deriving DecidableEq, Repr

mutual

/-- The part of a transaction that depends on the operation. -/
inductive TxnBody where
  | createSession (timeout : Int)
  | closeSession (paths : List (Option String))
  /-- A `parentCversion` that the log does not hold is -1. -/
  | create (path : Option String) (data : Bytes) (acl : List Acl) (ephemeral : Bool)
      (parentCversion : Int)
  | createContainer (path : Option String) (data : Bytes) (acl : List Acl)
      (parentCversion : Int)
  | delete (path : Option String)
  | setData (path : Option String) (data : Bytes) (version : Int)
  | error (err : Int)
  | multi (txns : List SubTxn)
  /-- The bytes of an operation that has no decoder. -/
  | unknown (type : Int) (raw : Bytes)

/-- One operation of a multi transaction: its code, its serialized body and the decoded one. -/
inductive SubTxn where
  | mk (type : Int) (raw : Bytes) (body : TxnBody)

end

/-- The operation code of a sub-operation. -/
def SubTxn.type : SubTxn → Int
  | .mk type _ _ => type

/-- The serialized body of a sub-operation. -/
def SubTxn.raw : SubTxn → Bytes
  | .mk _ raw _ => raw

/-- The decoded body of a sub-operation. -/
def SubTxn.body : SubTxn → TxnBody
  | .mk _ _ body => body

/-- A header and its body. -/
structure Txn where
  /-- The fixed part. -/
  header : TxnHeader
  /-- The part that depends on the operation. -/
  body : TxnBody

end TxnLog
