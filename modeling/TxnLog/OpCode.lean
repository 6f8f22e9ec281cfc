import TxnLog.Text.Digits

/-!
# Operation codes

The code in a transaction's header says which operation it records.
-/

namespace TxnLog

/-- The operations of a server. -/
inductive OpCode where
  | notification
  | create
  | delete
  | exists
  | getData
  | setData
  | getAcl
  | setAcl
  | getChildren
  | sync
  | ping
  | getChildren2
  | check
  | multi
  | create2
  | reconfig
  | checkWatches
  | removeWatches
  | createContainer
  | deleteContainer
  | createTtl
  | multiRead
  | auth
  | setWatches
  | sasl
  | createSession
  | closeSession
  | error
  deriving DecidableEq, Repr

namespace OpCode

/-- All operations. -/
def all : List OpCode := [
  .notification, .create, .delete, .exists, .getData, .setData, .getAcl, .setAcl, .getChildren,
  .sync, .ping, .getChildren2, .check, .multi, .create2, .reconfig, .checkWatches,
  .removeWatches, .createContainer, .deleteContainer, .createTtl, .multiRead, .auth,
  .setWatches, .sasl, .createSession, .closeSession, .error]

/-- The code by which a header names the operation. -/
def code : OpCode → Int
  | .notification => 0
  | .create => 1
  | .delete => 2
  | .exists => 3
  | .getData => 4
  | .setData => 5
  | .getAcl => 6
  | .setAcl => 7
  | .getChildren => 8
  | .sync => 9
  | .ping => 11
  | .getChildren2 => 12
  | .check => 13
  | .multi => 14
  | .create2 => 15
  | .reconfig => 16
  | .checkWatches => 17
  | .removeWatches => 18
  | .createContainer => 19
  | .deleteContainer => 20
  | .createTtl => 21
  | .multiRead => 22
  | .auth => 100
  | .setWatches => 101
  | .sasl => 102
  | .createSession => -10
  | .closeSession => -11
  | .error => -1

/-- The operation with the given code. -/
def ofCode? (n : Int) : Option OpCode := all.find? (·.code == n)

/-- The name under which the operation is displayed. -/
def name : OpCode → String
  | .notification => "notification"
  | .create => "create"
  | .delete => "delete"
  | .exists => "exists"
  | .getData => "getData"
  | .setData => "setData"
  | .getAcl => "getACL"
  | .setAcl => "setACL"
  | .getChildren => "getChildren"
  | .sync => "sync"
  | .ping => "ping"
  | .getChildren2 => "getChildren2"
  | .check => "check"
  | .multi => "multi"
  | .create2 => "create2"
  | .reconfig => "reconfig"
  | .checkWatches => "checkWatches"
  | .removeWatches => "removeWatches"
  | .createContainer => "createContainer"
  | .deleteContainer => "deleteContainer"
  | .createTtl => "createTTL"
  | .multiRead => "multiRead"
  | .auth => "auth"
  | .setWatches => "setWatches"
  | .sasl => "sasl"
  | .createSession => "createSession"
  | .closeSession => "closeSession"
  | .error => "error"

/-- The display name for a code, which need not be an operation's. -/
def display (n : Int) : String :=
  match ofCode? n with
  | some op => op.name
  | none => "unknown " ++ Text.decimal n

end OpCode

end TxnLog
