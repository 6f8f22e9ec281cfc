import TxnLog.Text.Quoted
import TxnLog.Txn

/-!
# Dumps

A dump shows every field of a body, nested ones included, on a single line: the kind of body,
then its fields by name, with texts and byte strings quoted.
-/

namespace TxnLog

namespace Dump

/-- A text in quotes, or `None` for a null one. -/
def text : Option String → String
  | none => "None"
  | some s => Text.Quoted.text s

/-- A truth value. -/
def truth (b : Bool) : String := if b then "True" else "False"

/-- A list in brackets, given its elements. -/
def list (items : List String) : String := "[" ++ ", ".intercalate items ++ "]"

/-- An access control entry. -/
def acl (a : Acl) : String :=
  "ACL(perms=" ++ Text.decimal a.perms ++ ", scheme=" ++ text a.scheme ++ ", id=" ++ text a.id
    ++ ")"

/-- A list of access control entries. -/
def acls (as : List Acl) : String := list (as.map acl)

mutual

/-- A body. -/
def body : TxnBody → String
  | .createSession timeout => "CreateSessionTxn(timeout=" ++ Text.decimal timeout ++ ")"
  | .closeSession paths => "CloseSessionTxn(paths_to_delete=" ++ list (paths.map text) ++ ")"
  | .create path data entries ephemeral version =>
    "CreateTxn(path=" ++ text path ++ ", data_bytes=" ++ Text.Quoted.bytes data ++ ", acl="
      ++ acls entries ++ ", ephemeral=" ++ truth ephemeral ++ ", parent_cversion="
      ++ Text.decimal version ++ ")"
  | .createContainer path data entries version =>
    "CreateContainerTxn(path=" ++ text path ++ ", data_bytes=" ++ Text.Quoted.bytes data
      ++ ", acl=" ++ acls entries ++ ", parent_cversion=" ++ Text.decimal version ++ ")"
  | .delete path => "DeleteTxn(path=" ++ text path ++ ")"
  | .setData path data version =>
    "SetDataTxn(path=" ++ text path ++ ", data_bytes=" ++ Text.Quoted.bytes data ++ ", version="
      ++ Text.decimal version ++ ")"
  | .error err => "ErrorTxn(err=" ++ Text.decimal err ++ ")"
  | .multi txns =>
    match txns with
    | [] => "MultiTxn(txns=[])"
    | t :: ts => subTxns ("MultiTxn(txns=[" ++ subTxn t) ts ++ "])"
  | .unknown type raw =>
    "UnknownTxn(type=" ++ Text.decimal type ++ ", raw=" ++ Text.Quoted.bytes raw ++ ")"

/-- A sub-operation. -/
def subTxn : SubTxn → String
  | .mk type raw b =>
    "SubTxn(type=" ++ Text.decimal type ++ ", raw=" ++ Text.Quoted.bytes raw ++ ", body="
      ++ body b ++ ")"

/-- Further sub-operations behind the text `done`. -/
def subTxns (done : String) : List SubTxn → String
  | [] => done
  | t :: ts => subTxns (done ++ ", " ++ subTxn t) ts

end

end Dump

/-- The dump of a body. -/
def TxnBody.dump (b : TxnBody) : String := Dump.body b

end TxnLog
