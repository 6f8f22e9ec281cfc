import TxnLog.Text.Utf8
import TxnLog.Text.Base64

/-!
# Bytes for display

Bytes that are UTF-8 are shown as the text they are, all others in base64, with a note of which
of the two was used.
-/

namespace TxnLog.Text

/-- How bytes are shown. -/
inductive Encoding where
  | utf8
  | base64
  deriving DecidableEq, Repr

/-- The name of an encoding. -/
def Encoding.name : Encoding → String
  | .utf8 => "utf-8"
  | .base64 => "base64"

/-- A display text and how it stands for the bytes. -/
structure Rendered where
  text : String
  encoding : Encoding
  deriving DecidableEq, Repr

/-- The bytes had to be shown in base64. -/
def Rendered.isFallback (r : Rendered) : Bool := r.encoding = .base64

/-- The display form of the bytes. -/
def Rendered.ofBytes (bs : Bytes) : Rendered :=
  match Utf8.decode bs with
  | .ok s => ⟨s, .utf8⟩
  | .error _ => ⟨Base64.encode bs, .base64⟩

end TxnLog.Text
