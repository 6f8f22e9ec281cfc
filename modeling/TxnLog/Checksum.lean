import TxnLog.Checksum.Adler32
import TxnLog.Checksum.Crc32c

/-!
# Frame checksums

A frame's payload is protected by one of two checksums, which the settings choose by name.
-/

namespace TxnLog

namespace Checksum

/-- The checksums a log can be written with. -/
inductive Algorithm where
  | adler32
  | crc32c
  deriving DecidableEq, Repr

/-- All algorithms, in the order in which messages list them. -/
def Algorithm.all : List Algorithm := [.adler32, .crc32c]

/-- The name by which settings choose an algorithm. -/
def Algorithm.name : Algorithm → String
  | .adler32 => "adler32"
  | .crc32c => "crc32c"

/-- The algorithm of that exact name. -/
def Algorithm.ofName? (name : String) : Option Algorithm :=
  Algorithm.all.find? (·.name == name)

/-- The names of all algorithms as messages list them. -/
def Algorithm.names : String := ", ".intercalate (Algorithm.all.map Algorithm.name)

/-- The checksum of a payload. -/
def Algorithm.compute : Algorithm → Bytes → Nat
  | .adler32, payload => Adler32.checksum payload
  | .crc32c, payload => Crc32c.checksum payload

/-- The stored value is the checksum of the payload. -/
def Algorithm.verify (a : Algorithm) (payload : Bytes) (stored : Int) : Bool :=
  (a.compute payload : Int) == stored

end Checksum

end TxnLog
