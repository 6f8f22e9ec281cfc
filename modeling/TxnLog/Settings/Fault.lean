import TxnLog.Checksum
import TxnLog.Diagnostics.Level
import TxnLog.Text.Utf8
import TxnLog.Value

/-!
# Faults of the settings

Settings come from a file, from the environment and from the command line, and hold whatever
was put there. A `Fault` says what keeps them from being used. A fault of some kinds is
reported as an invalid configuration; the others are not expected and end the program.
-/

namespace TxnLog.Settings

/-- The kinds of faults. -/
inductive Fault.Kind where
  /-- The file cannot be read. -/
  | system
  /-- The text of the file cannot be parsed. -/
  | malformed
  /-- A value of the right type that is out of its range. -/
  | value
  /-- A value of the wrong type. -/
  | type
  /-- A number too large to be converted. -/
  | overflow
  deriving DecidableEq, Repr

/-- What keeps settings from being used. -/
inductive Fault where
  /-- The file does not exist. -/
  | missingFile (path : String)
  /-- The file is a directory. -/
  | isDirectory (path : String)
  /-- A directory on the way to the file is none. -/
  | notDirectory (path : String)
  /-- The name of the file, or of a directory on the way to it, is too long. -/
  | longName (path : String)
  /-- No file can have this name. -/
  | unusableName
  /-- The file is not in the format of settings files. -/
  | malformed
  /-- The file is not UTF-8. -/
  | notText (fault : Text.Utf8.Fault)
  /-- An escape in the file stands for a number that is no character. -/
  | noCharacter
  /-- An escape in the file stands for a number that does not fit into 31 bits. -/
  | longCode
  /-- A number in the file that has a mark of its base but no digits. -/
  | noDigits (base : Nat)
  /-- The file does not hold a mapping but a value of another kind. -/
  | notMapping (path kind : String)
  /-- A setting is to be put below a value that is not a mapping. -/
  | notSection
  /-- A text that is no integer. -/
  | notInteger (literal : String)
  /-- A byte string that is no integer. -/
  | notIntegerBytes (raw : Bytes)
  /-- Digits in the file that have the form of a date or a time but stand for none. -/
  | noDate (reason : String)
  /-- A text that starts like an integer, with more digits than are allowed. -/
  | longLiteral (digits : Nat)
  /-- An integer is to be written as text and has more digits than are allowed. -/
  | unwritable
  /-- A value is to be written as JSON with a key of a kind that JSON has no form for. -/
  | foreignKey
  /-- A number that is none is to be an integer. -/
  | nanInteger
  /-- An infinite number is to be an integer. -/
  | infiniteInteger
  /-- A value that cannot be an integer or be compared with one. -/
  | notNumber
  /-- A value that cannot be looked up. -/
  | notName
  /-- A name that is no setting. -/
  | unknownSetting
  /-- An interval below zero. -/
  | negativeInterval (name : String) (given : Value)
  /-- A limit that no frame can keep to. -/
  | nonPositiveLimit (given : Value)
  /-- A checksum that is not known. -/
  | unknownChecksum (given : Value)
  /-- A checksum that is not known, where one is to be computed. -/
  | unsupportedChecksum (given : Value)
  /-- A level that is not known. -/
  | unknownLevel (given : Value)
  /-- A format of diagnostics that is not known. -/
  | unknownFormat (given : Value)
  /-- An interval with too many seconds for a double. -/
  | longInterval

namespace Fault

/-- The kind of a fault. -/
def kind : Fault → Kind
  | .missingFile _ | .isDirectory _ | .notDirectory _ | .longName _ => .system
  | .malformed => .malformed
  | .unusableName | .notText _ | .noCharacter | .noDigits _ | .notMapping .. | .notInteger _
  | .notIntegerBytes _ | .noDate _ | .longLiteral _ | .unwritable | .nanInteger
  | .negativeInterval .. | .nonPositiveLimit _ | .unknownChecksum _ | .unsupportedChecksum _
  | .unknownLevel _ | .unknownFormat _ => .value
  | .notSection | .notNumber | .notName | .unknownSetting | .foreignKey => .type
  | .longCode | .infiniteInteger | .longInterval => .overflow

/-- A fault of this kind is reported as an invalid configuration. -/
def Kind.isReported : Kind → Bool
  | .system | .malformed | .value => true
  | .type | .overflow => false

/-- The names of all levels as messages list them. -/
def levelNames : String :=
  ", ".intercalate (Diagnostics.Level.all.map Diagnostics.Level.settingName)

/-- The text of a fault about a value, given the text of the value. If the value may not be
written, nothing more is said. -/
def aboutValue (v : Value) (written : String) (text : String → String) : String :=
  if v.isWritable then text written else Literal.Unwritable.message .tooLong

/-- What a text says that is no integer literal. -/
def noLiteral (base : Nat) (quoted : String) : String :=
  "invalid literal for int() with base " ++ Text.decimal base ++ ": " ++ quoted

/-- The text of a fault. -/
def message : Fault → String
  | .missingFile path => "[Errno 2] No such file or directory: " ++ Text.Quoted.text path
  | .isDirectory path => "[Errno 21] Is a directory: " ++ Text.Quoted.text path
  | .notDirectory path => "[Errno 20] Not a directory: " ++ Text.Quoted.text path
  | .longName path => "[Errno 36] File name too long: " ++ Text.Quoted.text path
  | .unusableName => "embedded null byte"
  | .malformed => "<yaml>"
  | .notText fault => fault.message
  | .noCharacter => "chr() arg not in range(0x110000)"
  | .longCode => "a code of more than 31 bits"
  | .noDigits base => noLiteral base (Text.Quoted.text "")
  | .notMapping path kind =>
    "Configuration file " ++ path ++ " must contain a mapping, got " ++ kind
  | .notSection => "a setting below a value that is not a mapping"
  | .notInteger literal =>
    noLiteral 10 (String.ofList ((Text.Quoted.text literal).toList.take 200))
  | .notIntegerBytes raw =>
    noLiteral 10 (String.ofList ((Text.Quoted.bytes (raw.take 200)).toList.take 200))
  | .noDate reason => reason
  | .longLiteral digits =>
    Literal.limitText ++ ": value has " ++ Text.decimal digits ++ " digits" ++ Literal.limitAdvice
  | .unwritable => Literal.Unwritable.message .tooLong
  | .foreignKey => "a key that JSON has no form for"
  | .nanInteger => "cannot convert float NaN to integer"
  | .infiniteInteger => "cannot convert float infinity to integer"
  | .notNumber => "a value that is not a number"
  | .notName => "a value that is not a name"
  | .unknownSetting => "a name that is not a setting"
  | .negativeInterval name given =>
    aboutValue given given.display (name ++ " must be non-negative, got " ++ ·)
  | .nonPositiveLimit given =>
    aboutValue given given.display ("max_frame_size must be positive, got " ++ ·)
  | .unknownChecksum given =>
    aboutValue given given.literal
      ("checksum must be one of " ++ Checksum.Algorithm.names ++ ", got " ++ ·)
  | .unsupportedChecksum given =>
    aboutValue given given.literal fun s =>
      "Unsupported checksum algorithm: " ++ s ++ " (expected one of "
        ++ Checksum.Algorithm.names ++ ")"
  | .unknownLevel given =>
    aboutValue given given.literal fun s =>
      "Unknown log level: " ++ s ++ " (expected one of " ++ levelNames ++ ")"
  | .unknownFormat given =>
    aboutValue given given.literal fun s =>
      "Unknown log format: " ++ s ++ " (expected one of console, json)"
  | .longInterval => "integer division result too large for a float"

end Fault

end TxnLog.Settings
