import TxnLog.Bytes
import TxnLog.Text.Split

/-!
# Paths and folders

A path is kept in its normal form: no empty component and no component `.`, while `..` stays,
since it may lead elsewhere behind a link. A `Folder` holds the files and folders below the
folder in which the program runs, and `find` tells what a path leads to from there.
-/

namespace TxnLog.CommandLine

/-- What the components of a path start from. -/
inductive Root where
  /-- The folder in which the program runs. -/
  | here
  /-- The root of the file system. -/
  | absolute
  /-- The root that two slashes name. -/
  | doubled
  deriving DecidableEq, Repr

/-- A path in normal form. -/
structure Path where
  root : Root
  /-- The components, none of them empty or `.`. -/
  components : List String
  deriving DecidableEq, Repr

namespace Path

/-- What stands between the slashes of a text. -/
def componentsOf (s : String) : List String := (Text.split '/' s.toList).map String.ofList

/-- What the components of a text start from. -/
def rootOf : List Char → Root
  | '/' :: '/' :: '/' :: _ => .absolute
  | '/' :: '/' :: _ => .doubled
  | '/' :: _ => .absolute
  | _ => .here

/-- The path that a text names. -/
def ofString (s : String) : Path where
  root := rootOf s.toList
  components := (componentsOf s).filter fun c => c ≠ "" ∧ c ≠ "."

/-- The text of a path. -/
def text (p : Path) : String :=
  let joined := "/".intercalate p.components
  match p.root with
  | .here => if p.components.isEmpty then "." else joined
  | .absolute => "/" ++ joined
  | .doubled => "//" ++ joined

end Path

/-- What a path leads to. -/
inductive Place where
  | absent
  /-- A component that is to be a folder is none. -/
  | notFolder
  /-- The path, or a component that is to be looked up, is too long for a name. -/
  | longName
  | folder
  | file (content : Bytes)
  deriving DecidableEq, Repr

/-- The files and folders below the folder in which the program runs, each named by the
components of its path. -/
structure Folder where
  files : List (List String × Bytes) := []
  folders : List (List String) := []

namespace Folder

/-- The place with these components. -/
def place (f : Folder) (components : List String) : Place :=
  match f.files.lookup components with
  | some content => .file content
  | none =>
    if components = [] ∨ f.folders.any components.isPrefixOf then .folder else .absent

/-- The most bytes of a component. -/
def maxComponent : Nat := 255

/-- The most bytes of a path. -/
def maxPath : Nat := 4095

/-- What components lead to from a position: from the components of a place in this folder, or
from a folder outside it (`none`), where no names are known. -/
def walk (f : Folder) (position : Option (List String)) : (components : List String) → Place
  | [] => (position.map f.place).getD .folder
  | c :: more =>
    match (position.map f.place).getD .folder with
    | .absent => .absent
    | .longName => .longName
    | .notFolder | .file _ => .notFolder
    | .folder =>
      if maxComponent < c.utf8ByteSize then .longName
      else if c = "" ∨ c = "." then f.walk position more
      else
        match position with
        | none => if c = ".." then f.walk none more else .absent
        | some [] => if c = ".." then f.walk none more else f.walk (some [c]) more
        | some (d :: ds) =>
          if c = ".." then f.walk (some (d :: ds).dropLast) more
          else f.walk (some (d :: ds ++ [c])) more

/-- What a text leads to, which is taken as it is: behind a slash at its end the path must have
led to a folder. No name is empty or has the character NUL in it. -/
def findText (f : Folder) (s : String) : Place :=
  if s = "" ∨ s.toList.contains '\x00' then .absent
  else if maxPath < s.utf8ByteSize then .longName
  else
    match Path.rootOf s.toList with
    | .here => f.walk (some []) (Path.componentsOf s)
    | .absolute | .doubled => f.walk none (Path.componentsOf s)

/-- What a path leads to. -/
def find (f : Folder) (p : Path) : Place := f.findText p.text

end Folder

end TxnLog.CommandLine
