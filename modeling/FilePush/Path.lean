import FilePush.IoError
import FilePush.Text.Quoted

/-!
# Paths

A path is a byte string whose components are separated by slashes.  It need not be text: what a
path shows is its text with the ill-formed parts replaced.
-/

namespace FilePush

/-- A path to a file or a directory. -/
structure Path where
  /-- The bytes of the path. -/
  bytes : Bytes
  deriving DecidableEq, Repr

namespace Path

/-- The byte that separates components. -/
def separator : UInt8 := 0x2F

/-- The component that stands for the directory itself. -/
def self : Bytes := [0x2E]

/-- The component that stands for the directory above. -/
def parent : Bytes := [0x2E, 0x2E]

/-- The greatest length of one component. -/
def componentLimit : Nat := 255

/-- The length that a path must not reach. -/
def lengthLimit : Nat := 4096

/-- The path that a text spells. -/
def ofString (text : String) : Path := ⟨Utf8.encode text⟩

/-- A path as text. -/
def display (path : Path) : String := Utf8.lossy path.bytes

/-- A path in quotes, nothing of it hidden. -/
def quoted (path : Path) : String := Quoted.bytes path.bytes

/-- Whether a path starts at the root and not at the working directory. -/
def isAbsolute (path : Path) : Bool := path.bytes.head? = some separator

/-- The path of `name` below `directory`; an absolute `name` stands for itself. -/
def join (directory name : Path) : Path :=
  if name.isAbsolute then name
  else if directory.bytes.isEmpty || directory.bytes.getLast? = some separator then
    ⟨directory.bytes ++ name.bytes⟩
  else ⟨directory.bytes ++ separator :: name.bytes⟩

/-- Cut at every separator: one more component than there are separators. -/
def split : Bytes → List Bytes
  | [] => [[]]
  | byte :: rest =>
      if byte = separator then [] :: split rest
      else
        match split rest with
        | [] => [[byte]]
        | component :: components => (byte :: component) :: components

/-- The components of a path, empty ones included. -/
def components (path : Path) : List Bytes := split path.bytes

/-- What keeps a path from being looked up at all. -/
def problem? (path : Path) : Option IoError :=
  if path.bytes.contains 0 then some .nulInPath
  else if path.bytes.isEmpty then some .notFound
  else if lengthLimit ≤ path.bytes.length then some .nameTooLong
  else none

end Path

end FilePush
