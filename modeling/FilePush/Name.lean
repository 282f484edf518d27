import FilePush.Error

/-!
# Names of transferred files

A file travels under the last component of its path and is stored under the last component of the
name it travelled under, where both kinds of slash separate components.  A name that would leave the
uploads directory is refused, and so are the names of unfinished files: these are formed from the
number of a connection and are therefore never shared with a file that a client names.
-/

namespace FilePush

namespace Name

/-- Both kinds of slash separate the components of a name. -/
def isSeparator (char : Char) : Bool := char = '/' || char = '\\'

/-- The longest ending of a text that holds no separator. -/
def lastComponent (chars : List Char) : List Char :=
  (chars.reverse.takeWhile fun char => !isSeparator char).reverse

/-- The part of a name after its last separator. -/
def basename (name : String) : String := String.ofList (lastComponent name.toList)

/-- What the name of an unfinished file starts with. -/
def stagingStart : String := ".tfp-"

/-- What the name of an unfinished file ends with. -/
def stagingEnd : String := ".part"

/-- The name of the unfinished file of a connection. -/
def staging (sequence : Nat) : String := stagingStart ++ toString sequence ++ stagingEnd

/-- Whether a name has the form of the name of an unfinished file. -/
def isStaging (name : String) : Bool :=
  stagingStart.toList.isPrefixOf name.toList && stagingEnd.toList.isSuffixOf name.toList

/-- Whether a name without separators may be stored under. -/
def isStorable (name : String) : Bool :=
  !(name.isEmpty || name = "." || name = ".." || name.toList.contains '\x00' || isStaging name)

/-- The name to store a received file under. -/
def storage (received : Bytes) : Except ProtocolError String :=
  match Utf8.decode? received with
  | none => .error (.invalidFilename (Utf8.lossy received))
  | some name =>
      let base := basename name
      if isStorable base then .ok base else .error (.invalidFilename name)

/-- The name that a file travels under; a path that is not text has none. -/
def wire (path : Path) : Except FileError String :=
  match Utf8.decode? path.bytes with
  | none => .error (.nonUtf8Name path)
  | some text => .ok (basename text)

end Name

end FilePush
