import FilePush.Config
import FilePush.Network.Address
import FilePush.Text.Numeral

/-!
# Command lines

The words of a command line are read from left to right, from the word after the program's name on.
An option takes the word after it as its value, whatever that word looks like.  The first word that
is wrong ends the reading, and so does the first request for help.
-/

namespace FilePush

namespace CommandLine

/-- What an argument is where an option can stand. -/
inductive Argument (Setting : Type)
  /-- An option that takes a value. -/
  | option (setting : Setting)
  /-- A request for help. -/
  | help
  /-- A positional argument. -/
  | positional
  deriving DecidableEq, Repr

/-- What is wrong with a command line. -/
inductive UsageError
  /-- An option lacks its value. -/
  | missingValue (spelling : String)
  /-- The value of an option is no number. -/
  | invalidNumber (spelling value : String)
  /-- The number of positional arguments is wrong. -/
  | wrongCount
  /-- An address is none. -/
  | invalidAddress (text : String)
  /-- A port is none. -/
  | invalidPort (text : String)
  deriving DecidableEq, Repr

/-- The text of a usage error of a program with a given usage. -/
def UsageError.message (usage : String) : UsageError → String
  | missingValue spelling => s!"{spelling} 값 필요\n{usage}"
  | invalidNumber spelling value => s!"{spelling}: 유효한 숫자 필요 (got {value})"
  | wrongCount => usage
  | invalidAddress text => s!"유효하지 않은 IP: {text}"
  | invalidPort text => s!"유효하지 않은 포트: {text}"

/-- Why a command line gives no options. -/
inductive Ending
  /-- It asks for help. -/
  | help
  /-- Something is wrong with it. -/
  | invalid (error : UsageError)
  deriving DecidableEq, Repr

/-- How the value of an option, with the option's spelling, changes a configuration. -/
abbrev Apply (Setting : Type) :=
  Setting → (spelling value : String) → Config → Except UsageError Config

/-- The value of the option that is the word at an index: the word after it. -/
def valueAfter (words : Array String) (index : Nat) (inside : index < words.size) :
    Except UsageError String :=
  match words[index + 1]? with
  | some value => .ok value
  | none => .error (.missingValue words[index])

/--
Read words from an index on into a configuration and the positional arguments; `found` holds the
positional arguments before the index.
-/
def readFrom {Setting : Type} (recognise : String → Argument Setting) (apply : Apply Setting)
    (words : Array String) (index : Nat) (config : Config) (found : List String) :
    Except Ending (Config × List String) :=
  if inside : index < words.size then
    match recognise words[index] with
    | .option setting =>
        match valueAfter words index inside with
        | .error error => .error (.invalid error)
        | .ok value =>
            match apply setting words[index] value config with
            | .error error => .error (.invalid error)
            -- The value is passed over, and then the option.
            | .ok config => readFrom recognise apply words (index + 1 + 1) config found
    | .help => .error .help
    | .positional => readFrom recognise apply words (index + 1) config (found ++ [words[index]])
  else
    .ok (config, found)
termination_by words.size - index

/-- Read the words of a command line, of which the first is the program's name. -/
def read {Setting : Type} (recognise : String → Argument Setting) (apply : Apply Setting)
    (words : Array String) : Except Ending (Config × List String) :=
  readFrom recognise apply words 1 .standard []

/-- The greatest number that an option can have. -/
def numberLimit : Nat := UInt64.size - 1

/-- The number that the value of an option spells. -/
def number (spelling value : String) : Except UsageError Nat :=
  match Numeral.parse? numberLimit value with
  | some number => .ok number
  | none => .error (.invalidNumber spelling value)

/-- The port that a positional argument spells. -/
def port (text : String) : Except Ending UInt16 :=
  match SocketAddress.parsePort? text with
  | some port => .ok port
  | none => .error (.invalid (.invalidPort text))

end CommandLine

end FilePush
