import FilePush.CommandLine.Basic
import FilePush.Event

/-!
# What the programs print

A program prints the events that are important enough, and ends with an exit status.  How important
an event has to be is told by name.
-/

namespace FilePush

/-- The least importance of an event that is printed; `none` if none is. -/
abbrev Threshold := Option Level

namespace Threshold

/-- What is printed unless told otherwise. -/
def standard : Threshold := some .info

/-- The importance that a name stands for, if it stands for one. -/
def ofName? (name : String) : Option Threshold :=
  match name.toLower with
  | "off" => some none
  | "error" => some (some .error)
  | "warn" => some (some .warn)
  | "info" => some (some .info)
  | "debug" | "trace" => some (some .debug)
  | _ => none

/-- The importance that a name stands for; the usual one without a usable name. -/
def ofName (name? : Option String) : Threshold := (name?.bind ofName?).getD standard

/-- Whether an event is important enough. -/
def admits (threshold : Threshold) (event : Event) : Bool :=
  match threshold with
  | some level => event.notice.level.rank ≤ level.rank
  | none => false

/-- The lines of the events that are important enough. -/
def lines (threshold : Threshold) (journal : Journal) : List String :=
  (journal.events.filter threshold.admits).map Event.line

end Threshold

/-- What a program prints, and its exit status. -/
structure Output where
  /-- The lines of the standard output. -/
  lines : List String
  /-- The lines of the standard error. -/
  errors : List String
  /-- The exit status. -/
  status : UInt8
  deriving DecidableEq, Repr

namespace Output

/-- The output of a program whose command line gives no options. -/
def ofEnding (usage : String) (help : List String) : CommandLine.Ending → Output
  | .help => ⟨help, [], 0⟩
  | .invalid error => ⟨[], [error.message usage], 1⟩

/-- The output of a program that printed some lines and succeeded or failed. -/
def ofResult (lines : List String) : Except TransferError Unit → Output
  | .ok () => ⟨lines, [], 0⟩
  | .error error => ⟨lines, [s!"error: {error.message}"], 1⟩

end Output

end FilePush
