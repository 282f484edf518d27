import FilePush.FileTree.Basic

/-!
# Open files

A file open for writing takes its bytes in the background: a write returns before the device has
answered, so a failure is reported by the next operation on the file.  A file open for reading
gives its content in order, or fails.
-/

namespace FilePush

/-- The greatest number of bytes that one operation on an open file moves. -/
def transferLimit : Nat := 2 * 1024 * 1024

/-- A file open for writing. -/
structure OpenFile where
  /-- Where the file stands. -/
  location : Location
  /-- The failure of an earlier write that has not been reported yet. -/
  unreported : Option IoError
  deriving DecidableEq, Repr

namespace OpenFile

/-- A file just opened at a location. -/
def opened (location : Location) : OpenFile := ⟨location, none⟩

/--
Write a nonempty chunk.  An earlier failure is reported now and the chunk is dropped.  A full device
refuses the chunk, which shows at once if the chunk takes more than one operation and with the next
operation if it does not.
-/
def write (file : OpenFile) (tree : FileTree) (chunk : Bytes) :
    OpenFile × FileTree × Option IoError :=
  match file.unreported with
  | some failure => ({ file with unreported := none }, tree, some failure)
  | none =>
      if tree.get? file.location = some .full then
        if transferLimit < chunk.length then (file, tree, some .noSpace)
        else ({ file with unreported := some .noSpace }, tree, none)
      else (file, tree.append file.location chunk, none)

/-- Wait for the writes to be done; a failure not reported before is reported now. -/
def flush (file : OpenFile) : OpenFile × Option IoError :=
  ({ file with unreported := none }, file.unreported)

end OpenFile

/-- A file open for reading. -/
inductive Source
  /-- A file that has these bytes left. -/
  | content (rest : Bytes)
  /-- A file whose reads fail. -/
  | failing (error : IoError)
  deriving DecidableEq, Repr

namespace Source

/-- Read at most `wanted` bytes; nothing is read at the end of the file. -/
def read (source : Source) (wanted : Nat) : Except IoError (Bytes × Source) :=
  match source with
  | .failing error => .error error
  | .content rest =>
      let count := min wanted transferLimit
      .ok (rest.take count, .content (rest.drop count))

theorem length_read {source later : Source} {wanted : Nat} {chunk : Bytes}
    (given : source.read wanted = .ok (chunk, later)) : chunk.length ≤ wanted := by
  cases source with
  | failing error => simp [read] at given
  | content rest =>
      simp only [read, Except.ok.injEq, Prod.mk.injEq] at given
      rw [← given.1]
      exact Nat.le_trans (List.length_take_le _ _) (Nat.min_le_left _ _)

end Source

end FilePush
