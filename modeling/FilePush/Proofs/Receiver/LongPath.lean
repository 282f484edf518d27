import FilePush.Proofs.Frame.Header
import FilePush.Proofs.Receiver.Course
import FilePush.Server.Service

/-!
# Uploads directories with long paths

A path that is too long cannot be looked up, and slashes at the end of a path make it longer without
leading elsewhere.  Nothing is stored in an uploads directory that is spelled in this way.
-/

namespace FilePush

namespace Receiver

/-- Nothing is stored in a directory below which the unfinished file cannot be looked up. -/
theorem serve_of_unreachable {config : Config} {sequence : Nat} {connection : Connection}
    {header : Header} {headerBytes payload : Bytes} {name : String} (directory : Location)
    (tree : FileTree) (clock : Clock) (encoded : header.encode = .ok headerBytes)
    (arrives : connection.inbound.delivered = headerBytes ++ payload)
    (within : header.filename.length ≤ config.maxFilenameLength)
    (accepted : Name.storage header.filename = .ok name)
    (unreachable : (entryPath config (Name.staging sequence)).problem? ≠ none) :
    let served := serve config directory sequence connection tree clock
    served.outcome = .ioError ∧ served.tree = tree ∧
      served.connection.outbound = connection.outbound := by
  obtain ⟨rest, reads⟩ := Header.readFrom_of_encode encoded within arrives
  obtain ⟨problem, prevents⟩ := Option.ne_none_iff_exists'.mp unreachable
  cases serve_course config directory sequence connection tree clock with
  | headerFailed read => simp [reads] at read
  | nameRefused read refused =>
      simp only [reads, Prod.mk.injEq, Except.ok.injEq] at read
      simp [← read.1, accepted] at refused
  | notCreated _ _ _ outcome unchanged left => exact ⟨outcome, unchanged, by rw [left]⟩
  | received _ _ creates => simp [createStaging, prevents] at creates

/-- A path that is too long cannot be looked up. -/
theorem problem?_join_of_long {directory name : Path} (relative : name.isAbsolute = false)
    (long : Path.lengthLimit ≤ directory.bytes.length + name.bytes.length) :
    (directory.join name).problem? ≠ none := by
  have longer : Path.lengthLimit ≤ (directory.join name).bytes.length := by
    rw [Path.join, relative]
    simp only [Bool.false_eq_true, if_false]
    split
    · rw [List.length_append]
      exact long
    · rw [List.length_append, List.length_cons]
      omega
  rw [Path.problem?]
  split
  · simp
  · split
    · simp
    · simp

/-- The path of the directory `x`, with slashes after it. -/
def slashed (count : Nat) : Path := ⟨0x78 :: List.replicate count Path.separator⟩

theorem length_slashed (count : Nat) : (slashed count).bytes.length = count + 1 := by
  simp [slashed]

theorem split_replicate_separator (count : Nat) :
    Path.split (List.replicate count Path.separator) = List.replicate (count + 1) [] := by
  induction count with
  | zero => rfl
  | succ count induction =>
      rw [List.replicate_succ, Path.split, if_pos rfl, induction, ← List.replicate_succ]

/-- Slashes at the end of a path do not matter to where the uploads directory stands. -/
theorem makeUploadsDirectory_slashed {count : Nat} (short : count + 1 < Path.lengthLimit) :
    makeUploadsDirectory ⟨[([[0x78]], .directory)]⟩ [] (slashed count) =
      (⟨[([[0x78]], .directory)]⟩, .ok [[0x78]]) := by
  have components : (slashed count).components.filter (· ≠ []) = [[0x78]] := by
    have letter : ¬(0x78 : UInt8) = Path.separator := by decide
    rw [Path.components, slashed, Path.split, if_neg letter, split_replicate_separator,
      List.replicate_succ]
    simp
  have reachable : (slashed count).problem? = none := by
    have plain : (slashed count).bytes.contains 0 = false := by
      simp [slashed, Path.separator]
    simp only [Path.problem?, plain, length_slashed, if_neg (Nat.not_le.mpr short)]
    rfl
  rw [makeUploadsDirectory, if_neg (by simp [slashed])]
  simp only [reachable, components]
  rw [FileTree.makeDirectories]
  rfl

end Receiver

end FilePush
