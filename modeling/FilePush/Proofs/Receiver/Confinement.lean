import FilePush.Proofs.FileTree.Walking
import FilePush.Proofs.Receiver.Staged

/-!
# Connections change nothing but their own entries

Whatever a client sends, serving it changes at most two entries of the uploads directory: the
unfinished file of the connection, and the entry that the received name stands for.  That name is the
name of an entry and never has the form of the name of an unfinished file, so a connection never
reaches the unfinished file of another, a deeper directory or anything outside the uploads directory.
Directories are neither made nor taken away.  Hence connections that are served one after another
change nothing but the entries of each of them.
-/

namespace FilePush

namespace FileTree

/-- Nothing changes but what stands at some places, and the directories stay as they are. -/
structure ChangesOnly (touched : List Location) (before after : FileTree) : Prop where
  /-- What stands elsewhere is as it was. -/
  elsewhere : ∀ place ∉ touched, after.get? place = before.get? place
  /-- The directories are as they were. -/
  folders : SameFolders before after

namespace ChangesOnly

variable {touched front back : List Location} {before middle after : FileTree}

theorem refl (touched : List Location) (tree : FileTree) : ChangesOnly touched tree tree :=
  ⟨fun _ _ => rfl, .refl tree⟩

/-- A file that is put where no directory was leaves the directories as they are. -/
theorem of_files (elsewhere : ∀ place ∉ touched, after.get? place = before.get? place)
    (files : ∀ place ∈ touched,
      before.get? place ≠ some .directory ∧ after.get? place ≠ some .directory) :
    ChangesOnly touched before after := by
  refine ⟨elsewhere, fun place => ?_⟩
  by_cases changed : place ∈ touched
  · exact iff_of_false (files place changed).1 (files place changed).2
  · rw [elsewhere place changed]

theorem mono (within : front ⊆ back) (changes : ChangesOnly front before after) :
    ChangesOnly back before after :=
  ⟨fun place untouched => changes.elsewhere place (mt (@within place) untouched), changes.folders⟩

theorem append (first : ChangesOnly front before middle) (second : ChangesOnly back middle after) :
    ChangesOnly (front ++ back) before after := by
  refine ⟨fun place untouched => ?_, first.folders.trans second.folders⟩
  rw [List.mem_append, not_or] at untouched
  rw [second.elsewhere place untouched.2, first.elsewhere place untouched.1]

end ChangesOnly

end FileTree

open FileTree (ChangesOnly SameFolders)

namespace Receiver

/-- The name that the file of a connection is to be stored under, if its header arrives. -/
def destination? (config : Config) (connection : Connection) : Option String :=
  match Header.readFrom connection.inbound config.maxFilenameLength with
  | (.error _, _) => none
  | (.ok header, _) =>
      match Name.storage header.filename with
      | .error _ => none
      | .ok name => some name

/-- The entries that serving a connection may change. -/
def footprint (config : Config) (directory : Location) (sequence : Nat) (connection : Connection) :
    List Location :=
  (directory ++ [Utf8.encode (Name.staging sequence)]) ::
    ((destination? config connection).map fun name => directory ++ [Utf8.encode name]).toList

variable {config : Config} {directory : Location} {sequence : Nat} {connection : Connection}
  {tree : FileTree} {name : String}

/-- The name is that of the file which the connection brings. -/
theorem destination?_eq_some_iff :
    destination? config connection = some name ↔
      ∃ content, Brings config connection name content := by
  rw [destination?]
  constructor
  · intro given
    split at given
    · simp at given
    · next read =>
        split at given
        · simp at given
        · next accepted =>
            cases given
            exact ⟨_, brings_of_read read accepted⟩
  · rintro ⟨content, header, headerBytes, payload, encoded, within, arrives, accepted, -⟩
    obtain ⟨rest, read⟩ := Header.readFrom_of_encode encoded within arrives
    simp only [read, accepted]

/-- The name was received and accepted. -/
theorem exists_storage_of_destination? (named : destination? config connection = some name) :
    ∃ received, Name.storage received = .ok name := by
  obtain ⟨content, header, headerBytes, payload, -, -, -, accepted, -⟩ :=
    destination?_eq_some_iff.mp named
  exact ⟨header.filename, accepted⟩

theorem length_footprint_le (config : Config) (directory : Location) (sequence : Nat)
    (connection : Connection) : (footprint config directory sequence connection).length ≤ 2 := by
  cases named : destination? config connection with
  | none => simp [footprint, named]
  | some name => simp [footprint, named]

theorem mem_footprint_iff {place : Location} :
    place ∈ footprint config directory sequence connection ↔
      place = directory ++ [Utf8.encode (Name.staging sequence)] ∨
        ∃ name, destination? config connection = some name ∧
          directory ++ [Utf8.encode name] = place := by
  rw [footprint, List.mem_cons, Option.mem_toList, Option.map_eq_some_iff]

namespace Staged

variable (staged : Staged config directory sequence connection tree) (clock : Clock)

theorem unfinished_mem_footprint :
    staged.unfinished ∈ footprint config directory sequence connection :=
  mem_footprint_iff.mpr (.inl rfl)

theorem destination?_eq : destination? config connection = some staged.name := by
  simp only [destination?, staged.read, staged.accepted]

theorem destination_mem_footprint :
    staged.destination ∈ footprint config directory sequence connection :=
  mem_footprint_iff.mpr (.inr ⟨staged.name, staged.destination?_eq, rfl⟩)

theorem stored_ne_directory : staged.stored ≠ .directory := by
  rw [stored]
  split <;> simp

/-- Receiving the payload changes nothing but the unfinished file. -/
theorem changesOnly_after : ChangesOnly [staged.unfinished] tree (staged.after clock).tree := by
  apply ChangesOnly.of_files
  · intro place elsewhere
    rw [staged.get?_after, if_neg (List.mem_singleton.not.mp elsewhere)]
  · intro place here
    rw [List.mem_singleton.mp here]
    refine ⟨staged.unfinished_free, ?_⟩
    simpa [staged.get?_after] using staged.stored_ne_directory

/-- Giving the unfinished file its name changes nothing but the two entries. -/
theorem changesOnly_published {left : FileTree} (publishes : staged.published clock = .ok left) :
    ChangesOnly [staged.unfinished, staged.destination] tree left := by
  have get? := staged.get?_published clock publishes
  apply ChangesOnly.of_files
  · intro place elsewhere
    simp only [List.mem_cons, List.not_mem_nil, or_false, not_or] at elsewhere
    rw [get?, if_neg elsewhere.2, if_neg elsewhere.1]
  · intro place here
    simp only [List.mem_cons, List.not_mem_nil, or_false] at here
    rcases here with rfl | rfl
    · refine ⟨staged.unfinished_free, ?_⟩
      simp [get?, staged.destination_ne_unfinished.symm]
    · refine ⟨(staged.free_of_published clock publishes).2, ?_⟩
      simpa [get?] using staged.stored_ne_directory

end Staged

/-- Serving a connection changes nothing but its own entries. -/
theorem serve_changesOnly (config : Config) (directory : Location) (sequence : Nat)
    (connection : Connection) (tree : FileTree) (clock : Clock) :
    ChangesOnly (footprint config directory sequence connection) tree
      (serve config directory sequence connection tree clock).tree := by
  rcases staged_or_unstaged config directory sequence connection tree with ⟨⟨staged⟩⟩ | unstaged
  · rw [staged.tree_serve clock]
    -- The entry of the name changes only if the unfinished file is given the name.
    rcases staged.persisted_cases clock with ⟨-, left, publishes, named⟩ | ⟨-, error, kept⟩
    · rw [named]
      refine (staged.changesOnly_published clock publishes).mono ?_
      simp [staged.unfinished_mem_footprint, staged.destination_mem_footprint]
    · rw [kept]
      refine (staged.changesOnly_after clock).mono ?_
      simp [staged.unfinished_mem_footprint]
  · rw [(unstaged.serve clock).1]
    exact .refl _ tree

/-- Serve connections one after another, each with the number that it was given. -/
def serveInTurn (config : Config) (directory : Location) :
    List (Nat × Connection) → FileTree → Clock → FileTree × Clock
  | [], tree, clock => (tree, clock)
  | (sequence, connection) :: later, tree, clock =>
      let served := serve config directory sequence connection tree clock
      serveInTurn config directory later served.tree served.clock

/-- The entries that serving a number of connections may change. -/
def footprints (config : Config) (directory : Location) (requests : List (Nat × Connection)) :
    List Location :=
  requests.flatMap fun request => footprint config directory request.1 request.2

/-- Serving connections one after another changes nothing but the entries of each of them. -/
theorem serveInTurn_changesOnly (config : Config) (directory : Location)
    (requests : List (Nat × Connection)) (tree : FileTree) (clock : Clock) :
    ChangesOnly (footprints config directory requests) tree
      (serveInTurn config directory requests tree clock).1 := by
  -- What a later connection may change does not depend on the files that it finds.
  induction requests generalizing tree clock with
  | nil => exact .refl _ tree
  | cons request later induction =>
      obtain ⟨sequence, connection⟩ := request
      exact (serve_changesOnly config directory sequence connection tree clock).append
        (induction _ _)

/-- Nothing changes but the unfinished files of some connections and what they name. -/
structure Confined (config : Config) (directory : Location) (requests : List (Nat × Connection))
    (before after : FileTree) : Prop where
  /-- Nothing changes but the entries of the connections, and no directory does. -/
  changes : ChangesOnly (footprints config directory requests) before after
  /-- Nothing changes outside the uploads directory, or deeper in it. -/
  inside : ∀ place, (∀ entry, place ≠ directory ++ [entry]) → after.get? place = before.get? place
  /-- The unfinished files of other connections stay as they are. -/
  others : ∀ sequence, (∀ request ∈ requests, request.1 ≠ sequence) →
    after.get? (directory ++ [Utf8.encode (Name.staging sequence)]) =
      before.get? (directory ++ [Utf8.encode (Name.staging sequence)])

theorem confined_of_changesOnly {requests : List (Nat × Connection)} {before after : FileTree}
    (changes : ChangesOnly (footprints config directory requests) before after) :
    Confined config directory requests before after := by
  refine ⟨changes, fun place outside => ?_, fun sequence foreign => ?_⟩
  · apply changes.elsewhere
    rw [footprints, List.mem_flatMap]
    rintro ⟨request, -, touched⟩
    rcases mem_footprint_iff.mp touched with own | ⟨name, -, named⟩
    · exact outside _ own
    · exact outside _ named.symm
  · apply changes.elsewhere
    rw [footprints, List.mem_flatMap]
    rintro ⟨request, member, touched⟩
    rcases mem_footprint_iff.mp touched with own | ⟨name, named, here⟩
    · exact foreign request member (Name.staging_injective (entry_injective own)).symm
    · obtain ⟨received, accepted⟩ := exists_storage_of_destination? named
      exact entry_ne_staging directory accepted sequence here

/--
Serving a connection changes at most two entries of the uploads directory: its unfinished file, and
the entry of the name that its header brought, which is the name of an entry and of no unfinished
file.  Connections served one after another change nothing but the entries of each of them, and the
paths that they use lead to these entries only.
-/
theorem serve_confined (config : Config) (directory : Location) :
    (∀ sequence connection tree clock,
      Confined config directory [(sequence, connection)] tree
          (serve config directory sequence connection tree clock).tree ∧
        (footprint config directory sequence connection).length ≤ 2) ∧
      (∀ requests tree clock,
        Confined config directory requests tree
          (serveInTurn config directory requests tree clock).1) ∧
      (∀ connection name, destination? config connection = some name →
        (∃ content, Brings config connection name content) ∧ Name.Plain name ∧
          ∀ middle, name ≠ Name.stagingStart ++ middle ++ Name.stagingEnd) ∧
      ∀ initial made tree working,
        makeUploadsDirectory initial working config.uploadsDirectory = (made, .ok directory) →
        SameFolders made tree → ∀ name,
          (∃ sequence, name = Name.staging sequence) ∨
            (∃ connection, destination? config connection = some name) →
          ∀ place, tree.locate working (entryPath config name) = .ok place →
            place = directory ++ [Utf8.encode name] := by
  refine ⟨fun sequence connection tree clock => ⟨?_, length_footprint_le _ _ _ _⟩, ?_, ?_, ?_⟩
  · apply confined_of_changesOnly
    simpa [footprints] using serve_changesOnly config directory sequence connection tree clock
  · intro requests tree clock
    exact confined_of_changesOnly (serveInTurn_changesOnly config directory requests tree clock)
  · intro connection name named
    obtain ⟨received, accepted⟩ := exists_storage_of_destination? named
    obtain ⟨-, -, -, storable⟩ := Name.storage_eq_ok_iff.mp accepted
    exact ⟨destination?_eq_some_iff.mp named, Name.plain_of_storage accepted,
      Name.ne_append_of_isStorable storable⟩
  · intro initial made tree working makes same name used place located
    have plain : Name.Plain name := by
      rcases used with ⟨sequence, rfl⟩ | ⟨connection, named⟩
      · exact Name.plain_staging sequence
      · obtain ⟨received, accepted⟩ := exists_storage_of_destination? named
        exact Name.plain_of_storage accepted
    exact ((locate_entryPath_eq_ok_iff makes same plain).mp located).1

end Receiver

end FilePush
