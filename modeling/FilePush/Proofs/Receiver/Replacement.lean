import FilePush.Proofs.Receiver.LongPath
import FilePush.Proofs.Receiver.Staged
import Mathlib

/-!
# Destinations are replaced whole or not at all

Serving a connection has one of three results.  It changes nothing, since there is no payload to
receive.  Or what was received stands under its name, in place of what stood there before, and the
unfinished file is gone.  Or the name keeps what it had, and what was received stays in the unfinished
file.
-/

namespace FilePush

namespace Receiver

variable {config : Config} {directory : Location} {sequence : Nat} {connection : Connection}
  {tree : FileTree}

/--
An unfinished file cannot be created exactly if its path cannot be looked up, if there is no directory
to create it in, or if a directory stands in its place.
-/
theorem createStaging_eq_error_iff (word : sequence < UInt64.size) :
    (∃ error, createStaging config directory (Name.staging sequence) tree = .error error) ↔
      (entryPath config (Name.staging sequence)).problem? ≠ none ∨
        tree.get? directory ≠ some .directory ∨
        tree.get? (directory ++ [Utf8.encode (Name.staging sequence)]) = some .directory := by
  rw [createStaging]
  split
  · next problem prevents => simp [prevents]
  · next reachable =>
      simp only [reachable, ne_eq, not_true_eq_false, false_or]
      constructor
      · rintro ⟨error, fails⟩
        by_contra possible
        simp only [not_or, not_not] at possible
        obtain ⟨created, creates⟩ := FileTree.exists_create possible.1
          (Name.length_encode_staging_le word) possible.2
        simp [creates] at fails
      · intro prevented
        cases creates : tree.create directory (Utf8.encode (Name.staging sequence)) with
        | error error => exact ⟨error, rfl⟩
        | ok created =>
            obtain ⟨inside, -, free⟩ := FileTree.create_eq_ok creates
            exact (prevented.elim (absurd inside) free).elim

namespace Staged

/-- What was received stands under its name, and the unfinished file is gone. -/
structure Replaced (staged : Staged config directory sequence connection tree) (clock : Clock) :
    Prop where
  /-- Waiting for the file reports no failure. -/
  flushed : (staged.after clock).file.flush.2 = none
  /-- The name is short enough for a directory. -/
  short : (Utf8.encode staged.name).length ≤ Path.componentLimit
  /-- The name is not that of a directory. -/
  free : tree.get? staged.destination ≠ some .directory
  /-- What was received stands under the name. -/
  stands : (serve config directory sequence connection tree clock).tree.get? staged.destination =
    some staged.stored
  /-- There is no unfinished file. -/
  gone : (serve config directory sequence connection tree clock).tree.get? staged.unfinished = none

/-- What was received stays in the unfinished file, and the name keeps what it had. -/
structure Kept (staged : Staged config directory sequence connection tree) (clock : Clock) :
    Prop where
  /-- Waiting for the file reports a failure, or it cannot be given its name. -/
  failed : (staged.after clock).file.flush.2 ≠ none ∨
    ∃ error, staged.published clock = .error error
  /-- What stood under the name still stands there. -/
  unchanged : (serve config directory sequence connection tree clock).tree.get? staged.destination =
    tree.get? staged.destination
  /-- What was received stands in the unfinished file. -/
  stays : (serve config directory sequence connection tree clock).tree.get? staged.unfinished =
    some staged.stored
  /-- The transfer does not end by the number of bytes. -/
  outcome : (serve config directory sequence connection tree clock).outcome = .ioError ∨
    (serve config directory sequence connection tree clock).outcome = .connectionError

variable (staged : Staged config directory sequence connection tree) (clock : Clock)

theorem replaced_or_kept : staged.Replaced clock ∨ staged.Kept clock := by
  rcases staged.persisted_cases clock with ⟨flushed, left, publishes, moved⟩ | ⟨failed, error, kept⟩
  · obtain ⟨short, free⟩ := staged.free_of_published clock publishes
    refine .inl ⟨flushed, short, free, ?_, ?_⟩
    · rw [staged.tree_serve, moved, staged.get?_published clock publishes, if_pos rfl]
    · rw [staged.tree_serve, moved, staged.get?_published clock publishes,
        if_neg staged.destination_ne_unfinished.symm, if_pos rfl]
  · refine .inr ⟨failed, ?_, ?_, ?_⟩
    · rw [staged.tree_serve, kept, staged.get?_after, if_neg staged.destination_ne_unfinished]
    · rw [staged.tree_serve, kept, staged.get?_after, if_pos rfl]
    · have unnamed := mt (staged.named_of_counted clock) (by simp [kept])
      rcases staged.outcome_serve_cases clock with success | mismatch | failed | lost
      · exact absurd (.inl success) unnamed
      · exact absurd (.inr mismatch) unnamed
      · exact .inl failed
      · exact .inr lost

end Staged

/--
Serving a connection has exactly one of three results: it changes nothing, since there is no payload
to receive; what was received replaces what stood under its name; or it stays in the unfinished file,
and the transfer ends by a failure.
-/
theorem serve_replaces_or_keeps (config : Config) (directory : Location) (sequence : Nat)
    (connection : Connection) (tree : FileTree) (clock : Clock) :
    let served := serve config directory sequence connection tree clock
    let untouched := Unstaged config directory sequence connection tree ∧ served.tree = tree
    let replaced := ∃ staged : Staged config directory sequence connection tree,
      staged.Replaced clock
    let kept := ∃ staged : Staged config directory sequence connection tree, staged.Kept clock
    (untouched ∨ replaced ∨ kept) ∧ ¬(untouched ∧ replaced) ∧ ¬(untouched ∧ kept) ∧
      ¬(replaced ∧ kept) ∧
      (sequence < UInt64.size →
        ((∃ error, createStaging config directory (Name.staging sequence) tree = .error error) ↔
          (entryPath config (Name.staging sequence)).problem? ≠ none ∨
            tree.get? directory ≠ some .directory ∨
            tree.get? (directory ++ [Utf8.encode (Name.staging sequence)]) =
              some .directory)) := by
  intro served untouched replaced kept
  refine ⟨?_, ?_, ?_, ?_, createStaging_eq_error_iff⟩
  · rcases staged_or_unstaged config directory sequence connection tree with
      ⟨⟨staged⟩⟩ | unstaged
    · rcases staged.replaced_or_kept clock with replaced | kept
      · exact .inr (.inl ⟨staged, replaced⟩)
      · exact .inr (.inr ⟨staged, kept⟩)
    · exact .inl ⟨unstaged, (unstaged.serve clock).1⟩
  · rintro ⟨⟨unstaged, -⟩, staged, -⟩
    exact unstaged.not_staged staged
  · rintro ⟨⟨unstaged, -⟩, staged, -⟩
    exact unstaged.not_staged staged
  · rintro ⟨⟨left, replaced⟩, right, kept⟩
    have stays : served.tree.get? left.unfinished = some right.stored := kept.stays
    exact absurd (stays.symm.trans replaced.gone) (by simp)

/-- With so many slashes nothing is created, though nothing stands in the way of the files. -/
theorem createStaging_below_long_path :
    let config : Config := .withUploadsDirectory .standard (slashed 4090)
    let tree : FileTree := ⟨[([[0x78]], .directory)]⟩
    let connection : Connection :=
      ⟨⟨[.bytes [0, 1, 97, 0, 0, 0, 0, 0, 0, 0, 1, 120]]⟩, .reliable⟩
    let served := serve config [[0x78]] 0 connection tree (.ofReadings fun _ => 0)
    makeUploadsDirectory tree [] config.uploadsDirectory = (tree, .ok [[0x78]]) ∧
      (∃ rest, Header.readFrom connection.inbound config.maxFilenameLength =
        (.ok ⟨[97], 1⟩, rest)) ∧
      Name.storage [97] = .ok "a" ∧
      tree.get? [[0x78]] = some .directory ∧
      tree.get? [[0x78], Utf8.encode (Name.staging 0)] = none ∧
      (∃ error, createStaging config [[0x78]] (Name.staging 0) tree = .error error) ∧
      served.tree = tree := by
  intro config tree connection served
  have encoded : (⟨[97], 1⟩ : Header).encode = .ok [0, 1, 97, 0, 0, 0, 0, 0, 0, 0, 1] := rfl
  have arrives : connection.inbound.delivered = [0, 1, 97, 0, 0, 0, 0, 0, 0, 0, 1] ++ [120] := by
    decide
  have accepted : Name.storage [97] = .ok "a" := by cbv
  have unreachable : (entryPath config (Name.staging 0)).problem? ≠ none := by
    refine problem?_join_of_long (by decide) ?_
    rw [show config.uploadsDirectory = slashed 4090 from rfl, length_slashed]
    decide
  refine ⟨makeUploadsDirectory_slashed (by decide), ?_, accepted, by decide, by decide, ?_, ?_⟩
  · exact Header.readFrom_of_encode encoded (by decide) arrives
  · exact (createStaging_eq_error_iff (by decide)).mpr (.inl unreachable)
  · exact (serve_of_unreachable [[0x78]] tree (.ofReadings fun _ => 0) encoded arrives (by decide)
      accepted unreachable).2.1

end Receiver

end FilePush
