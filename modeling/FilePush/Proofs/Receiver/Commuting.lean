import FilePush.Proofs.Receiver.Dependence
import Mathlib

/-!
# Connections that have nothing in common

Serving a connection depends on its own entries alone and changes no others.  Two connections that
store their files under different names can therefore be served in either order.  Of two that store
under the same name the later one wins: what is left is what it would have left by itself.
-/

namespace FilePush

namespace Receiver

open FileTree (ChangesOnly SameFolders)
open Worker (stagingAt)

variable {config : Config} {directory : Location} {sequence first second : Nat}
  {connection one two : Connection} {tree before after : FileTree}

/-- Changes elsewhere leave all that counts for a connection as it was. -/
theorem Matching.of_changesOnly {touched : List Location} (changes : ChangesOnly touched before after)
    (foreign : stagingAt directory sequence ∉ touched) :
    Matching directory sequence config config connection connection before after where
  bufferSize := rfl
  uploadsDirectory := rfl
  maxFilenameLength := rfl
  inbound := rfl
  folders := changes.folders
  own := (changes.elsewhere _ foreign).symm

/-- The unfinished file of a connection is no entry of another. -/
theorem stagingAt_not_mem_footprint (unlike : first ≠ second) :
    stagingAt directory first ∉ footprint config directory second two := by
  intro touched
  rcases mem_footprint_iff.mp touched with own | ⟨name, named, here⟩
  · exact unlike (stagingAt_injective own)
  · obtain ⟨received, accepted⟩ := exists_storage_of_destination? named
    exact entry_ne_staging directory accepted first here

/-- Connections that store under different names have no entry in common. -/
theorem footprint_disjoint (unlike : first ≠ second)
    (apart : ∀ name, destination? config one = some name → destination? config two ≠ some name) :
    (footprint config directory first one).Disjoint (footprint config directory second two) := by
  intro place touched_first touched_second
  rcases mem_footprint_iff.mp touched_first with rfl | ⟨name, named, rfl⟩
  · exact stagingAt_not_mem_footprint unlike touched_second
  · rcases mem_footprint_iff.mp touched_second with own | ⟨other, also_named, here⟩
    · exact stagingAt_not_mem_footprint unlike.symm (own ▸ touched_first)
    · exact apart name named (entry_injective here ▸ also_named)

/-- What the same effect leaves of a connection does not depend on the files. -/
theorem Effect.Left.connection_eq {effect : Effect} {left right : Served}
    (one_left : effect.Left connection before left)
    (other_left : effect.Left connection after right) : left.connection = right.connection := by
  calc
    left.connection = ⟨left.connection.inbound, left.connection.outbound⟩ := rfl
    _ = ⟨right.connection.inbound, right.connection.outbound⟩ := by
      rw [one_left.inbound, one_left.outbound, other_left.inbound, other_left.outbound]
    _ = right.connection := rfl

/-- Effects without a place in common can be had in either order. -/
theorem Effect.Left.get?_comm {effect other : Effect} {front back left right : Served}
    (apart : ∀ place, effect.change place = none ∨ other.change place = none)
    (one_front : effect.Left one tree front) (two_back : other.Left two front.tree back)
    (two_left : other.Left two tree left) (one_right : effect.Left one left.tree right)
    (place : Location) : back.tree.get? place = right.tree.get? place := by
  rw [two_back.tree, one_front.tree, one_right.tree, two_left.tree]
  rcases apart place with unchanged | unchanged
  · rw [unchanged]
    rfl
  · rw [unchanged]
    rfl

/-- The connection comes to its payload, and its file is given its name. -/
def Named (config : Config) (directory : Location) (sequence : Nat) (connection : Connection)
    (tree : FileTree) (clock : Clock) : Prop :=
  ∃ staged : Staged config directory sequence connection tree, (staged.persisted clock).2 = .ok ()

/-- What a connection leaves whose file is given its name. -/
theorem Staged.get?_serve_of_named {clock : Clock}
    (staged : Staged config directory sequence connection tree)
    (named : (staged.persisted clock).2 = .ok ()) (place : Location) :
    (serve config directory sequence connection tree clock).tree.get? place =
      if place = staged.destination then some staged.stored
      else if place = staged.unfinished then none
      else tree.get? place := by
  rw [staged.get?_serve, named]

theorem named_of_success {clock : Clock}
    (success : (serve config directory sequence connection tree clock).outcome = .success) :
    Named config directory sequence connection tree clock := by
  rcases staged_or_unstaged config directory sequence connection tree with ⟨⟨staged⟩⟩ | unstaged
  · exact ⟨staged, staged.named_of_counted clock (.inl success)⟩
  · obtain ⟨-, -, failed⟩ := unstaged.serve clock
    simp [success] at failed

/-- A file under the same name replaces what an earlier connection left, all but its unfinished file. -/
theorem get?_serve_of_same_name (unlike : first ≠ second) {clock later late : Clock}
    (same : destination? config one = destination? config two)
    (one_named : Named config directory first one tree clock)
    (two_named : Named config directory second two
      (serve config directory first one tree clock).tree later) (place : Location) :
    (serve config directory second two (serve config directory first one tree clock).tree
        later).tree.get? place =
      (serve config directory second two (tree.erase (stagingAt directory first))
        late).tree.get? place := by
  obtain ⟨front, named⟩ := one_named
  obtain ⟨back, also_named⟩ := two_named
  have found := front.get?_serve_of_named named
  have changes := serve_changesOnly config directory first one tree clock
  have erased : ∀ place, (tree.erase (stagingAt directory first)).get? place =
      if place = stagingAt directory first then none else tree.get? place := by
    intro place
    rw [FileTree.get?_erase]
    by_cases root : place = []
    · simp [root, stagingAt]
    · rw [if_neg root]
  have matching : Matching directory second config config two two
      (serve config directory first one tree clock).tree
      (tree.erase (stagingAt directory first)) := by
    refine ⟨rfl, rfl, rfl, rfl, changes.folders.symm.trans fun place => ?_, ?_⟩
    · rw [erased]
      by_cases here : place = stagingAt directory first
      · rw [here, if_pos rfl]
        exact iff_of_false front.unfinished_free (by simp)
      · rw [if_neg here]
    · rw [changes.elsewhere _ (stagingAt_not_mem_footprint unlike.symm), erased,
        if_neg fun here => unlike (stagingAt_injective here).symm]
  obtain ⟨alone⟩ := matching.staged back
  have destination : front.destination = alone.destination := by
    rw [front.destination?_eq, alone.destination?_eq] at same
    rw [Staged.destination, Staged.destination, Option.some.inj same]
  rw [back.get?_serve_of_named also_named, alone.get?_serve_of_named
    (matching.named back alone later late also_named), found, erased,
    matching.stored_eq back alone, matching.destination_eq back alone, destination]
  -- The earlier file stood under the same name, so all that is left of it is replaced.
  by_cases there : place = alone.destination
  · rw [if_pos there, if_pos there]
  · simp only [if_neg there]
    rfl

/--
Connections with different numbers that store under different names, or of which one comes to no name,
leave the same files in either order, and each ends, answers and reads the same.  Of two that store
under the same name and are both given it, the later one leaves what it leaves alone, where the earlier
one has no unfinished file.
-/
theorem serve_commutes (config : Config) (directory : Location) {first second : Nat}
    (unlike : first ≠ second) (one two : Connection) (tree : FileTree)
    (clock later other last : Clock) :
    let one_front := serve config directory first one tree clock
    let two_back := serve config directory second two one_front.tree later
    let two_front := serve config directory second two tree other
    let one_back := serve config directory first one two_front.tree last
    ((∀ name, destination? config one = some name → destination? config two ≠ some name) →
      (∀ place, two_back.tree.get? place = one_back.tree.get? place) ∧
        one_front.outcome = one_back.outcome ∧ one_front.connection = one_back.connection ∧
        two_front.outcome = two_back.outcome ∧ two_front.connection = two_back.connection) ∧
    (destination? config one = destination? config two →
      Named config directory first one tree clock →
      Named config directory second two one_front.tree later →
        ∀ late place, two_back.tree.get? place =
          (serve config directory second two (tree.erase (stagingAt directory first))
            late).tree.get? place) := by
  intro one_front two_back two_front one_back
  refine ⟨fun apart => ?_, fun same one_named two_named late =>
    get?_serve_of_same_name unlike same one_named two_named⟩
  have one_matching : Matching directory first config config one one tree two_front.tree :=
    .of_changesOnly (serve_changesOnly config directory second two tree other)
      (stagingAt_not_mem_footprint unlike)
  have two_matching : Matching directory second config config two two tree one_front.tree :=
    .of_changesOnly (serve_changesOnly config directory first one tree clock)
      (stagingAt_not_mem_footprint unlike.symm)
  obtain ⟨one_effect, one_left, one_again, one_within⟩ := one_matching.exists_effect clock last
  obtain ⟨two_effect, two_left, two_again, two_within⟩ := two_matching.exists_effect other later
  have disjoint : (footprint config directory first one).Disjoint
      (footprint config directory second two) := footprint_disjoint unlike apart
  refine ⟨?_, one_left.outcome.trans one_again.outcome.symm, one_left.connection_eq one_again,
    two_left.outcome.trans two_again.outcome.symm, two_left.connection_eq two_again⟩
  apply Effect.Left.get?_comm (fun place => ?_) one_left two_again two_left one_again
  by_cases touched : place ∈ footprint config directory first one
  · exact .inr (two_within place (disjoint touched))
  · exact .inl (one_within place touched)

/-- A client that brings one byte under a name of one character. -/
def letter (name content : UInt8) : Connection :=
  ⟨⟨[.bytes [0, 1, name, 0, 0, 0, 0, 0, 0, 0, 1, content]]⟩, .reliable⟩

/-- Under different names the order does not matter; under the same name the later byte stays. -/
theorem serve_commutes_letters :
    let clock : Clock := .ofReadings fun _ => 0
    let tree : FileTree := ⟨[([[0x75]], .directory)]⟩
    let front := serve .standard [[0x75]] 0 (letter 97 120) tree clock
    let other := serve .standard [[0x75]] 1 (letter 98 121) tree clock
    let back := serve .standard [[0x75]] 1 (letter 97 122) front.tree clock
    0 ≠ 1 ∧
    ((∀ name, destination? .standard (letter 97 120) = some name →
        destination? .standard (letter 98 121) ≠ some name) ∧
      ∀ place, (serve .standard [[0x75]] 1 (letter 98 121) front.tree clock).tree.get? place =
        (serve .standard [[0x75]] 0 (letter 97 120) other.tree clock).tree.get? place) ∧
    destination? .standard (letter 97 120) = destination? .standard (letter 97 122) ∧
    Named .standard [[0x75]] 0 (letter 97 120) tree clock ∧
    Named .standard [[0x75]] 1 (letter 97 122) front.tree clock ∧
    ∀ place, back.tree.get? place =
      (serve .standard [[0x75]] 1 (letter 97 122) (tree.erase (stagingAt [[0x75]] 0))
        clock).tree.get? place := by
  intro clock tree front other back
  have named : destination? .standard (letter 97 120) = some "a" := by cbv
  have named_other : destination? .standard (letter 98 121) = some "b" := by cbv
  have named_again : destination? .standard (letter 97 122) = some "a" := by cbv
  have apart : ∀ name, destination? .standard (letter 97 120) = some name →
      destination? .standard (letter 98 121) ≠ some name := by
    rw [named, named_other]
    rintro name ⟨⟩
    decide
  have front_named : Named .standard [[0x75]] 0 (letter 97 120) tree clock :=
    named_of_success (by cbv)
  have back_named : Named .standard [[0x75]] 1 (letter 97 122) front.tree clock := by
    apply named_of_success
    simp only [front]
    cbv
  have both := serve_commutes .standard [[0x75]] Nat.zero_ne_one (letter 97 120) (letter 98 121) tree
    clock clock clock clock
  have again := serve_commutes .standard [[0x75]] Nat.zero_ne_one (letter 97 120) (letter 97 122) tree
    clock clock clock clock
  refine ⟨Nat.zero_ne_one, ⟨apart, (both.1 apart).1⟩, named.trans named_again.symm, front_named,
    back_named, again.2 (named.trans named_again.symm) front_named back_named clock⟩

end Receiver

end FilePush
