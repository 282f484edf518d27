import FilePush.Proofs.FileTree.Entries

/-!
# Directories of a tree

Creating, adding to and renaming files needs directories to stand where they are needed and not to
stand where they are not, and leaves the directories as they are.
-/

namespace FilePush

namespace FileTree

/-- Two trees have the same directories. -/
def SameFolders (left right : FileTree) : Prop :=
  ∀ place, left.get? place = some .directory ↔ right.get? place = some .directory

theorem SameFolders.refl (tree : FileTree) : SameFolders tree tree := fun _ => Iff.rfl

theorem SameFolders.symm {left right : FileTree} (same : SameFolders left right) :
    SameFolders right left :=
  fun place => (same place).symm

theorem SameFolders.trans {first second third : FileTree} (front : SameFolders first second)
    (back : SameFolders second third) : SameFolders first third :=
  fun place => (front place).trans (back place)

theorem create_eq_ok {tree created : FileTree} {directory : Location} {name : Bytes}
    (given : tree.create directory name = .ok created) :
    tree.get? directory = some .directory ∧ name.length ≤ Path.componentLimit ∧
      tree.get? (directory ++ [name]) ≠ some .directory := by
  rw [create] at given
  split at given
  · simp at given
  · simp at given
  · simp at given
  · next inside =>
      split at given
      · simp at given
      · next short =>
          refine ⟨inside, Nat.le_of_not_lt short, ?_⟩
          split at given
          · simp at given
          · next full => simp [full]
          · next plain => simp [plain]
          · next absent => simp [absent]

theorem rename_eq_ok {tree renamed : FileTree} {directory : Location} {source target : Bytes}
    (given : tree.rename directory source target = .ok renamed) :
    ∃ node, tree.get? (directory ++ [source]) = some node ∧
      target.length ≤ Path.componentLimit ∧
      tree.get? (directory ++ [target]) ≠ some .directory := by
  rw [rename] at given
  split at given
  · simp at given
  · next node stands =>
      split at given
      · simp at given
      · next short =>
          split at given
          · simp at given
          · next free => exact ⟨node, stands, Nat.le_of_not_lt short, free⟩

end FileTree

open FileTree (SameFolders)

namespace OpenFile

variable {file : OpenFile} {tree left right : FileTree} {chunk : Bytes}

theorem get?_write_of_ne {place : Location} (elsewhere : place ≠ file.location) :
    (file.write tree chunk).2.1.get? place = tree.get? place := by
  rw [write]
  split
  · rfl
  · split
    · split <;> rfl
    · exact FileTree.get?_append_of_ne elsewhere

theorem sameFolders_write (file : OpenFile) (tree : FileTree) (chunk : Bytes) :
    SameFolders tree (file.write tree chunk).2.1 := by
  intro place
  rw [write]
  split
  · rfl
  · split
    · split <;> rfl
    · exact (FileTree.get?_append_eq_iff (by simp)).symm

/-- A write depends on the files only by what stands where it writes. -/
theorem write_congr (own : left.get? file.location = right.get? file.location) :
    (file.write left chunk).1 = (file.write right chunk).1 ∧
      (file.write left chunk).2.2 = (file.write right chunk).2.2 ∧
      (file.write left chunk).2.1.get? file.location =
        (file.write right chunk).2.1.get? file.location := by
  cases failed : file.unreported with
  | some failure =>
      simp only [write, failed, true_and]
      exact own
  | none =>
      by_cases full : right.get? file.location = some .full
      · simp only [write, failed, own, full, if_true]
        split
        · exact ⟨rfl, rfl, own⟩
        · exact ⟨rfl, rfl, own⟩
      · simp only [write, failed, own, full, if_false, true_and]
        exact FileTree.get?_append_congr own

end OpenFile

end FilePush
