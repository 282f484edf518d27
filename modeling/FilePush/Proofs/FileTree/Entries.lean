import FilePush.FileTree.OpenFile

/-!
# Entries of a directory

When creating and renaming succeed, and how bytes that are added in turn add up.  All of it is said
of `get?`, the one view of a tree.
-/

namespace FilePush

namespace FileTree

theorem exists_create {tree : FileTree} {directory : Location} {name : Bytes}
    (inside : tree.get? directory = some .directory)
    (short : name.length ≤ Path.componentLimit)
    (free : tree.get? (directory ++ [name]) ≠ some .directory) :
    ∃ created, tree.create directory name = .ok created := by
  rw [create, inside]
  simp only [if_neg (Nat.not_lt.mpr short)]
  split
  · next taken => exact absurd taken free
  · exact ⟨_, rfl⟩
  · exact ⟨_, rfl⟩
  · exact ⟨_, rfl⟩

theorem exists_rename {tree : FileTree} {directory : Location} {source target : Bytes}
    {node : Node} (stands : tree.get? (directory ++ [source]) = some node)
    (short : target.length ≤ Path.componentLimit)
    (free : tree.get? (directory ++ [target]) ≠ some .directory) :
    ∃ renamed, tree.rename directory source target = .ok renamed := by
  rw [rename, stands]
  simp only [if_neg (Nat.not_lt.mpr short)]
  exact ⟨_, rfl⟩

theorem get?_append_nil (tree : FileTree) (location place : Location) :
    (tree.append location []).get? place = tree.get? place := by
  rw [get?_append]
  cases tree.get? place with
  | none => rfl
  | some node => cases node <;> simp

theorem get?_append_append (tree : FileTree) (location place : Location) (front back : Bytes) :
    ((tree.append location front).append location back).get? place =
      (tree.append location (front ++ back)).get? place := by
  simp only [get?_append]
  cases tree.get? place with
  | none => rfl
  | some node =>
      cases node with
      | directory => rfl
      | full => rfl
      | file content =>
          by_cases here : place = location
          · simp [here]
          · simp [here]

theorem get?_append_congr {left right : FileTree} {location place : Location} {bytes : Bytes}
    (same : left.get? place = right.get? place) :
    (left.append location bytes).get? place = (right.append location bytes).get? place := by
  rw [get?_append, get?_append, same]

theorem get?_append_of_ne {tree : FileTree} {location place : Location} {bytes : Bytes}
    (elsewhere : place ≠ location) : (tree.append location bytes).get? place = tree.get? place := by
  rw [get?_append]
  cases tree.get? place with
  | none => rfl
  | some node => cases node <;> simp [elsewhere]

theorem get?_append_self {tree : FileTree} {location : Location} {content bytes : Bytes}
    (stands : tree.get? location = some (.file content)) :
    (tree.append location bytes).get? location = some (.file (content ++ bytes)) := by
  simp [get?_append, stands]

/-- Adding bytes changes nothing but the content of files. -/
theorem get?_append_eq_iff {tree : FileTree} {location place : Location} {bytes : Bytes}
    {found : Option Node} (plain : ∀ content, found ≠ some (.file content)) :
    (tree.append location bytes).get? place = found ↔ tree.get? place = found := by
  rw [get?_append]
  cases stands : tree.get? place with
  | none => simp
  | some node =>
      cases node with
      | directory => simp
      | full => simp
      | file content =>
          constructor
          · intro same
            exact absurd same.symm (plain _)
          · intro same
            exact absurd same.symm (plain _)

end FileTree

namespace OpenFile

/-- A full device stores nothing. -/
theorem tree_write_of_full {file : OpenFile} {tree : FileTree} {chunk : Bytes}
    (full : tree.get? file.location = some .full) : (file.write tree chunk).2.1 = tree := by
  rw [write]
  split
  · rfl
  · rw [if_pos full]
    split <;> rfl

theorem location_write (file : OpenFile) (tree : FileTree) (chunk : Bytes) :
    (file.write tree chunk).1.location = file.location := by
  rw [write]
  split
  · rfl
  · split
    · split <;> rfl
    · rfl

end OpenFile

end FilePush
