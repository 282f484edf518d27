import FilePush.Proofs.FileTree.Folders
import FilePush.Proofs.Name.Staging
import FilePush.Server.Service

/-!
# Where the path of an entry leads

The path of an entry of the uploads directory is the path of that directory with a name after it.  If
the name is a single component, and not one that stands for a directory, the path leads to that entry
of the directory and nowhere else.  Slashes that follow one another or end the path of the directory
do not matter.
-/

namespace FilePush

namespace Path

theorem split_ne_nil (bytes : Bytes) : split bytes ≠ [] := by
  cases bytes with
  | nil => simp [split]
  | cons byte rest =>
      rw [split]
      split
      · simp
      · split <;> simp

/-- A separator cuts a path in two. -/
theorem split_append_separator (front back : Bytes) :
    split (front ++ separator :: back) = split front ++ split back := by
  induction front with
  | nil => simp [split]
  | cons byte front induction =>
      rw [List.cons_append, split, split, induction]
      by_cases slash : byte = separator
      · rw [if_pos slash, if_pos slash, List.cons_append]
      · rw [if_neg slash, if_neg slash]
        cases first : split front with
        | nil => exact absurd first (split_ne_nil front)
        | cons component components => rfl

theorem isAbsolute_of_not_mem {path : Path} (single : separator ∉ path.bytes) :
    path.isAbsolute = false := by
  rw [isAbsolute, decide_eq_false_iff_not]
  exact fun first => single (List.mem_of_head? first)

/-- A path below a directory has the components of the directory and the name after them. -/
theorem components_join (directory : Path) {name : Path} (single : separator ∉ name.bytes) :
    ∃ front, (directory.join name).components = front ++ [name.bytes] ∧
      front.filter (· ≠ []) = directory.components.filter (· ≠ []) := by
  rw [join, isAbsolute_of_not_mem single]
  simp only [Bool.false_eq_true, if_false, Bool.or_eq_true, decide_eq_true_eq, components]
  split
  · next ends =>
      rcases ends with empty | slash
      · rw [List.isEmpty_iff.mp empty]
        exact ⟨[], split_of_not_mem single, rfl⟩
      · -- A separator at the end makes one empty component more, which the name takes the place of.
        obtain ⟨front, whole⟩ := List.getLast?_eq_some_iff.mp slash
        refine ⟨split front, ?_, ?_⟩
        · rw [whole, List.append_assoc, List.singleton_append, split_append_separator,
            split_of_not_mem single]
        · rw [whole, split_append_separator, List.filter_append]
          simp [split]
  · exact ⟨split directory.bytes, by rw [split_append_separator, split_of_not_mem single], rfl⟩

/-- A path below a directory starts where the directory does. -/
theorem isAbsolute_join {directory name : Path} (relative : name.isAbsolute = false) :
    (directory.join name).isAbsolute = directory.isAbsolute := by
  rw [join, relative]
  cases bytes : directory.bytes with
  | nil => simpa [isAbsolute, bytes] using relative
  | cons byte rest =>
      simp only [Bool.false_eq_true, if_false]
      split <;> simp [isAbsolute, bytes]

end Path

namespace FileTree

variable {tree left right : FileTree} {here place : Location}

/-- Where one component leads from a directory. -/
def onward (here : Location) (component : Bytes) : Location :=
  if component = [] ∨ component = Path.self then here
  else if component = Path.parent then here.dropLast
  else here ++ [component]

theorem onward_of_plain (here : Location) {component : Bytes} (nonempty : component ≠ [])
    (not_self : component ≠ Path.self) (not_parent : component ≠ Path.parent) :
    onward here component = here ++ [component] := by
  simp [onward, nonempty, not_self, not_parent]

/-- A component is looked up in a directory, is short, and leads on from there. -/
theorem walk_cons_eq_ok_iff {component : Bytes} {rest : List Bytes} :
    tree.walk here (component :: rest) = .ok place ↔
      tree.get? here = some .directory ∧ component.length ≤ Path.componentLimit ∧
        tree.walk (onward here component) rest = .ok place := by
  rw [walk, onward]
  split
  · next absent => simp [absent]
  · next file => simp [file]
  · next full => simp [full]
  · next folder =>
      -- The components that stand for a directory are all short.
      split
      · next stay =>
          have short : component.length ≤ Path.componentLimit := by
            rcases stay with rfl | rfl <;> decide
          simp [folder, short]
      · split
        · next above =>
            have short : component.length ≤ Path.componentLimit := by
              rw [above]
              decide
            simp [folder, short]
        · split
          · next long => simp [Nat.not_le.mpr long]
          · next short => simp [folder, Nat.le_of_not_lt short]

/-- Walking along a path is walking along its front and then along the rest. -/
theorem walk_append_eq_ok_iff {front back : List Bytes} :
    tree.walk here (front ++ back) = .ok place ↔
      ∃ middle, tree.walk here front = .ok middle ∧ tree.walk middle back = .ok place := by
  induction front generalizing here with
  | nil => simp [walk]
  | cons component rest induction =>
      simp only [List.cons_append, walk_cons_eq_ok_iff, induction]
      constructor
      · rintro ⟨folder, short, middle, front, back⟩
        exact ⟨middle, ⟨folder, short, front⟩, back⟩
      · rintro ⟨middle, ⟨folder, short, front⟩, back⟩
        exact ⟨folder, short, middle, front, back⟩

/-- Where a path leads depends on the directories only. -/
theorem walk_congr {components : List Bytes} (same : SameFolders left right) :
    left.walk here components = .ok place ↔ right.walk here components = .ok place := by
  induction components generalizing here with
  | nil => rfl
  | cons component rest induction => rw [walk_cons_eq_ok_iff, walk_cons_eq_ok_iff, same, induction]

/-- Empty components do not matter on the way to a directory. -/
theorem walk_filter_iff {components : List Bytes} (folder : tree.get? place = some .directory) :
    tree.walk here (components.filter (· ≠ [])) = .ok place ↔
      tree.walk here components = .ok place := by
  induction components generalizing here with
  | nil => rfl
  | cons component rest induction =>
      by_cases empty : component = []
      · -- An empty component, too, is looked up in a directory.
        rw [List.filter_cons_of_neg (by simpa using empty), induction, walk_cons_eq_ok_iff, empty,
          onward, if_pos (.inl rfl)]
        constructor
        · intro reached
          refine ⟨?_, by decide, reached⟩
          cases rest with
          | nil =>
              cases reached
              exact folder
          | cons next rest => exact (walk_cons_eq_ok_iff.mp reached).1
        · exact fun reached => reached.2.2
      · rw [List.filter_cons_of_pos (by simpa using empty), walk_cons_eq_ok_iff,
          walk_cons_eq_ok_iff, induction]

end FileTree

/-- The uploads directory stands where its path leads. -/
theorem walk_of_makeUploadsDirectory {tree made : FileTree} {working directory : Location}
    {path : Path} (makes : makeUploadsDirectory tree working path = (made, .ok directory)) :
    made.walk (if path.isAbsolute then [] else working) (path.components.filter (· ≠ [])) =
      .ok directory := by
  rw [makeUploadsDirectory] at makes
  split at makes
  · next empty =>
      cases makes
      rw [Path.isAbsolute, Path.components, empty]
      rfl
  · split at makes
    · simp at makes
    · simp only at makes
      split at makes
      · simp at makes
      · obtain ⟨rfl, reached⟩ := Prod.mk.inj makes
        exact reached

namespace Receiver

/--
The path of an entry of the uploads directory leads to that entry, if it leads anywhere, as long as
the directories are those that were there when the uploads directory was made.
-/
theorem locate_entryPath_eq_ok_iff {config : Config} {initial made tree : FileTree}
    {working directory place : Location} {name : String}
    (makes : makeUploadsDirectory initial working config.uploadsDirectory = (made, .ok directory))
    (same : FileTree.SameFolders made tree) (plain : Name.Plain name) :
    tree.locate working (entryPath config name) = .ok place ↔
      place = directory ++ [Utf8.encode name] ∧ (entryPath config name).problem? = none ∧
        tree.get? directory = some .directory ∧
        (Utf8.encode name).length ≤ Path.componentLimit := by
  have single : Path.separator ∉ (Path.ofString name).bytes :=
    Utf8.separator_not_mem_encode plain.slash_not_mem
  have unlike {other : String} (differs : name ≠ other) : Utf8.encode name ≠ Utf8.encode other :=
    fun same => differs (Utf8.encode_injective same)
  have onward : FileTree.onward directory (Utf8.encode name) = directory ++ [Utf8.encode name] :=
    FileTree.onward_of_plain directory (unlike plain.nonempty) (unlike plain.not_self)
      (unlike plain.not_parent)
  obtain ⟨front, components, front_filter⟩ := config.uploadsDirectory.components_join single
  have above := walk_of_makeUploadsDirectory makes
  rw [FileTree.walk_congr same, ← front_filter] at above
  rw [FileTree.locate, entryPath]
  cases (config.uploadsDirectory.join (.ofString name)).problem? with
  | some problem => simp
  | none =>
      simp only [components, Path.isAbsolute_join (Path.isAbsolute_of_not_mem single),
        FileTree.walk_append_eq_ok_iff, FileTree.walk_cons_eq_ok_iff]
      constructor
      · rintro ⟨middle, reached, folder, short, arrives⟩
        rw [← FileTree.walk_filter_iff folder] at reached
        obtain rfl : middle = directory := Except.ok.inj (reached.symm.trans above)
        exact ⟨Except.ok.inj (arrives.symm.trans (congrArg _ onward)), trivial, folder, short⟩
      · rintro ⟨rfl, -, folder, short⟩
        exact ⟨directory, (FileTree.walk_filter_iff folder).mp above, folder, short,
          congrArg _ onward⟩

end Receiver

end FilePush
