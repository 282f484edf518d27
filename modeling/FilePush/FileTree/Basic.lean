import FilePush.Path

/-!
# File trees

A file tree says what stands at each location below its root: a directory, a file with its content,
or a file on a device that has no space left.  Every operation is described by what `get?` gives
afterwards, so that two trees that answer alike are alike.
-/

namespace FilePush

/-- A place in a file tree: the names that lead to it from the root. -/
abbrev Location := List Bytes

/-- What stands at a location. -/
inductive Node
  /-- A directory. -/
  | directory
  /-- A file with its content. -/
  | file (content : Bytes)
  /-- A file that reads as empty and stores nothing, since its device is full. -/
  | full
  deriving DecidableEq, Repr

/-- A tree of files below a root directory. -/
structure FileTree where
  /-- What stands at the locations below the root; of two entries the first counts. -/
  entries : List (Location × Node)
  deriving Repr

namespace FileTree

/-- The tree that holds nothing. -/
def empty : FileTree := ⟨[]⟩

/-- What stands at a location.  The root is always a directory. -/
def get? (tree : FileTree) (location : Location) : Option Node :=
  if location = [] then some .directory
  else (tree.entries.find? fun entry => entry.1 = location).map (·.2)

/-- Take away what stands at a location. -/
def erase (tree : FileTree) (location : Location) : FileTree :=
  ⟨tree.entries.filter fun entry => entry.1 ≠ location⟩

/-- Put a node at a location, in place of what stood there. -/
def insert (tree : FileTree) (location : Location) (node : Node) : FileTree :=
  ⟨(location, node) :: (tree.erase location).entries⟩

@[simp]
theorem get?_root (tree : FileTree) : tree.get? [] = some .directory := by
  simp [get?]

theorem get?_erase (tree : FileTree) (location other : Location) :
    (tree.erase location).get? other =
      if other = [] then some .directory
      else if other = location then none
      else tree.get? other := by
  unfold get? erase
  by_cases root : other = []
  · simp [root]
  · by_cases same : other = location
    · subst same
      simp [root, List.find?_eq_none]
    · simp only [root, if_false, same, List.find?_filter]
      congr 2
      funext entry
      by_cases here : entry.1 = other
      · simp [here, same]
      · simp [here]

theorem get?_insert (tree : FileTree) (location other : Location) (node : Node) :
    (tree.insert location node).get? other =
      if other = [] then some .directory
      else if other = location then some node
      else tree.get? other := by
  by_cases root : other = []
  · simp [root]
  · by_cases same : other = location
    · subst same
      simp [get?, insert, root]
    · have unlike : ¬location = other := fun equal => same equal.symm
      have erased := tree.get?_erase location other
      simp only [root, same, if_false] at erased ⊢
      rw [← erased]
      simp [get?, insert, root, unlike]

/-- The entries of a directory, sorted by name; `none` if the location holds no directory. -/
def children? (tree : FileTree) (location : Location) : Option (List (Bytes × Node)) :=
  match tree.get? location with
  | some .directory =>
      let inside := tree.entries.filterMap fun entry =>
        match entry.1.getLast? with
        | some name => if entry.1 = location ++ [name] then some (name, entry.2) else none
        | none => none
      some (inside.mergeSort fun left right => decide (left.1 ≤ right.1))
  | _ => none

/-- Follow the components of a path, each of which has to be looked up in a directory. -/
def walk (tree : FileTree) : Location → List Bytes → Except IoError Location
  | here, [] => .ok here
  | here, component :: rest =>
      match tree.get? here with
      | none => .error .notFound
      | some (.file _) | some .full => .error .notADirectory
      | some .directory =>
          if component = [] ∨ component = Path.self then tree.walk here rest
          else if component = Path.parent then tree.walk here.dropLast rest
          else if Path.componentLimit < component.length then .error .nameTooLong
          else tree.walk (here ++ [component]) rest

/-- The location that a path names, seen from a working directory. -/
def locate (tree : FileTree) (working : Location) (path : Path) : Except IoError Location :=
  match path.problem? with
  | some problem => .error problem
  | none => tree.walk (if path.isAbsolute then [] else working) path.components

/-- What a path names, opened for reading. -/
def openForReading (tree : FileTree) (working : Location) (path : Path) : Except IoError Node :=
  match tree.locate working path with
  | .error problem => .error problem
  | .ok location =>
      match tree.get? location with
      | none => .error .notFound
      | some node => .ok node

/-- Create a file in a directory, or empty the file that stands there. -/
def create (tree : FileTree) (directory : Location) (name : Bytes) : Except IoError FileTree :=
  match tree.get? directory with
  | none => .error .notFound
  | some (.file _) | some .full => .error .notADirectory
  | some .directory =>
      if Path.componentLimit < name.length then .error .nameTooLong
      else
        match tree.get? (directory ++ [name]) with
        | some .directory => .error .isADirectory
        | some .full => .ok tree
        | some (.file _) | none => .ok (tree.insert (directory ++ [name]) (.file []))

/-- Add bytes at the end of a file; a full device takes none of them. -/
def append (tree : FileTree) (location : Location) (bytes : Bytes) : FileTree :=
  match tree.get? location with
  | some (.file content) => tree.insert location (.file (content ++ bytes))
  | _ => tree

theorem get?_create {tree created : FileTree} {directory : Location} {name : Bytes}
    (given : tree.create directory name = .ok created) (other : Location) :
    created.get? other =
      if other = directory ++ [name] ∧ tree.get? other ≠ some .full then some (.file [])
      else tree.get? other := by
  unfold create at given
  split at given
  · simp at given
  · simp at given
  · simp at given
  · split at given
    · simp at given
    · split at given
      · simp at given
      · next full =>
          cases given
          by_cases same : other = directory ++ [name]
          · simp [same, full]
          · simp [same]
      · next plain =>
          cases given
          rw [get?_insert]
          by_cases root : other = []
          · simp [root]
          · by_cases same : other = directory ++ [name]
            · simp [same, plain]
            · simp [root, same]
      · next absent =>
          cases given
          rw [get?_insert]
          by_cases root : other = []
          · simp [root]
          · by_cases same : other = directory ++ [name]
            · simp [same, absent]
            · simp [root, same]

theorem get?_append (tree : FileTree) (location other : Location) (bytes : Bytes) :
    (tree.append location bytes).get? other =
      match tree.get? other with
      | some (.file content) => some (.file (if other = location then content ++ bytes else content))
      | node => node := by
  by_cases same : other = location
  · subst same
    unfold append
    cases found : tree.get? other with
    | none => simp [found]
    | some node =>
        cases node with
        | directory => simp [found]
        | full => simp [found]
        | file content =>
            have below : other ≠ [] := fun root => by simp [root] at found
            simp [get?_insert, below]
  · have kept : (tree.append location bytes).get? other = tree.get? other := by
      unfold append
      split
      · rw [get?_insert]
        by_cases root : other = []
        · simp [root]
        · simp [root, same]
      · rfl
    rw [kept]
    simp only [if_neg same]
    split <;> simp_all

/-- Move an entry of a directory to another name, in place of a file that has that name. -/
def rename (tree : FileTree) (directory : Location) (source target : Bytes) :
    Except IoError FileTree :=
  match tree.get? (directory ++ [source]) with
  | none => .error .notFound
  | some node =>
      if Path.componentLimit < target.length then .error .nameTooLong
      else
        match tree.get? (directory ++ [target]) with
        | some .directory => .error .isADirectory
        | _ => .ok ((tree.erase (directory ++ [source])).insert (directory ++ [target]) node)

theorem get?_rename {tree renamed : FileTree} {directory : Location} {source target : Bytes}
    (given : tree.rename directory source target = .ok renamed) (other : Location) :
    renamed.get? other =
      if other = directory ++ [target] then tree.get? (directory ++ [source])
      else if other = directory ++ [source] then none
      else tree.get? other := by
  unfold rename at given
  split at given
  · simp at given
  · next node moved =>
      split at given
      · simp at given
      · split at given
        · simp at given
        · cases given
          rw [get?_insert, get?_erase, moved]
          by_cases root : other = []
          · simp [root]
          · simp [root]

/-- Make one directory, whose last component must be new and stand in a directory. -/
def makeDirectory (tree : FileTree) (start : Location) (components : List Bytes) :
    Except IoError FileTree :=
  match components.getLast? with
  | none => .error .notFound
  | some name =>
      if name = Path.self ∨ name = Path.parent then
        match tree.walk start components with
        | .error problem => .error problem
        | .ok _ => .error .alreadyExists
      else
        -- The empty component makes the walk check that the place is a directory.
        match tree.walk start (components.dropLast ++ [[]]) with
        | .error problem => .error problem
        | .ok here =>
            if Path.componentLimit < name.length then .error .nameTooLong
            else if (tree.get? (here ++ [name])).isSome then .error .alreadyExists
            else .ok (tree.insert (here ++ [name]) .directory)

/-- Whether the components lead to a directory. -/
def isDirectory (tree : FileTree) (start : Location) (components : List Bytes) : Bool :=
  match tree.walk start components with
  | .error _ => false
  | .ok here => tree.get? here = some .directory

/-- The components that lead to the directory above the one that `components` lead to. -/
def above (components : List Bytes) : List Bytes :=
  (((components.reverse.dropWhile (· = Path.self)).tail).dropWhile (· = Path.self)).reverse

theorem length_above_lt (components : List Bytes) (nonempty : components ≠ []) :
    (above components).length < components.length := by
  have outer := (List.dropWhile_sublist (· = Path.self) (l := components.reverse)).length_le
  have inner := (List.dropWhile_sublist (· = Path.self)
    (l := (components.reverse.dropWhile (· = Path.self)).tail)).length_le
  have positive : 0 < components.length := List.length_pos_iff.mpr nonempty
  simp only [List.length_tail, List.length_reverse] at outer inner
  simp only [above, List.length_reverse]
  omega

/--
Make the directory that a number of components lead to, and first the directories that lead to it;
a directory that exists already is left alone.  The tree is given back also when this fails, since
directories made on the way stay.
-/
def makeDirectories (tree : FileTree) (start : Location) (components : List Bytes) :
    FileTree × Option IoError :=
  if components = [] then (tree, none)
  else
    match tree.makeDirectory start components with
    | .ok made => (made, none)
    | .error problem =>
        if problem = .notFound then
          match tree.makeDirectories start (above components) with
          | (made, some failure) => (made, some failure)
          | (made, none) =>
              match made.makeDirectory start components with
              | .ok final => (final, none)
              | .error failure =>
                  if made.isDirectory start components then (made, none)
                  else (made, some failure)
        else if tree.isDirectory start components then (tree, none)
        else (tree, some problem)
  termination_by components.length
  decreasing_by exact length_above_lt components (by assumption)

end FileTree

end FilePush
