import FilePush.Proofs.Name.Encoding
import Mathlib.Data.List.Infix
import Mathlib.Data.List.TakeWhile

/-!
# Names to store under and names of unfinished files

A received file is stored under the last component of its name, and taking the last component twice
is taking it once.  The names of unfinished files belong to one connection each, and none of them is
a name that a received file can be stored under.
-/

namespace FilePush

namespace Name

theorem lastComponent_suffix (chars : List Char) : lastComponent chars <:+ chars := by
  rw [lastComponent, ← List.reverse_prefix, List.reverse_reverse]
  exact List.takeWhile_prefix _

theorem isSeparator_of_mem_lastComponent {chars : List Char} {char : Char}
    (member : char ∈ lastComponent chars) : isSeparator char = false := by
  have taken := List.mem_takeWhile_imp (List.mem_reverse.mp member)
  simpa using taken

theorem lastComponent_eq_self {chars : List Char}
    (plain : ∀ char ∈ chars, isSeparator char = false) : lastComponent chars = chars := by
  have whole : chars.reverse.takeWhile (fun char => !isSeparator char) = chars.reverse := by
    apply List.takeWhile_eq_self_iff.mpr
    intro char member
    simp [plain char (List.mem_reverse.mp member)]
  rw [lastComponent, whole, List.reverse_reverse]

@[simp]
theorem toList_basename (name : String) : (basename name).toList = lastComponent name.toList := by
  simp [basename]

/-- Taking the last component twice is taking it once. -/
@[simp]
theorem basename_basename (name : String) : basename (basename name) = basename name := by
  rw [basename, toList_basename, lastComponent_eq_self, ← toList_basename, String.ofList_toList]
  exact fun _ => isSeparator_of_mem_lastComponent

/-- The bytes of a last component are at the end of the bytes of the name. -/
theorem exists_encode_eq_append_basename (name : String) :
    ∃ front, Utf8.encode name = front ++ Utf8.encode (basename name) := by
  obtain ⟨front, split⟩ := lastComponent_suffix name.toList
  refine ⟨Utf8.encode (String.ofList front), ?_⟩
  rw [← Utf8.encode_append, basename, ← String.ofList_append, split, String.ofList_toList]

theorem separator_not_mem_encode_basename (name : String) :
    Path.separator ∉ Utf8.encode (basename name) := by
  apply Utf8.separator_not_mem_encode
  intro member
  rw [toList_basename] at member
  have unlike := isSeparator_of_mem_lastComponent member
  simp [isSeparator] at unlike

/-- The last component of the path of a file that opens is short enough for a directory. -/
theorem length_encode_basename_le {tree : FileTree} {working : Location} {path : Path}
    {text : String} {node : Node} (spelled : path.bytes = Utf8.encode text)
    (opens : tree.openForReading working path = .ok node) :
    (Utf8.encode (basename text)).length ≤ Path.componentLimit := by
  obtain ⟨front, split⟩ := exists_encode_eq_append_basename text
  obtain ⟨component, member, longer⟩ :=
    Path.exists_component_of_suffix front (separator_not_mem_encode_basename text)
  rw [← split, ← spelled] at member
  rw [FileTree.openForReading, FileTree.locate] at opens
  split at opens
  · simp at opens
  · next place located =>
      split at located
      · simp at located
      · exact Nat.le_trans longer (FileTree.length_le_of_walk located component member)

theorem storage_eq_ok_iff {received : Bytes} {name : String} :
    storage received = .ok name ↔
      ∃ text, received = Utf8.encode text ∧ name = basename text ∧ isStorable name := by
  rw [storage]
  constructor
  · intro accepted
    split at accepted
    · simp at accepted
    · next text decoded =>
        simp only at accepted
        split at accepted
        · next storable =>
            cases accepted
            exact ⟨text, Utf8.decode?_eq_some_iff.mp decoded, rfl, storable⟩
        · simp at accepted
  · rintro ⟨text, rfl, rfl, storable⟩
    simp [storable]

/-- A text is stored under its last component, or refused as a whole. -/
theorem storage_encode (text : String) :
    storage (Utf8.encode text) =
      if isStorable (basename text) then .ok (basename text)
      else .error (.invalidFilename text) := by
  simp [storage]

/-- A name is stored under as it is if its last component is itself. -/
theorem storage_encode_basename (text : String) :
    storage (Utf8.encode (basename text)) =
      if isStorable (basename text) then .ok (basename text)
      else .error (.invalidFilename (basename text)) := by
  rw [storage_encode, basename_basename]

theorem toList_staging (sequence : Nat) :
    (staging sequence).toList =
      stagingStart.toList ++ Nat.toDigits 10 sequence ++ stagingEnd.toList := by
  simp [staging]

/-- Every connection has an unfinished file of its own. -/
theorem staging_injective {left right : Nat} (same : staging left = staging right) :
    left = right := by
  have lists := congrArg String.toList same
  rw [toList_staging, toList_staging] at lists
  have digits := List.append_cancel_left (List.append_cancel_right lists)
  have values := congrArg (fun chars => Nat.ofDigitChars 10 chars 0) digits
  simpa only [Nat.ofDigitChars_ten_toDigits] using values

theorem isStaging_append (middle : String) :
    isStaging (stagingStart ++ middle ++ stagingEnd) = true := by
  rw [isStaging, String.toList_append, String.toList_append, Bool.and_eq_true]
  constructor
  · rw [List.isPrefixOf_iff_prefix, List.append_assoc]
    exact List.prefix_append _ _
  · rw [List.isSuffixOf_iff_suffix]
    exact List.suffix_append _ _

/-- The two ends of the names of unfinished files do not overlap, so there is always a middle. -/
theorem isStaging_iff {name : String} :
    isStaging name ↔ ∃ middle, name = stagingStart ++ middle ++ stagingEnd := by
  constructor
  · intro staging
    simp only [isStaging, Bool.and_eq_true, List.isPrefixOf_iff_prefix,
      List.isSuffixOf_iff_suffix] at staging
    obtain ⟨⟨back, starts⟩, ⟨front, ends⟩⟩ := staging
    have apart : ∀ shared ∈ stagingStart.toList.tails, shared <+: stagingEnd.toList →
        shared = [] := by decide
    have middle : ∃ middle, name.toList = stagingStart.toList ++ middle ++ stagingEnd.toList := by
      rcases List.append_eq_append_iff.mp (starts.trans ends.symm) with
        ⟨middle, rfl, -⟩ | ⟨shared, overlap, rest⟩
      · exact ⟨middle, ends.symm⟩
      · have nothing : shared = [] := by
          apply apart shared
          · rw [List.mem_tails, overlap]
            exact List.suffix_append _ _
          · rw [rest]
            exact List.prefix_append _ _
        subst nothing
        rw [List.append_nil] at overlap
        refine ⟨[], ?_⟩
        rw [List.append_nil, overlap, ends]
    obtain ⟨middle, whole⟩ := middle
    refine ⟨String.ofList middle, String.toList_injective ?_⟩
    rw [whole, String.toList_append, String.toList_append, String.toList_ofList]
  · rintro ⟨middle, rfl⟩
    exact isStaging_append middle

theorem isStorable_iff {name : String} :
    isStorable name ↔
      name ≠ "" ∧ name ≠ "." ∧ name ≠ ".." ∧ '\x00' ∉ name.toList ∧
        ∀ middle, name ≠ stagingStart ++ middle ++ stagingEnd := by
  have reserved : isStaging name = false ↔
      ∀ middle, name ≠ stagingStart ++ middle ++ stagingEnd := by
    rw [← Bool.not_eq_true, isStaging_iff, not_exists]
  simp only [isStorable, Bool.not_eq_true', Bool.or_eq_false_iff, decide_eq_false_iff_not,
    String.isEmpty_eq_false_iff, List.contains_eq_mem, reserved, and_assoc, ne_eq]

/-- A received file is never stored under a name of the form of the names of unfinished files. -/
theorem ne_append_of_isStorable {name : String} (storable : isStorable name) (middle : String) :
    name ≠ stagingStart ++ middle ++ stagingEnd :=
  (isStorable_iff.mp storable).2.2.2.2 middle

/-- A received file is never stored under the name of an unfinished file. -/
theorem ne_staging_of_isStorable {name : String} (storable : isStorable name) (sequence : Nat) :
    name ≠ staging sequence :=
  ne_append_of_isStorable storable (toString sequence)

/-- The name of an entry of a directory, which leads to that entry and nowhere else. -/
structure Plain (name : String) : Prop where
  /-- The name is not empty. -/
  nonempty : name ≠ ""
  /-- The name does not stand for the directory itself. -/
  not_self : name ≠ "."
  /-- The name does not stand for the directory above. -/
  not_parent : name ≠ ".."
  /-- The name is a single component. -/
  single : ∀ char ∈ name.toList, isSeparator char = false
  /-- The name holds no character that would end its path. -/
  no_nul : '\x00' ∉ name.toList

theorem Plain.slash_not_mem {name : String} (plain : Plain name) : '/' ∉ name.toList := by
  intro member
  have unlike := plain.single '/' member
  simp [isSeparator] at unlike

/-- A received file is stored under the name of an entry. -/
theorem plain_of_storage {received : Bytes} {name : String}
    (accepted : storage received = .ok name) : Plain name := by
  obtain ⟨text, -, rfl, storable⟩ := storage_eq_ok_iff.mp accepted
  obtain ⟨nonempty, not_self, not_parent, no_nul, -⟩ := isStorable_iff.mp storable
  refine ⟨nonempty, not_self, not_parent, ?_, no_nul⟩
  intro char member
  rw [toList_basename] at member
  exact isSeparator_of_mem_lastComponent member

/-- An unfinished file has the name of an entry. -/
theorem plain_staging (sequence : Nat) : Plain (staging sequence) := by
  have fixed {text : String} {char : Char}
      (all : text.toList.all fun char => !isSeparator char && char != '\x00')
      (member : char ∈ text.toList) : isSeparator char = false ∧ char ≠ '\x00' := by
    simpa using List.all_eq_true.mp all char member
  have letters : ∀ char ∈ (staging sequence).toList, isSeparator char = false ∧ char ≠ '\x00' := by
    intro char member
    rw [toList_staging, List.mem_append, List.mem_append] at member
    rcases member with (start | digit) | ending
    · exact fixed (by decide) start
    · have digit := Nat.isDigit_of_mem_toDigits (by decide) (by decide) digit
      constructor
      · rw [Bool.eq_false_iff]
        intro slash
        simp only [isSeparator, Bool.or_eq_true, decide_eq_true_eq] at slash
        rcases slash with rfl | rfl
        · exact absurd digit (by decide)
        · exact absurd digit (by decide)
      · rintro rfl
        exact absurd digit (by decide)
    · exact fixed (by decide) ending
  have longer : 10 ≤ (staging sequence).toList.length := by
    simp [toList_staging, stagingStart, stagingEnd]
  have unlike (short : String) (few : short.toList.length < 10) : staging sequence ≠ short := by
    rintro rfl
    omega
  exact ⟨unlike "" (by decide), unlike "." (by decide), unlike ".." (by decide),
    fun char member => (letters char member).1, fun member => (letters _ member).2 rfl⟩

/-- The name of an unfinished file is short enough for a directory. -/
theorem length_encode_staging_le {sequence : Nat} (word : sequence < UInt64.size) :
    (Utf8.encode (staging sequence)).length ≤ Path.componentLimit := by
  have digits_narrow : ∀ char ∈ (toString sequence).toList, char.utf8Size = 1 := by
    intro char member
    rw [Nat.toString_eq_repr, Nat.toList_repr] at member
    have digit := Nat.isDigit_of_mem_toDigits (by decide) (by decide) member
    simp only [Char.isDigit, Bool.and_eq_true, decide_eq_true_eq, UInt32.le_iff_toNat_le] at digit
    have small : char.val ≤ 0x7F := by
      rw [UInt32.le_iff_toNat_le]
      exact Nat.le_trans digit.2 (by decide)
    simp [Char.utf8Size, small]
  have digits_few : (toString sequence).length ≤ 20 := by
    rw [Nat.toString_eq_repr, ← String.length_toList, Nat.toList_repr]
    exact (Nat.length_toDigits_le_iff (by decide) (by decide)).mpr (Nat.lt_trans word (by decide))
  have start_length : (Utf8.encode stagingStart).length = 5 := by decide
  have end_length : (Utf8.encode stagingEnd).length = 5 := by decide
  rw [staging, Utf8.encode_append, Utf8.encode_append, List.length_append, List.length_append,
    Utf8.length_encode_of_forall digits_narrow, start_length, end_length, Path.componentLimit]
  omega

end Name

end FilePush
