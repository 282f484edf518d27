import FilePush.Proofs.Name.Staging

/-!
# Which names are stored under

A file is stored under the longest ending of its name that holds no separator, unless that ending is
empty, leads elsewhere, cannot stand in a path or has the form of the names of unfinished files.
What stands before the last separator therefore plays no role, and a name that is accepted is
accepted again as it is.  No spelling leads to the name of an unfinished file, and these names are
different for different connections.
-/

namespace FilePush

namespace Name

/-- The longest ending of a text that holds no separator. -/
structure LongestPlainEnding (chars ending : List Char) : Prop where
  /-- It is an ending of the text. -/
  suffix : ending <:+ chars
  /-- It holds neither kind of slash. -/
  plain : ∀ char ∈ ending, char ≠ '/' ∧ char ≠ '\\'
  /-- No other such ending is longer. -/
  longest : ∀ other, other <:+ chars → (∀ char ∈ other, char ≠ '/' ∧ char ≠ '\\') →
    other.length ≤ ending.length

theorem isSeparator_eq_false_iff {char : Char} :
    isSeparator char = false ↔ char ≠ '/' ∧ char ≠ '\\' := by
  simp [isSeparator]

/-- An ending without separators belongs to the last component. -/
theorem lastComponent_append (front : List Char) {back : List Char}
    (plain : ∀ char ∈ back, isSeparator char = false) :
    lastComponent (front ++ back) = lastComponent front ++ back := by
  rw [lastComponent, List.reverse_append, List.takeWhile_append_of_pos, List.reverse_append,
    List.reverse_reverse, lastComponent]
  intro char member
  simp [plain char (List.mem_reverse.mp member)]

theorem lastComponent_concat_separator (front : List Char) {last : Char}
    (separates : isSeparator last = true) : lastComponent (front ++ [last]) = [] := by
  simp [lastComponent, separates]

theorem longestPlainEnding_lastComponent (chars : List Char) :
    LongestPlainEnding chars (lastComponent chars) where
  suffix := lastComponent_suffix chars
  plain _ member := isSeparator_eq_false_iff.mp (isSeparator_of_mem_lastComponent member)
  longest := by
    rintro other ⟨front, rfl⟩ plain
    rw [lastComponent_append front fun char member =>
      isSeparator_eq_false_iff.mpr (plain char member), List.length_append]
    exact Nat.le_add_left _ _

/-- A text has one longest ending that holds no separator. -/
theorem LongestPlainEnding.unique {chars ending other : List Char}
    (one : LongestPlainEnding chars ending) (two : LongestPlainEnding chars other) :
    ending = other := by
  have shorter := two.longest ending one.suffix one.plain
  have longer := one.longest other two.suffix two.plain
  have within := List.suffix_of_suffix_length_le one.suffix two.suffix shorter
  exact within.eq_of_length (Nat.le_antisymm shorter longer)

theorem eq_basename_iff {text name : String} :
    name = basename text ↔ LongestPlainEnding text.toList name.toList := by
  constructor
  · rintro rfl
    rw [toList_basename]
    exact longestPlainEnding_lastComponent text.toList
  · intro longest
    apply String.toList_injective
    rw [toList_basename]
    exact longest.unique (longestPlainEnding_lastComponent text.toList)

/-- What stands before a separator plays no role for the last component. -/
theorem basename_append {front name : String} {last : Char}
    (ends : front.toList.getLast? = some last) (separates : isSeparator last = true)
    (plain : ∀ char ∈ name.toList, isSeparator char = false) : basename (front ++ name) = name := by
  obtain ⟨before, whole⟩ := List.getLast?_eq_some_iff.mp ends
  apply String.toList_injective
  rw [toList_basename, String.toList_append, whole, lastComponent_append _ plain,
    lastComponent_concat_separator before separates, List.nil_append]

theorem storage_eq_error {received : Bytes} {error : ProtocolError}
    (refused : storage received = .error error) :
    error = .invalidFilename ((Utf8.decode? received).getD (Utf8.lossy received)) := by
  rw [storage] at refused
  split at refused
  · next undecodable =>
      rw [undecodable]
      exact (Except.error.inj refused).symm
  · next text decoded =>
      simp only at refused
      split at refused
      · cases refused
      · rw [decoded]
        exact (Except.error.inj refused).symm

/--
A received name is stored under exactly the longest ending of its text that holds no separator, and
only if that is not empty, neither of the two names with dots alone, without NUL and not of the form
of the names of unfinished files; otherwise the name is refused as invalid.  A name that is stored
under is stored under again, by itself and after anything that ends in a separator.
-/
theorem storage_exact (received : Bytes) (name : String) :
    (storage received = .ok name ↔
      (∃ text, received = Utf8.encode text ∧ LongestPlainEnding text.toList name.toList) ∧
        name ≠ "" ∧ name ≠ "." ∧ name ≠ ".." ∧ '\x00' ∉ name.toList ∧
        ∀ middle, name ≠ ".tfp-" ++ middle ++ ".part") ∧
    (∀ error, storage received = .error error →
      error = .invalidFilename ((Utf8.decode? received).getD (Utf8.lossy received))) ∧
    (storage received = .ok name →
      storage (Utf8.encode name) = .ok name ∧
        ∀ front : String,
          front.toList.getLast? = some '/' ∨ front.toList.getLast? = some '\\' →
          storage (Utf8.encode (front ++ name)) = .ok name) := by
  refine ⟨?_, fun error refused => storage_eq_error refused, fun accepted => ?_⟩
  · simp only [storage_eq_ok_iff, eq_basename_iff, isStorable_iff]
    constructor
    · rintro ⟨text, spelled, longest, safe⟩
      exact ⟨⟨text, spelled, longest⟩, safe⟩
    · rintro ⟨⟨text, spelled, longest⟩, safe⟩
      exact ⟨text, spelled, longest, safe⟩
  · obtain ⟨text, -, rfl, storable⟩ := storage_eq_ok_iff.mp accepted
    have plain := (plain_of_storage accepted).single
    refine ⟨?_, fun front ends => ?_⟩
    · rw [storage_encode_basename, if_pos storable]
    · have component : basename (front ++ basename text) = basename text := by
        rcases ends with slash | backslash
        · exact basename_append slash (by decide) plain
        · exact basename_append backslash (by decide) plain
      exact storage_eq_ok_iff.mpr ⟨_, rfl, component.symm, storable⟩

theorem basename_of_plain {name : String} (plain : Plain name) : basename name = name := by
  rw [basename, lastComponent_eq_self plain.single, String.ofList_toList]

/-- A text that leads to the name of an unfinished file is refused. -/
theorem storage_of_basename_eq_staging {text : String} {sequence : Nat}
    (leads : basename text = staging sequence) :
    storage (Utf8.encode text) = .error (.invalidFilename text) := by
  rw [storage_encode, if_neg]
  exact fun storable => ne_staging_of_isStorable storable sequence leads

/--
The names of unfinished files are private.  Each belongs to one connection, has the reserved form and
is its own last component; and no received name is stored under one of them, whatever stands before
the last separator.
-/
theorem staging_private :
    (∀ left right : Nat, staging left = staging right → left = right) ∧
    (∀ sequence : Nat,
      isStaging (staging sequence) = true ∧ basename (staging sequence) = staging sequence) ∧
    (∀ (received : Bytes) (sequence : Nat), storage received ≠ .ok (staging sequence)) ∧
    ∀ (sequence : Nat) (front : String),
      front = "" ∨ front.toList.getLast? = some '/' ∨ front.toList.getLast? = some '\\' →
      storage (Utf8.encode (front ++ staging sequence)) =
        .error (.invalidFilename (front ++ staging sequence)) := by
  refine ⟨fun left right same => staging_injective same,
    fun sequence =>
      ⟨isStaging_append (toString sequence), basename_of_plain (plain_staging sequence)⟩,
    fun received sequence accepted => ?_, fun sequence front ends => ?_⟩
  · obtain ⟨text, -, same, storable⟩ := storage_eq_ok_iff.mp accepted
    exact ne_staging_of_isStorable storable sequence rfl
  · have plain := plain_staging sequence
    refine @storage_of_basename_eq_staging _ sequence ?_
    rcases ends with rfl | slash | backslash
    · rw [String.empty_append, basename_of_plain plain]
    · exact basename_append slash (by decide) plain.single
    · exact basename_append backslash (by decide) plain.single

end Name

end FilePush
