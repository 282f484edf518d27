import FilePush.FileTree.Basic
import FilePush.Name

/-!
# Names as bytes

A name is a text and a directory holds byte strings.  Here are the facts that carry names over:
texts concatenate as their bytes do, and only a slash is written with the byte of a slash.  Hence
the last component of a path that leads to a file is short enough for a directory.  A path gives a
file a name to travel under exactly if its bytes are text.
-/

namespace FilePush

namespace Utf8

theorem decode?_eq_none_iff {bytes : Bytes} :
    decode? bytes = none ↔ ∀ text, bytes ≠ encode text := by
  simp only [Option.eq_none_iff_forall_ne_some, ne_eq, decode?_eq_some_iff]

theorem encode_eq_flatMap (text : String) :
    encode text = text.toList.flatMap String.utf8EncodeChar := by
  rw [encode, String.toUTF8, ← String.utf8Encode_toList, List.utf8Encode,
    List.data_toByteArray, List.toList_toArray]

theorem encode_append (front back : String) :
    encode (front ++ back) = encode front ++ encode back := by
  simp [encode_eq_flatMap]

theorem length_encode_of_forall {text : String} (narrow : ∀ char ∈ text.toList, char.utf8Size = 1) :
    (encode text).length = text.length := by
  rw [encode_eq_flatMap, List.length_flatMap]
  have widths : text.toList.map (fun char => (String.utf8EncodeChar char).length) =
      text.toList.map fun _ => 1 :=
    List.map_congr_left fun char member => by simp [narrow char member]
  rw [widths, List.map_const', List.sum_replicate_nat, String.length_toList, Nat.mul_one]

/-- Only a slash is written with the byte of a slash. -/
theorem separator_mem_utf8EncodeChar {char : Char}
    (found : Path.separator ∈ String.utf8EncodeChar char) : char = '/' := by
  have distinct (value : Nat) (small : value < 256) (equal : Path.separator = UInt8.ofNat value) :
      value = 0x2F := by
    have values := congrArg UInt8.toNat equal
    rw [UInt8.toNat_ofNat_of_lt' small] at values
    exact values.symm
  simp only [String.utf8EncodeChar] at found
  split at found
  · have value := distinct char.val.toNat (by omega) (by simpa using found)
    exact Char.ext (UInt32.toNat_inj.mp value)
  · split at found
    · simp only [List.mem_cons, List.not_mem_nil, or_false] at found
      rcases found with found | found <;> have := distinct _ (by omega) found <;> omega
    · split at found
      · simp only [List.mem_cons, List.not_mem_nil, or_false] at found
        rcases found with found | found | found <;>
          have := distinct _ (by omega) found <;> omega
      · simp only [List.mem_cons, List.not_mem_nil, or_false] at found
        rcases found with found | found | found | found <;>
          have := distinct _ (by omega) found <;> omega

theorem separator_not_mem_encode {text : String} (plain : '/' ∉ text.toList) :
    Path.separator ∉ encode text := by
  rw [encode_eq_flatMap, List.mem_flatMap]
  rintro ⟨char, member, found⟩
  exact plain (separator_mem_utf8EncodeChar found ▸ member)

end Utf8

namespace Path

theorem split_of_not_mem {bytes : Bytes} (plain : separator ∉ bytes) : split bytes = [bytes] := by
  induction bytes with
  | nil => rfl
  | cons byte rest induction =>
      simp only [List.mem_cons, not_or] at plain
      simp [split, induction plain.2, Ne.symm plain.1]

/-- A byte string without separators at the end of a path lies in one of its components. -/
theorem exists_component_of_suffix (front : Bytes) {back : Bytes} (plain : separator ∉ back) :
    ∃ component ∈ split (front ++ back), back.length ≤ component.length := by
  induction front with
  | nil => exact ⟨back, by simp [split_of_not_mem plain], Nat.le_refl _⟩
  | cons byte front induction =>
      obtain ⟨component, member, longer⟩ := induction
      rw [List.cons_append, split]
      split
      · exact ⟨component, List.mem_cons_of_mem _ member, longer⟩
      · cases rest : split (front ++ back) with
        | nil => simp [rest] at member
        | cons first others =>
            rw [rest, List.mem_cons] at member
            rcases member with rfl | later
            · refine ⟨byte :: component, by simp, ?_⟩
              simp only [List.length_cons]
              omega
            · exact ⟨component, List.mem_cons_of_mem _ later, longer⟩

end Path

namespace FileTree

/-- Every component of a path that leads somewhere is short. -/
theorem length_le_of_walk {tree : FileTree} {components : List Bytes} {start place : Location}
    (reached : tree.walk start components = .ok place) :
    ∀ component ∈ components, component.length ≤ Path.componentLimit := by
  induction components generalizing start with
  | nil => simp
  | cons component rest induction =>
      have rest_short {here : Location} (later : tree.walk here rest = .ok place)
          (short : component.length ≤ Path.componentLimit) :
          ∀ other ∈ component :: rest, other.length ≤ Path.componentLimit := by
        intro other member
        rcases List.mem_cons.mp member with rfl | member
        · exact short
        · exact induction later other member
      rw [walk] at reached
      split at reached
      · simp at reached
      · simp at reached
      · simp at reached
      · split at reached
        · next same =>
            refine rest_short reached ?_
            rcases same with rfl | rfl <;> decide
        · split at reached
          · next above => exact rest_short reached (by rw [above]; decide)
          · split at reached
            · simp at reached
            · next short => exact rest_short reached (Nat.le_of_not_lt short)

end FileTree

namespace Name

/-- A path that is text travels under its last component, and no other path travels. -/
theorem wire_eq_ok_iff {path : Path} {name : String} :
    wire path = .ok name ↔ ∃ text, path.bytes = Utf8.encode text ∧ name = basename text := by
  rw [wire]
  constructor
  · intro travels
    split at travels
    · simp at travels
    · next text decoded =>
        cases travels
        exact ⟨text, Utf8.decode?_eq_some_iff.mp decoded, rfl⟩
  · rintro ⟨text, spelled, rfl⟩
    rw [spelled, Utf8.decode?_encode]

theorem wire_of_text {path : Path} {text : String} (spelled : path.bytes = Utf8.encode text) :
    wire path = .ok (basename text) :=
  wire_eq_ok_iff.mpr ⟨text, spelled, rfl⟩

/-- A path does not travel exactly if it is no text, and then the path is reported. -/
theorem wire_eq_error_iff {path : Path} {error : FileError} :
    wire path = .error error ↔
      (∀ text, path.bytes ≠ Utf8.encode text) ∧ error = .nonUtf8Name path := by
  rw [wire, ← Utf8.decode?_eq_none_iff]
  split
  · next undecodable => simp [undecodable, eq_comm]
  · next text decoded => simp [decoded]

end Name

end FilePush
