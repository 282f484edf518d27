import FilePush.Proofs.CommandLine.Groups
import FilePush.Proofs.Text.Numeral

/-!
# Reading groups

Reading the words of a command line by their indices is reading the groups of its arguments.  It is
refused for the first group that is wrong by itself, and if none is, all of it is read: the
positional arguments stay in order, and what an option sets is what its last use sets.
-/

namespace FilePush

namespace CommandLine

theorem map_number_eq_ok_iff {α : Type} {spelling value : String} {result : α} (make : Nat → α) :
    (number spelling value).map make = .ok result ↔
      ∃ found, Numeral.Spells numberLimit value found ∧ make found = result := by
  simp only [number, ← Numeral.parse?_eq_some_iff]
  split
  · next spelled => simp [spelled, Except.map]
  · next unread => simp [unread, Except.map]

theorem map_number_eq_error_iff {α : Type} {spelling value : String} {error : UsageError}
    (make : Nat → α) :
    (number spelling value).map make = .error error ↔
      (∀ found, ¬Numeral.Spells numberLimit value found) ∧
        error = .invalidNumber spelling value := by
  rw [number, ← Numeral.parse?_eq_none_iff]
  split
  · next spelled => simp [spelled, Except.map]
  · next unread => simp [unread, Except.map, eq_comm]

theorem map_port_eq_ok_iff {α : Type} {text : String} {result : α} (make : UInt16 → α) :
    (port text).map make = .ok result ↔
      ∃ found : UInt16, Numeral.Spells 65535 text found.toNat ∧ make found = result := by
  simp only [port, SocketAddress.parsePort?, ← Numeral.parse?_eq_some_iff]
  cases spelled : Numeral.parse? 65535 text with
  | none => simp [Except.map]
  | some value =>
      have small : value < UInt16.size :=
        Nat.lt_succ_of_le (Numeral.parse?_eq_some_iff.mp spelled).le
      have same (found : UInt16) : value = found.toNat ↔ UInt16.ofNat value = found := by
        rw [← UInt16.toNat_inj, UInt16.toNat_ofNat_of_lt' small]
      simp [Except.map, same]

theorem map_port_eq_error_iff {α : Type} {text : String} {ending : Ending} (make : UInt16 → α) :
    (port text).map make = .error ending ↔
      (∀ found, ¬Numeral.Spells 65535 text found) ∧ ending = .invalid (.invalidPort text) := by
  rw [port, SocketAddress.parsePort?, ← Numeral.parse?_eq_none_iff]
  cases Numeral.parse? 65535 text with
  | none => simp [Except.map, eq_comm]
  | some value => simp [Except.map]

variable {Setting : Type}

/-! ## The groups of the words -/

/--
Read groups into a configuration and the positional arguments; `found` holds the positional
arguments before these groups.
-/
def readGroups (apply : Apply Setting) (config : Config) (found : List String) :
    List (Group Setting) → Except Ending (Config × List String)
  | [] => .ok (config, found)
  | .positional text :: rest => readGroups apply config (found ++ [text]) rest
  | .help _ :: _ => .error .help
  | .unvalued spelling :: _ => .error (.invalid (.missingValue spelling))
  | .setting setting spelling value :: rest =>
      match apply setting spelling value config with
      | .ok config => readGroups apply config found rest
      | .error error => .error (.invalid error)

section

variable {words : Array String} {index : Nat}

theorem drop_words (inside : index < words.size) :
    words.toList.drop index = words[index] :: words.toList.drop (index + 1) := by
  rw [List.drop_eq_getElem_cons inside, Array.getElem_toList]

/-- An option has a value if a word stands after it. -/
theorem drop_of_valueAfter_eq_ok {inside : index < words.size} {value : String}
    (valued : valueAfter words index inside = .ok value) :
    words.toList.drop (index + 1) = value :: words.toList.drop (index + 1 + 1) := by
  rw [valueAfter] at valued
  split at valued
  · next found =>
      obtain ⟨later, here⟩ := Array.getElem?_eq_some_iff.mp found
      cases valued
      rw [drop_words later, here]
  · cases valued

/-- An option lacks its value if it is the last word. -/
theorem drop_of_valueAfter_eq_error {inside : index < words.size} {error : UsageError}
    (unvalued : valueAfter words index inside = .error error) :
    words.toList.drop (index + 1) = [] ∧ error = .missingValue words[index] := by
  rw [valueAfter] at unvalued
  split at unvalued
  · cases unvalued
  · next missing =>
      cases unvalued
      exact ⟨List.drop_eq_nil_of_le (Array.getElem?_eq_none_iff.mp missing), rfl⟩

end

/-- The words from an index on are read as the groups that they spell. -/
theorem readFrom_eq_readGroups (recognise : String → Argument Setting) (apply : Apply Setting)
    (words : Array String) (index : Nat) (config : Config) (found : List String) :
    readFrom recognise apply words index config found =
      readGroups apply config found (groups recognise (words.toList.drop index)) := by
  fun_induction readFrom recognise apply words index config found with
  | case1 index config found inside setting recognised error unvalued =>
      obtain ⟨last, rfl⟩ := drop_of_valueAfter_eq_error unvalued
      rw [drop_words inside, last, groups_unvalued recognised, readGroups]
  | case2 index config found inside setting recognised value valued error refused =>
      rw [drop_words inside, drop_of_valueAfter_eq_ok valued, groups_option recognised, readGroups,
        refused]
  | case3 index config found inside setting recognised value valued next applied induction =>
      rw [drop_words inside, drop_of_valueAfter_eq_ok valued, groups_option recognised, readGroups,
        applied, induction]
  | case4 index config found inside recognised =>
      rw [drop_words inside, groups_help recognised, readGroups]
  | case5 index config found inside recognised induction =>
      rw [drop_words inside, groups_positional recognised, readGroups, induction]
  | case6 index config found outside =>
      rw [List.drop_eq_nil_of_le (Nat.le_of_not_lt outside), groups, readGroups]

/-- Reading the words of a command line is reading the groups of its arguments. -/
theorem read_eq (recognise : String → Argument Setting) (apply : Apply Setting)
    (words : Array String) :
    read recognise apply words =
      readGroups apply .standard [] (groups recognise words.toList.tail) := by
  rw [read, readFrom_eq_readGroups, List.drop_one]

/-! ## Flaws -/

/-- What is wrong with a group by itself; `isNumber` tells which options take a number. -/
inductive Flaw (isNumber : Setting → Prop) : Group Setting → Ending → Prop
  /-- It asks for help. -/
  | help (spelling : String) : Flaw isNumber (.help spelling) .help
  /-- It is an option without a value. -/
  | unvalued (spelling : String) :
      Flaw isNumber (.unvalued spelling) (.invalid (.missingValue spelling))
  /-- It is an option that takes a number, and its value is none. -/
  | noNumber {setting : Setting} {spelling value : String} (due : isNumber setting)
      (unread : ∀ found, ¬Numeral.Spells numberLimit value found) :
      Flaw isNumber (.setting setting spelling value) (.invalid (.invalidNumber spelling value))

/-- No group is wrong by itself. -/
def Flawless (isNumber : Setting → Prop) (groups : List (Group Setting)) : Prop :=
  ∀ group ∈ groups, ∀ ending, ¬Flaw isNumber group ending

/-- The first group that is wrong by itself is wrong in this way. -/
def FirstFlaw (isNumber : Setting → Prop) (groups : List (Group Setting)) (ending : Ending) :
    Prop :=
  ∃ before group after, groups = before ++ group :: after ∧ Flawless isNumber before ∧
    Flaw isNumber group ending

variable {isNumber : Setting → Prop} {group : Group Setting} {groups : List (Group Setting)}
  {ending : Ending}

theorem flawless_cons : Flawless isNumber (group :: groups) ↔
    (∀ ending, ¬Flaw isNumber group ending) ∧ Flawless isNumber groups :=
  List.forall_mem_cons

theorem firstFlaw_cons : FirstFlaw isNumber (group :: groups) ending ↔
    Flaw isNumber group ending ∨
      (∀ other, ¬Flaw isNumber group other) ∧ FirstFlaw isNumber groups ending := by
  constructor
  · rintro ⟨before, flawed, after, split, sound, flaw⟩
    cases before with
    | nil =>
        obtain ⟨rfl, -⟩ := List.cons.inj split
        exact .inl flaw
    | cons first before =>
        obtain ⟨rfl, rfl⟩ := List.cons.inj split
        obtain ⟨first_sound, later_sound⟩ := flawless_cons.mp sound
        exact .inr ⟨first_sound, before, flawed, after, rfl, later_sound, flaw⟩
  · rintro (flaw | ⟨sound, before, flawed, after, rfl, later_sound, flaw⟩)
    · exact ⟨[], group, groups, rfl, List.forall_mem_nil _, flaw⟩
    · exact ⟨group :: before, flawed, after, rfl, flawless_cons.mpr ⟨sound, later_sound⟩, flaw⟩

/-- A group is wrong in one way only. -/
theorem Flaw.unique {other : Ending} (one : Flaw isNumber group ending)
    (two : Flaw isNumber group other) : ending = other := by
  cases one <;> cases two <;> rfl

theorem flaw_setting_iff {setting : Setting} {spelling value : String} {error : UsageError} :
    Flaw isNumber (.setting setting spelling value) (.invalid error) ↔
      isNumber setting ∧ (∀ found, ¬Numeral.Spells numberLimit value found) ∧
        error = .invalidNumber spelling value := by
  constructor
  · rintro ⟨⟩
    next due unread => exact ⟨due, unread, rfl⟩
  · rintro ⟨due, unread, rfl⟩
    exact .noNumber due unread

theorem not_flaw_positional (text : String) : ¬Flaw isNumber (.positional text) ending := nofun

theorem firstFlaw_cons_of_flaw {cause : Ending} (flaw : Flaw isNumber group cause) :
    FirstFlaw isNumber (group :: groups) ending ↔ cause = ending := by
  rw [firstFlaw_cons]
  constructor
  · rintro (same | ⟨sound, -⟩)
    · exact flaw.unique same
    · exact absurd flaw (sound cause)
  · rintro rfl
    exact .inl flaw

theorem firstFlaw_cons_of_sound (sound : ∀ ending, ¬Flaw isNumber group ending) :
    FirstFlaw isNumber (group :: groups) ending ↔ FirstFlaw isNumber groups ending := by
  rw [firstFlaw_cons, or_iff_right (sound ending), and_iff_right sound]

theorem FirstFlaw.unique {other : Ending} (one : FirstFlaw isNumber groups ending)
    (two : FirstFlaw isNumber groups other) : ending = other := by
  induction groups with
  | nil =>
      obtain ⟨before, flawed, after, split, -⟩ := one
      simp at split
  | cons group groups induction =>
      rcases firstFlaw_cons.mp one with flaw | ⟨sound, one⟩
      · exact (firstFlaw_cons_of_flaw flaw).mp two
      · exact induction one ((firstFlaw_cons_of_sound sound).mp two)

theorem FirstFlaw.not_flawless (first : FirstFlaw isNumber groups ending) :
    ¬Flawless isNumber groups := by
  obtain ⟨before, flawed, after, rfl, -, flaw⟩ := first
  exact fun sound => sound flawed (by simp) ending flaw

/-- Groups without a flaw that arguments spell are complete. -/
theorem Spelled.isComplete_of_flawless {spellings : Setting → List String}
    {arguments : List String} (spelled : Spelled spellings arguments groups)
    (sound : Flawless isNumber groups) : ∀ group ∈ groups, group.IsComplete spellings := by
  intro group member
  refine spelled.isComplete member ?_ ?_
  · rintro spelling rfl
    exact sound _ member _ (.help spelling)
  · rintro spelling rfl
    exact sound _ member _ (.unvalued spelling)

/-- Groups that were without a flaw still are in another order. -/
theorem Reordered.flawless [DecidableEq Setting] {others : List (Group Setting)}
    (same : Reordered groups others) (sound : Flawless isNumber groups) :
    Flawless isNumber others :=
  fun group member => sound group (same.perm.mem_iff.mpr member)

/-- Groups that were without a flaw are spelled in any order. -/
theorem Reordered.spelled [DecidableEq Setting] {spellings : Setting → List String}
    {arguments : List String} {others : List (Group Setting)} (same : Reordered groups others)
    (spelled : Spelled spellings arguments groups) (sound : Flawless isNumber groups) :
    Spelled spellings (others.flatMap Group.arguments) others :=
  spelled_flatMap_arguments fun group member =>
    spelled.isComplete_of_flawless sound group (same.perm.mem_iff.mpr member)

/-! ## What is read -/

/-- An option is refused exactly for a flaw. -/
def RefusesFlaws (apply : Apply Setting) (isNumber : Setting → Prop) : Prop :=
  ∀ setting spelling value config error, apply setting spelling value config = .error error ↔
    Flaw isNumber (.setting setting spelling value) (.invalid error)

variable {apply : Apply Setting} {config after : Config} {found texts : List String}

theorem RefusesFlaws.sound_of_ok (refuses : RefusesFlaws apply isNumber) {setting : Setting}
    {spelling value : String} (applied : apply setting spelling value config = .ok after) :
    ∀ ending, ¬Flaw isNumber (.setting setting spelling value) ending := by
  intro ending flaw
  cases flaw with
  | noNumber due unread =>
      have refused := (refuses setting spelling value config _).mpr (.noNumber due unread)
      rw [applied] at refused
      cases refused

/-- Reading ends at the first flaw. -/
theorem readGroups_eq_error_iff (refuses : RefusesFlaws apply isNumber) :
    readGroups apply config found groups = .error ending ↔
      FirstFlaw isNumber groups ending := by
  fun_induction readGroups apply config found groups with
  | case1 config found => simp [FirstFlaw]
  | case2 config found text rest induction =>
      rw [firstFlaw_cons_of_sound fun _ => not_flaw_positional text]
      exact induction
  | case3 config found spelling rest =>
      rw [firstFlaw_cons_of_flaw (.help spelling), Except.error.injEq]
  | case4 config found spelling rest =>
      rw [firstFlaw_cons_of_flaw (.unvalued spelling), Except.error.injEq]
  | case5 config found setting spelling value rest next applied induction =>
      rw [firstFlaw_cons_of_sound (refuses.sound_of_ok applied)]
      exact induction
  | case6 config found setting spelling value rest error refused =>
      have flaw := (refuses setting spelling value config error).mp refused
      rw [firstFlaw_cons_of_flaw flaw, Except.error.injEq]

/-- What is read has no flaw, and its positional arguments stay in order. -/
theorem readGroups_eq_ok (refuses : RefusesFlaws apply isNumber)
    (read : readGroups apply config found groups = .ok (after, texts)) :
    Flawless isNumber groups ∧ texts = found ++ positionals groups := by
  fun_induction readGroups apply config found groups with
  | case1 config found =>
      cases read
      exact ⟨List.forall_mem_nil _, (List.append_nil _).symm⟩
  | case2 config found text rest induction =>
      obtain ⟨sound, rfl⟩ := induction read
      refine ⟨flawless_cons.mpr ⟨fun _ => not_flaw_positional text, sound⟩, ?_⟩
      exact List.append_assoc found [text] _
  | case3 => cases read
  | case4 => cases read
  | case5 config found setting spelling value rest next applied induction =>
      obtain ⟨sound, rfl⟩ := induction read
      exact ⟨flawless_cons.mpr ⟨refuses.sound_of_ok applied, sound⟩, rfl⟩
  | case6 => cases read

section

variable {Options : Type} {conclude : Config × List String → Except Ending Options}

/-- Groups without a flaw are read. -/
theorem exists_read_of_flawless (refuses : RefusesFlaws apply isNumber)
    (sound : Flawless isNumber groups) (config : Config) :
    ∃ after, readGroups apply config [] groups = .ok (after, positionals groups) := by
  cases read : readGroups apply config [] groups with
  | error ending => exact absurd sound ((readGroups_eq_error_iff refuses).mp read).not_flawless
  | ok result =>
      obtain ⟨after, texts⟩ := result
      obtain ⟨-, rfl⟩ := readGroups_eq_ok refuses read
      exact ⟨after, rfl⟩

/-- Groups without a flaw give what is concluded from all of them. -/
theorem bind_readGroups_eq_ok_iff (refuses : RefusesFlaws apply isNumber) {options : Options} :
    (readGroups apply config [] groups).bind conclude = .ok options ↔
      Flawless isNumber groups ∧
        ∃ after, readGroups apply config [] groups = .ok (after, positionals groups) ∧
          conclude (after, positionals groups) = .ok options := by
  cases read : readGroups apply config [] groups with
  | error ending => simp [Except.bind]
  | ok result =>
      obtain ⟨after, texts⟩ := result
      obtain ⟨sound, rfl⟩ := readGroups_eq_ok refuses read
      simp [Except.bind, sound]

/-- Groups are refused for the first flaw, or for what is concluded from all of them. -/
theorem bind_readGroups_eq_error_iff (refuses : RefusesFlaws apply isNumber) {ending : Ending} :
    (readGroups apply config [] groups).bind conclude = .error ending ↔
      FirstFlaw isNumber groups ending ∨
        Flawless isNumber groups ∧
          ∃ after, readGroups apply config [] groups = .ok (after, positionals groups) ∧
            conclude (after, positionals groups) = .error ending := by
  cases read : readGroups apply config [] groups with
  | error cause =>
      have first := (readGroups_eq_error_iff refuses).mp read
      simp only [Except.bind, Except.error.injEq, first.not_flawless, false_and, or_false]
      exact ⟨fun same => same ▸ first, first.unique⟩
  | ok result =>
      obtain ⟨after, texts⟩ := result
      obtain ⟨sound, rfl⟩ := readGroups_eq_ok refuses read
      have unflawed : ¬FirstFlaw isNumber groups ending := fun first => first.not_flawless sound
      simp [Except.bind, sound, unflawed]

end

/-! ## The last use of an option -/

/-- A value is what the last of some texts means, and without any the usual one. -/
def Chosen {α : Type} (texts : List String) (Means : String → α → Prop) (usual value : α) : Prop :=
  match texts.getLast? with
  | some text => Means text value
  | none => value = usual

theorem Chosen.unique {α : Type} {texts : List String} {Means : String → α → Prop}
    {usual one two : α} (functional : ∀ text one two, Means text one → Means text two → one = two)
    (left : Chosen texts Means usual one) (right : Chosen texts Means usual two) : one = two := by
  rw [Chosen] at left right
  cases last : texts.getLast? with
  | none =>
      rw [last] at left right
      exact left.trans right.symm
  | some text =>
      rw [last] at left right
      exact functional text one two left right

/--
A part of the configuration that one option sets, and no other option touches, is in the end what
the last use of that option sets.
-/
theorem readGroups_chosen [DecidableEq Setting] {α : Type} {setting : Setting}
    (part : Config → α) (Means : String → α → Prop)
    (own : ∀ spelling value config next,
      apply setting spelling value config = .ok next → Means value (part next))
    (others : ∀ other spelling value config next, other ≠ setting →
      apply other spelling value config = .ok next → part next = part config)
    (read : readGroups apply config found groups = .ok (after, texts)) :
    Chosen (uses setting groups) Means (part config) (part after) := by
  fun_induction readGroups apply config found groups with
  | case1 => cases read; rfl
  | case2 config found text rest induction => exact induction read
  | case3 => cases read
  | case4 => cases read
  | case5 config found used spelling value rest next applied induction =>
      have later := induction read
      by_cases same : used = setting
      · subst same
        have meant := own spelling value config next applied
        rw [Chosen] at later ⊢
        rw [uses_cons_self]
        cases last : (uses used rest).getLast? with
        | none =>
            rw [last] at later
            rw [List.getLast?_eq_none_iff.mp last]
            exact later ▸ meant
        | some text =>
            rw [last] at later
            rw [List.getLast?_cons, last]
            exact later
      · rw [others used spelling value config next same applied] at later
        rw [uses_cons_of_ne spelling value rest same]
        exact later
  | case6 => cases read

/-- A part of the configuration that no option touches stays as it is. -/
theorem readGroups_untouched {α : Type} (part : Config → α)
    (untouched : ∀ setting spelling value config next,
      apply setting spelling value config = .ok next → part next = part config)
    (read : readGroups apply config found groups = .ok (after, texts)) :
    part after = part config := by
  fun_induction readGroups apply config found groups with
  | case1 => cases read; rfl
  | case2 config found text rest induction => exact induction read
  | case3 => cases read
  | case4 => cases read
  | case5 config found used spelling value rest next applied induction =>
      rw [induction read, untouched used spelling value config next applied]
  | case6 => cases read

end CommandLine

end FilePush
