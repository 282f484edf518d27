import FilePush.CommandLine.Basic
import Mathlib.Data.List.Perm.Basic

/-!
# Groups and the arguments that spell them

The arguments of a command line are groups: an option with the argument after it, whatever that
argument looks like, a request for help, or a positional argument.  `Spelled` is the grammar, by the
spellings of each option.  Arguments and groups tell the same: any arguments spell one list of
groups, and this list spells no other arguments.  So groups can be put in another order, and what
they then say is told by the positional arguments and by the uses of each option.
-/

namespace FilePush

namespace CommandLine

/-- A group of arguments. -/
inductive Group (Setting : Type)
  /-- An option as it was spelled, and its value. -/
  | setting (setting : Setting) (spelling value : String)
  /-- An option after which nothing stands. -/
  | unvalued (spelling : String)
  /-- A request for help as it was spelled. -/
  | help (spelling : String)
  /-- A positional argument. -/
  | positional (text : String)
  deriving DecidableEq, Repr

variable {Setting : Type}

/-! ## Groups -/

/-- The positional arguments, in order. -/
def positionals (groups : List (Group Setting)) : List String :=
  groups.filterMap fun
    | .positional text => some text
    | _ => none

/-- The values of an option in its uses, in order. -/
def uses [DecidableEq Setting] (setting : Setting) (groups : List (Group Setting)) :
    List String :=
  groups.filterMap fun
    | .setting used _ value => if used = setting then some value else none
    | _ => none

section

variable [DecidableEq Setting] {setting : Setting} (spelling value : String)
  (groups : List (Group Setting))

theorem uses_cons_self :
    uses setting (.setting setting spelling value :: groups) = value :: uses setting groups :=
  List.filterMap_cons_some (if_pos rfl)

theorem uses_cons_of_ne {used : Setting} (different : used ≠ setting) :
    uses setting (.setting used spelling value :: groups) = uses setting groups :=
  List.filterMap_cons_none (if_neg different)

end

/--
Groups in another order, in which the positional arguments and the uses of each option keep theirs.
-/
structure Reordered [DecidableEq Setting] (before after : List (Group Setting)) : Prop where
  /-- They are the same groups. -/
  perm : before.Perm after
  /-- The positional arguments keep their order. -/
  positionals : positionals after = positionals before
  /-- The uses of an option keep their order. -/
  uses : ∀ setting, uses setting after = uses setting before

/-- The arguments that spell a group. -/
def Group.arguments : Group Setting → List String
  | setting _ spelling value => [spelling, value]
  | unvalued spelling | help spelling => [spelling]
  | positional text => [text]

/-! ## The grammar -/

/-- The spellings of a request for help. -/
def helpSpellings : List String := ["--help", "-h"]

/--
Arguments spell groups, read from left to right: an option takes the argument after it as its value,
and what is neither an option nor a request for help is positional.
-/
inductive Spelled (spellings : Setting → List String) : List String → List (Group Setting) → Prop
  /-- No arguments spell no groups. -/
  | nil : Spelled spellings [] []
  /-- An option takes the argument after it, whatever that is. -/
  | setting {setting : Setting} {spelling : String} (named : spelling ∈ spellings setting)
      (value : String) {arguments : List String} {groups : List (Group Setting)}
      (rest : Spelled spellings arguments groups) :
      Spelled spellings (spelling :: value :: arguments) (.setting setting spelling value :: groups)
  /-- An option that is the last argument has no value. -/
  | unvalued {setting : Setting} {spelling : String} (named : spelling ∈ spellings setting) :
      Spelled spellings [spelling] [.unvalued spelling]
  /-- A request for help stands for itself. -/
  | help {spelling : String} (named : spelling ∈ helpSpellings) {arguments : List String}
      {groups : List (Group Setting)} (rest : Spelled spellings arguments groups) :
      Spelled spellings (spelling :: arguments) (.help spelling :: groups)
  /-- Any other argument is positional. -/
  | positional {text : String} (no_option : ∀ setting, text ∉ spellings setting)
      (no_help : text ∉ helpSpellings) {arguments : List String} {groups : List (Group Setting)}
      (rest : Spelled spellings arguments groups) :
      Spelled spellings (text :: arguments) (.positional text :: groups)

/-- A group that is spelled by itself: an option with its value, or a positional argument. -/
def Group.IsComplete (spellings : Setting → List String) : Group Setting → Prop
  | setting used spelling _ => spelling ∈ spellings used
  | positional text => (∀ setting, text ∉ spellings setting) ∧ text ∉ helpSpellings
  | unvalued _ | help _ => False

variable {spellings : Setting → List String}

section

variable {arguments : List String} {groups : List (Group Setting)}

/-- Groups spell the arguments that they are read from. -/
theorem Spelled.flatMap_arguments (spelled : Spelled spellings arguments groups) :
    groups.flatMap Group.arguments = arguments := by
  induction spelled with
  | nil => rfl
  | @setting setting spelling named value arguments groups rest induction =>
      exact congrArg ([spelling, value] ++ ·) induction
  | unvalued named => rfl
  | @help spelling named arguments groups rest induction =>
      exact congrArg (spelling :: ·) induction
  | @positional text no_option no_help arguments groups rest induction =>
      exact congrArg (text :: ·) induction

/-- Groups that are spelled out are read back. -/
theorem spelled_flatMap_arguments (complete : ∀ group ∈ groups, group.IsComplete spellings) :
    Spelled spellings (groups.flatMap Group.arguments) groups := by
  induction groups with
  | nil => exact .nil
  | cons group rest induction =>
      have later := induction fun other member => complete other (List.mem_cons_of_mem _ member)
      have first := complete group List.mem_cons_self
      rw [List.flatMap_cons]
      cases group with
      | setting setting spelling value => exact .setting first value later
      | unvalued spelling => exact first.elim
      | help spelling => exact first.elim
      | positional text => exact .positional first.1 first.2 later

/-- What arguments spell is complete, unless it asks for help or lacks a value. -/
theorem Spelled.isComplete {group : Group Setting} (spelled : Spelled spellings arguments groups)
    (member : group ∈ groups) (no_help : ∀ spelling, group ≠ .help spelling)
    (valued : ∀ spelling, group ≠ .unvalued spelling) : group.IsComplete spellings := by
  induction spelled with
  | nil => simp at member
  | setting named value rest induction =>
      rcases List.mem_cons.mp member with rfl | later
      · exact named
      · exact induction later
  | unvalued named => exact absurd (List.mem_singleton.mp member) (valued _)
  | help named rest induction =>
      exact induction ((List.mem_cons.mp member).resolve_left (no_help _))
  | positional no_option unhelped rest induction =>
      rcases List.mem_cons.mp member with rfl | later
      · exact ⟨no_option, unhelped⟩
      · exact induction later

end

/-! ## Reading arguments as groups -/

/-- The groups of a list of arguments. -/
def groups {Setting : Type} (recognise : String → Argument Setting) :
    List String → List (Group Setting)
  | [] => []
  | [argument] =>
      match recognise argument with
      | .option _ => [.unvalued argument]
      | .help => [.help argument]
      | .positional => [.positional argument]
  | argument :: value :: rest =>
      match recognise argument with
      | .option setting => .setting setting argument value :: groups recognise rest
      | .help => .help argument :: groups recognise (value :: rest)
      | .positional => .positional argument :: groups recognise (value :: rest)

variable {recognise : String → Argument Setting}

theorem groups_option {setting : Setting} {spelling : String}
    (recognised : recognise spelling = .option setting) (value : String) (rest : List String) :
    groups recognise (spelling :: value :: rest) =
      .setting setting spelling value :: groups recognise rest := by
  rw [groups, recognised]

theorem groups_unvalued {setting : Setting} {spelling : String}
    (recognised : recognise spelling = .option setting) :
    groups recognise [spelling] = [.unvalued spelling] := by
  rw [groups, recognised]

theorem groups_help {spelling : String} (recognised : recognise spelling = .help)
    (rest : List String) :
    groups recognise (spelling :: rest) =
      .help spelling :: groups recognise rest := by
  cases rest <;> simp only [groups, recognised]

theorem groups_positional {text : String} (recognised : recognise text = .positional)
    (rest : List String) :
    groups recognise (text :: rest) =
      .positional text :: groups recognise rest := by
  cases rest <;> simp only [groups, recognised]

/-- An argument is recognised by the spellings of the options and of a request for help. -/
structure Recognises (recognise : String → Argument Setting) (spellings : Setting → List String) :
    Prop where
  /-- The options are recognised by their spellings. -/
  option_iff : ∀ text setting, recognise text = .option setting ↔ text ∈ spellings setting
  /-- A request for help is recognised by its spellings. -/
  help_iff : ∀ text, recognise text = .help ↔ text ∈ helpSpellings

theorem Recognises.positional_iff (recognises : Recognises recognise spellings) (text : String) :
    recognise text = .positional ↔
      (∀ setting, text ∉ spellings setting) ∧ text ∉ helpSpellings := by
  simp only [← recognises.option_iff, ← recognises.help_iff]
  cases recognise text <;> simp

/-- Arguments spell exactly the groups that they are read as. -/
theorem Recognises.spelled_iff (recognises : Recognises recognise spellings)
    {arguments : List String} {groups : List (Group Setting)} :
    Spelled spellings arguments groups ↔ CommandLine.groups recognise arguments = groups := by
  constructor
  · intro spelled
    induction spelled with
    | nil => rw [CommandLine.groups]
    | setting named value rest induction =>
        rw [groups_option ((recognises.option_iff _ _).mpr named), induction]
    | unvalued named => exact groups_unvalued ((recognises.option_iff _ _).mpr named)
    | help named rest induction =>
        rw [groups_help ((recognises.help_iff _).mpr named), induction]
    | positional no_option no_help rest induction =>
        rw [groups_positional ((recognises.positional_iff _).mpr ⟨no_option, no_help⟩), induction]
  · rintro rfl
    fun_induction CommandLine.groups recognise arguments with
    | case1 => exact .nil
    | case2 argument setting recognised =>
        exact .unvalued ((recognises.option_iff _ _).mp recognised)
    | case3 argument recognised => exact .help ((recognises.help_iff _).mp recognised) .nil
    | case4 argument recognised =>
        obtain ⟨no_option, no_help⟩ := (recognises.positional_iff _).mp recognised
        exact .positional no_option no_help .nil
    | case5 argument value rest setting recognised induction =>
        exact .setting ((recognises.option_iff _ _).mp recognised) value induction
    | case6 argument value rest recognised induction =>
        exact .help ((recognises.help_iff _).mp recognised) induction
    | case7 argument value rest recognised induction =>
        obtain ⟨no_option, no_help⟩ := (recognises.positional_iff _).mp recognised
        exact .positional no_option no_help induction

end CommandLine

end FilePush
