import FilePush.Proofs.CommandLine.Client
import FilePush.Proofs.CommandLine.Server

/-!
# The grammar of the command lines

Both programs read their command lines by a grammar of groups.  A command line is accepted if none
of its groups is wrong by itself, the number of its positional arguments is right, and these spell
what they stand for.  Every part of the configuration is then what the last use of its option sets,
so groups may stand in any order that keeps the positional arguments and the uses of each option.
-/

namespace FilePush

namespace CommandLine

/--
The words of a program's command line, of which the first is the program's name, are read by its
grammar: it says which groups are accepted and what they give, and which are refused and why.
Groups in another order give the same.
-/
structure ReadsExactly {Setting Options : Type} [DecidableEq Setting]
    (spellings : Setting → List String) (parseWords : Array String → Except Ending Options)
    (Accepted : List (Group Setting) → Options → Prop)
    (Refused : List (Group Setting) → Ending → Prop) : Prop where
  /-- Any arguments spell groups, and in one way only. -/
  grouped : ∀ arguments, ∃! groups, Spelled spellings arguments groups
  /-- Groups tell all of the arguments that spell them. -/
  flattened : ∀ arguments groups, Spelled spellings arguments groups →
    groups.flatMap Group.arguments = arguments
  /-- Exactly what the grammar accepts gives options. -/
  accepts_iff : ∀ words groups options, Spelled spellings words.toList.tail groups →
    (parseWords words = .ok options ↔ Accepted groups options)
  /-- Exactly what the grammar refuses gives none. -/
  refuses_iff : ∀ words groups ending, Spelled spellings words.toList.tail groups →
    (parseWords words = .error ending ↔ Refused groups ending)
  /-- The order of the groups does not matter. -/
  reordered : ∀ words groups options others program, Spelled spellings words.toList.tail groups →
    parseWords words = .ok options → Reordered groups others →
      Spelled spellings (others.flatMap Group.arguments) others ∧
        parseWords (program :: others.flatMap Group.arguments).toArray = .ok options

/-- What is said of groups without regard to their order holds of them in any order. -/
theorem readsExactly_of_iff {Setting Options : Type} [DecidableEq Setting]
    {isNumber : Setting → Prop} {recognise : String → Argument Setting}
    {spellings : Setting → List String} {parseWords : Array String → Except Ending Options}
    {Accepted : List (Group Setting) → Options → Prop}
    {Refused : List (Group Setting) → Ending → Prop}
    (recognises : Recognises recognise spellings)
    (accepts_iff : ∀ words options, parseWords words = .ok options ↔
      Accepted (groups recognise words.toList.tail) options)
    (refuses_iff : ∀ words ending, parseWords words = .error ending ↔
      Refused (groups recognise words.toList.tail) ending)
    (sound : ∀ groups options, Accepted groups options → Flawless isNumber groups)
    (keeps : ∀ groups options others, Accepted groups options → Reordered groups others →
      Accepted others options) :
    ReadsExactly spellings parseWords Accepted Refused where
  grouped arguments :=
    ⟨groups recognise arguments, recognises.spelled_iff.mpr rfl,
      fun _ spelled => (recognises.spelled_iff.mp spelled).symm⟩
  flattened _ _ spelled := spelled.flatMap_arguments
  accepts_iff words groups options spelled := by
    rw [accepts_iff, recognises.spelled_iff.mp spelled]
  refuses_iff words groups ending spelled := by
    rw [refuses_iff, recognises.spelled_iff.mp spelled]
  reordered words groups options others program spelled parsed same := by
    have accepted : Accepted groups options := by
      rwa [accepts_iff, recognises.spelled_iff.mp spelled] at parsed
    have spelled_back := same.spelled spelled (sound groups options accepted)
    refine ⟨spelled_back, (accepts_iff _ _).mpr ?_⟩
    rw [List.tail_cons, recognises.spelled_iff.mp spelled_back]
    exact keeps groups options others accepted same

/--
The server and the client accept exactly the command lines of their grammars, refuse the others for
their first fault, and give the same options for the groups in any other order that keeps the
positional arguments and the uses of each option.
-/
theorem command_lines_read_exactly :
    ReadsExactly Server.spellings Server.parseWords Server.Accepted Server.Refused ∧
      ReadsExactly Client.spellings Client.parseWords Client.Accepted Client.Refused :=
  ⟨readsExactly_of_iff Server.recognises (fun _ _ => Server.parseWords_eq_ok_iff)
      (fun _ _ => Server.parseWords_eq_error_iff) (fun _ _ accepted => accepted.flawless)
      fun _ _ _ accepted => accepted.reordered,
    readsExactly_of_iff Client.recognises (fun _ _ => Client.parseWords_eq_ok_iff)
      (fun _ _ => Client.parseWords_eq_error_iff) (fun _ _ accepted => accepted.flawless)
      fun _ _ _ accepted => accepted.reordered⟩

end CommandLine

end FilePush
