import FilePush.CommandLine.Client
import FilePush.Proofs.CommandLine.Reading

/-!
# Reading the client's command line

The client accepts three positional arguments, which stand for a file, an address and a port.  Its
only option is the buffer size.
-/

namespace FilePush

namespace CommandLine

namespace Client

/-- The spellings of the option. -/
def spellings : Setting → List String
  | .bufferSize => ["--buffer-size", "-b"]

theorem recognises : Recognises recognise spellings where
  option_iff text setting := by
    unfold recognise
    split <;> cases setting <;> simp_all [spellings]
  help_iff text := by
    unfold recognise
    split <;> simp_all [helpSpellings]

/-- The buffer size is what the last use of its option says; no option sets anything else. -/
structure Configured (groups : List (Group Setting)) (config : Config) : Prop where
  /-- The buffer size is as spelled. -/
  bufferSize : Chosen (uses .bufferSize groups) (Numeral.Spells numberLimit)
    Config.defaultBufferSize config.bufferSize
  /-- The rest is as usual. -/
  rest : config = { Config.standard with bufferSize := config.bufferSize }

/-- Groups that the client accepts, and the options that they give. -/
structure Accepted (groups : List (Group Setting)) (options : Options) : Prop where
  /-- No group is wrong by itself; every option takes a number. -/
  flawless : Flawless (fun _ => True) groups
  /-- The three positional arguments spell the file, the address and the port. -/
  positionals : ∃ file ip portText address port, positionals groups = [file, ip, portText] ∧
    options.file = .ofString file ∧ IpAddress.parse? ip = some address ∧
    Numeral.Spells 65535 portText (UInt16.toNat port) ∧ options.address = .ofIp address port
  /-- The options give the configuration. -/
  config : Configured groups options.config

/-- Why the client refuses groups. -/
inductive Refused (groups : List (Group Setting)) : Ending → Prop
  /-- A group is wrong by itself, and none before it. -/
  | flawed {ending : Ending} (first : FirstFlaw (fun _ => True) groups ending) :
      Refused groups ending
  /-- There are not exactly three positional arguments. -/
  | wrongCount (sound : Flawless (fun _ => True) groups)
      (count : (CommandLine.positionals groups).length ≠ 3) : Refused groups (.invalid .wrongCount)
  /-- The second positional argument spells no address. -/
  | noAddress {file ip portText : String} (sound : Flawless (fun _ => True) groups)
      (three : CommandLine.positionals groups = [file, ip, portText])
      (unread : IpAddress.parse? ip = none) : Refused groups (.invalid (.invalidAddress ip))
  /-- The second spells an address, but the third spells no port. -/
  | noPort {file ip portText : String} {address : IpAddress}
      (sound : Flawless (fun _ => True) groups)
      (three : CommandLine.positionals groups = [file, ip, portText])
      (spelled : IpAddress.parse? ip = some address)
      (unread : ∀ port, ¬Numeral.Spells 65535 portText port) :
      Refused groups (.invalid (.invalidPort portText))

theorem refusesFlaws : RefusesFlaws apply fun _ => True := by
  intro setting spelling value config error
  rw [flaw_setting_iff, apply, map_number_eq_error_iff, true_and]

/-- The configuration that is read is as the grammar says. -/
theorem configured_of_read {groups : List (Group Setting)} {config : Config}
    {texts : List String} (read : readGroups apply .standard [] groups = .ok (config, texts)) :
    Configured groups config where
  bufferSize := by
    refine readGroups_chosen (·.bufferSize) _ ?_ ?_ read
    · intro spelling value config next applied
      obtain ⟨bufferSize, spells, rfl⟩ := (map_number_eq_ok_iff _).mp applied
      exact spells
    · intro other spelling value config next different applied
      cases other
      exact absurd rfl different
  rest := by
    have rest := readGroups_untouched (fun config => { config with bufferSize := 0 })
      (by
        intro setting spelling value config next applied
        obtain ⟨bufferSize, -, rfl⟩ := (map_number_eq_ok_iff _).mp applied
        rfl) read
    exact congrArg (fun other => { other with bufferSize := config.bufferSize }) rest

/-- Groups configure a client in one way. -/
theorem Configured.unique {groups : List (Group Setting)} {one two : Config}
    (left : Configured groups one) (right : Configured groups two) : one = two := by
  have bufferSize := left.bufferSize.unique (fun _ _ _ one two => one.unique two) right.bufferSize
  rw [left.rest, right.rest, bufferSize]

/-- What the client concludes from its configuration and its positional arguments. -/
def conclude : Config × List String → Except Ending Options
  | (config, [file, ip, portText]) =>
      match IpAddress.parse? ip with
      | none => .error (.invalid (.invalidAddress ip))
      | some address =>
          (port portText).map fun port => ⟨.ofString file, .ofIp address port, config⟩
  | _ => .error (.invalid .wrongCount)

theorem parseWords_eq (words : Array String) :
    parseWords words =
      (readGroups apply .standard [] (groups recognise words.toList.tail)).bind conclude := by
  rw [parseWords, read_eq]
  rcases readGroups apply .standard [] (groups recognise words.toList.tail) with
    ending | ⟨config, texts⟩
  · rfl
  · match texts with
    | [] | [_] | [_, _] => rfl
    | [file, ip, portText] =>
        simp only [Except.bind, conclude]
        cases IpAddress.parse? ip with
        | none => rfl
        | some address => cases port portText <;> rfl
    | _ :: _ :: _ :: _ :: _ => rfl

theorem conclude_eq_ok_iff {config : Config} {texts : List String} {options : Options} :
    conclude (config, texts) = .ok options ↔
      ∃ file ip portText address port, texts = [file, ip, portText] ∧
        IpAddress.parse? ip = some address ∧
        Numeral.Spells 65535 portText (UInt16.toNat port) ∧
        options = ⟨.ofString file, .ofIp address port, config⟩ := by
  match texts with
  | [] | [_] | [_, _] | _ :: _ :: _ :: _ :: _ =>
      exact iff_of_false nofun (by rintro ⟨_, _, _, _, _, ⟨⟩, _⟩)
  | [file, ip, portText] =>
      rw [conclude]
      cases spelled : IpAddress.parse? ip with
      | none =>
          refine iff_of_false nofun ?_
          rintro ⟨_, _, _, address, port, ⟨⟩, other, -⟩
          simp [spelled] at other
      | some address =>
          simp only [map_port_eq_ok_iff]
          constructor
          · rintro ⟨port, spells, rfl⟩
            exact ⟨file, ip, portText, address, port, rfl, spelled, spells, rfl⟩
          · rintro ⟨_, _, _, other, port, ⟨⟩, same, spells, rfl⟩
            obtain rfl := Option.some.inj (spelled.symm.trans same)
            exact ⟨port, spells, rfl⟩

theorem conclude_eq_error_iff {config : Config} {texts : List String} {ending : Ending} :
    conclude (config, texts) = .error ending ↔
      texts.length ≠ 3 ∧ ending = .invalid .wrongCount ∨
        ∃ file ip portText, texts = [file, ip, portText] ∧
          (IpAddress.parse? ip = none ∧ ending = .invalid (.invalidAddress ip) ∨
            (∃ address, IpAddress.parse? ip = some address) ∧
              (∀ port, ¬Numeral.Spells 65535 portText port) ∧
              ending = .invalid (.invalidPort portText)) := by
  match texts with
  | [] | [_] | [_, _] | _ :: _ :: _ :: _ :: _ =>
      constructor
      · rintro ⟨⟩
        exact .inl ⟨by simp, rfl⟩
      · rintro (⟨-, rfl⟩ | ⟨_, _, _, ⟨⟩, _⟩)
        rfl
  | [file, ip, portText] =>
      rw [conclude]
      cases spelled : IpAddress.parse? ip with
      | none => simp [spelled, eq_comm]
      | some address =>
          simp only [map_port_eq_error_iff]
          simp [spelled]

theorem parseWords_eq_ok_iff {words : Array String} {options : Options} :
    parseWords words = .ok options ↔ Accepted (groups recognise words.toList.tail) options := by
  rw [parseWords_eq, bind_readGroups_eq_ok_iff refusesFlaws]
  constructor
  · rintro ⟨sound, config, read, concluded⟩
    obtain ⟨file, ip, portText, address, port, three, spelled, spells, rfl⟩ :=
      conclude_eq_ok_iff.mp concluded
    exact ⟨sound, ⟨file, ip, portText, address, port, three, rfl, spelled, spells, rfl⟩,
      configured_of_read read⟩
  · rintro ⟨sound, ⟨file, ip, portText, address, port, three, path, spelled, spells, target⟩,
      configured⟩
    obtain ⟨config, read⟩ := exists_read_of_flawless refusesFlaws sound .standard
    obtain rfl := (configured_of_read read).unique configured
    exact ⟨sound, _, read, conclude_eq_ok_iff.mpr
      ⟨file, ip, portText, address, port, three, spelled, spells, by rw [← path, ← target]⟩⟩

theorem parseWords_eq_error_iff {words : Array String} {ending : Ending} :
    parseWords words = .error ending ↔ Refused (groups recognise words.toList.tail) ending := by
  rw [parseWords_eq, bind_readGroups_eq_error_iff refusesFlaws]
  simp only [conclude_eq_error_iff]
  constructor
  · rintro (first | ⟨sound, config, -, ⟨count, rfl⟩ |
      ⟨file, ip, portText, three, ⟨unread, rfl⟩ | ⟨⟨address, spelled⟩, unread, rfl⟩⟩⟩)
    · exact .flawed first
    · exact .wrongCount sound count
    · exact .noAddress sound three unread
    · exact .noPort sound three spelled unread
  · rintro (first | ⟨sound, count⟩ | ⟨sound, three, unread⟩ | ⟨sound, three, spelled, unread⟩)
    · exact .inl first
    · obtain ⟨config, read⟩ := exists_read_of_flawless refusesFlaws sound .standard
      exact .inr ⟨sound, config, read, .inl ⟨count, rfl⟩⟩
    · obtain ⟨config, read⟩ := exists_read_of_flawless refusesFlaws sound .standard
      exact .inr ⟨sound, config, read, .inr ⟨_, _, _, three, .inl ⟨unread, rfl⟩⟩⟩
    · obtain ⟨config, read⟩ := exists_read_of_flawless refusesFlaws sound .standard
      exact .inr ⟨sound, config, read, .inr ⟨_, _, _, three, .inr ⟨⟨_, spelled⟩, unread, rfl⟩⟩⟩

theorem Accepted.reordered {groups others : List (Group Setting)} {options : Options}
    (accepted : Accepted groups options) (same : Reordered groups others) :
    Accepted others options where
  flawless := same.flawless accepted.flawless
  positionals := same.positionals ▸ accepted.positionals
  config :=
    { bufferSize := same.uses .bufferSize ▸ accepted.config.bufferSize
      rest := accepted.config.rest }

end Client

end CommandLine

end FilePush
