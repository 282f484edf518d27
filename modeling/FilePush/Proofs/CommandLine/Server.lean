import FilePush.CommandLine.Server
import FilePush.Proofs.CommandLine.Reading

/-!
# Reading the server's command line

The server accepts one positional argument, which spells its port.  Its options are the uploads
directory and three numbers.
-/

namespace FilePush

namespace CommandLine

namespace Server

/-- The spellings of the options. -/
def spellings : Setting → List String
  | .uploadsDirectory => ["--uploads-dir", "-d"]
  | .maxConnections => ["--max-connections", "-m"]
  | .bufferSize => ["--buffer-size"]
  | .sampleInterval => ["--sample-interval"]

theorem recognises : Recognises recognise spellings where
  option_iff text setting := by
    unfold recognise
    split <;> cases setting <;> simp_all [spellings]
  help_iff text := by
    unfold recognise
    split <;> simp_all [helpSpellings]

/-- What stands after an option is its value, even if it would ask for help elsewhere. -/
example : groups recognise ["-d", "--help", "9000"] =
    [.setting .uploadsDirectory "-d" "--help", .positional "9000"] := by
  decide

/-- Whether an option takes a number. -/
def TakesNumber (setting : Setting) : Prop := setting ≠ .uploadsDirectory

/-- Every part of the configuration is what the last use of its option says, or the usual one. -/
structure Configured (groups : List (Group Setting)) (config : Config) : Prop where
  /-- The buffer size is as spelled. -/
  bufferSize : Chosen (uses .bufferSize groups) (Numeral.Spells numberLimit)
    Config.defaultBufferSize config.bufferSize
  /-- The sampling interval is spelled in seconds. -/
  sampleInterval : Chosen (uses .sampleInterval groups)
    (fun text interval => ∃ seconds, Numeral.Spells numberLimit text seconds ∧
      interval = seconds * nanosPerSecond)
    (Config.defaultSampleSeconds * nanosPerSecond) config.sampleInterval
  /-- The uploads directory is as spelled. -/
  uploadsDirectory : Chosen (uses .uploadsDirectory groups)
    (fun text directory => directory = Path.ofString text)
    (Path.ofString Config.defaultUploadsDirectory) config.uploadsDirectory
  /-- The limit of connections is as spelled, but one at least. -/
  maxConnections : Chosen (uses .maxConnections groups)
    (fun text limit => ∃ number, Numeral.Spells numberLimit text number ∧
      limit = some (max number 1))
    none config.maxConnections
  /-- No option sets the limit of file names. -/
  maxFilenameLength : config.maxFilenameLength = Config.defaultMaxFilenameLength

/-- Groups that the server accepts, and the options that they give. -/
structure Accepted (groups : List (Group Setting)) (options : Options) : Prop where
  /-- No group is wrong by itself. -/
  flawless : Flawless TakesNumber groups
  /-- The one positional argument spells the port. -/
  address : ∃ text port, positionals groups = [text] ∧
    Numeral.Spells 65535 text (UInt16.toNat port) ∧ options.address = .v4 #v[0, 0, 0, 0] port
  /-- The options give the configuration. -/
  config : Configured groups options.config

/-- Why the server refuses groups. -/
inductive Refused (groups : List (Group Setting)) : Ending → Prop
  /-- A group is wrong by itself, and none before it. -/
  | flawed {ending : Ending} (first : FirstFlaw TakesNumber groups ending) : Refused groups ending
  /-- There is not exactly one positional argument. -/
  | wrongCount (sound : Flawless TakesNumber groups) (count : (positionals groups).length ≠ 1) :
      Refused groups (.invalid .wrongCount)
  /-- The positional argument spells no port. -/
  | noPort {text : String} (sound : Flawless TakesNumber groups)
      (sole : positionals groups = [text])
      (unread : ∀ port, ¬Numeral.Spells 65535 text port) :
      Refused groups (.invalid (.invalidPort text))

theorem refusesFlaws : RefusesFlaws apply TakesNumber := by
  intro setting spelling value config error
  rw [flaw_setting_iff]
  cases setting with
  | uploadsDirectory => simp [apply, TakesNumber]
  | maxConnections | bufferSize | sampleInterval =>
      rw [apply, map_number_eq_error_iff]
      simp [TakesNumber]

/-- What an option makes of a configuration. -/
inductive Sets (value : String) (config : Config) : Setting → Config → Prop
  /-- It names the uploads directory. -/
  | uploadsDirectory :
      Sets value config .uploadsDirectory { config with uploadsDirectory := .ofString value }
  /-- It limits the connections, to one at least. -/
  | maxConnections {limit : Nat} (spells : Numeral.Spells numberLimit value limit) :
      Sets value config .maxConnections { config with maxConnections := some (max limit 1) }
  /-- It gives the buffer size. -/
  | bufferSize {bufferSize : Nat} (spells : Numeral.Spells numberLimit value bufferSize) :
      Sets value config .bufferSize { config with bufferSize }
  /-- It gives the sampling interval, in seconds. -/
  | sampleInterval {seconds : Nat} (spells : Numeral.Spells numberLimit value seconds) :
      Sets value config .sampleInterval { config with sampleInterval := seconds * nanosPerSecond }

theorem sets_of_apply {setting : Setting} {spelling value : String} {config next : Config}
    (applied : apply setting spelling value config = .ok next) :
    Sets value config setting next := by
  cases setting with
  | uploadsDirectory =>
      cases applied
      exact .uploadsDirectory
  | maxConnections =>
      obtain ⟨limit, spells, rfl⟩ := (map_number_eq_ok_iff _).mp applied
      exact .maxConnections spells
  | bufferSize =>
      obtain ⟨bufferSize, spells, rfl⟩ := (map_number_eq_ok_iff _).mp applied
      exact .bufferSize spells
  | sampleInterval =>
      obtain ⟨seconds, spells, rfl⟩ := (map_number_eq_ok_iff _).mp applied
      exact .sampleInterval spells

/-- The configuration that is read is as the grammar says. -/
theorem configured_of_read {groups : List (Group Setting)} {config : Config}
    {texts : List String} (read : readGroups apply .standard [] groups = .ok (config, texts)) :
    Configured groups config where
  bufferSize := by
    refine readGroups_chosen (·.bufferSize) _ ?_ ?_ read
    · intro spelling value config next applied
      cases sets_of_apply applied with
      | bufferSize spells => exact spells
    · intro other spelling value config next different applied
      cases sets_of_apply applied with
      | bufferSize => exact absurd rfl different
      | _ => rfl
  sampleInterval := by
    refine readGroups_chosen (·.sampleInterval) _ ?_ ?_ read
    · intro spelling value config next applied
      cases sets_of_apply applied with
      | sampleInterval spells => exact ⟨_, spells, rfl⟩
    · intro other spelling value config next different applied
      cases sets_of_apply applied with
      | sampleInterval => exact absurd rfl different
      | _ => rfl
  uploadsDirectory := by
    refine readGroups_chosen (·.uploadsDirectory) _ ?_ ?_ read
    · intro spelling value config next applied
      cases sets_of_apply applied with
      | uploadsDirectory => rfl
    · intro other spelling value config next different applied
      cases sets_of_apply applied with
      | uploadsDirectory => exact absurd rfl different
      | _ => rfl
  maxConnections := by
    refine readGroups_chosen (·.maxConnections) _ ?_ ?_ read
    · intro spelling value config next applied
      cases sets_of_apply applied with
      | maxConnections spells => exact ⟨_, spells, rfl⟩
    · intro other spelling value config next different applied
      cases sets_of_apply applied with
      | maxConnections => exact absurd rfl different
      | _ => rfl
  maxFilenameLength := by
    refine readGroups_untouched (·.maxFilenameLength) ?_ read
    intro setting spelling value config next applied
    cases sets_of_apply applied <;> rfl

/-- Groups configure a server in one way. -/
theorem Configured.unique {groups : List (Group Setting)} {one two : Config}
    (left : Configured groups one) (right : Configured groups two) : one = two := by
  have spelled_once (text : String) (one two : Nat)
      (left : Numeral.Spells numberLimit text one)
      (right : Numeral.Spells numberLimit text two) : one = two := left.unique right
  have bufferSize := left.bufferSize.unique spelled_once right.bufferSize
  have sampleInterval := left.sampleInterval.unique (by
    rintro text _ _ ⟨one, left, rfl⟩ ⟨two, right, rfl⟩
    rw [left.unique right]) right.sampleInterval
  have uploadsDirectory := left.uploadsDirectory.unique (by
    rintro text _ _ rfl rfl
    rfl) right.uploadsDirectory
  have maxConnections := left.maxConnections.unique (by
    rintro text _ _ ⟨one, left, rfl⟩ ⟨two, right, rfl⟩
    rw [left.unique right]) right.maxConnections
  have maxFilenameLength := left.maxFilenameLength.trans right.maxFilenameLength.symm
  cases one
  cases two
  congr

/-- What the server concludes from its configuration and its positional arguments. -/
def conclude : Config × List String → Except Ending Options
  | (config, [portText]) => (port portText).map fun port => ⟨.ofIp everyInterface port, config⟩
  | _ => .error (.invalid .wrongCount)

theorem parseWords_eq (words : Array String) :
    parseWords words =
      (readGroups apply .standard [] (groups recognise words.toList.tail)).bind conclude := by
  rw [parseWords, read_eq]
  rcases readGroups apply .standard [] (groups recognise words.toList.tail) with
    ending | ⟨config, texts⟩
  · rfl
  · match texts with
    | [] => rfl
    | [text] =>
        simp only [Except.bind, conclude]
        cases port text <;> rfl
    | first :: second :: rest => rfl

theorem conclude_eq_ok_iff {config : Config} {texts : List String} {options : Options} :
    conclude (config, texts) = .ok options ↔
      ∃ text port, texts = [text] ∧ Numeral.Spells 65535 text (UInt16.toNat port) ∧
        options = ⟨.v4 #v[0, 0, 0, 0] port, config⟩ := by
  match texts with
  | [] => exact iff_of_false nofun (by rintro ⟨_, _, ⟨⟩, _⟩)
  | first :: second :: rest => exact iff_of_false nofun (by rintro ⟨_, _, ⟨⟩, _⟩)
  | [text] =>
      rw [conclude, map_port_eq_ok_iff]
      constructor
      · rintro ⟨port, spells, rfl⟩
        exact ⟨text, port, rfl, spells, rfl⟩
      · rintro ⟨_, port, ⟨⟩, spells, rfl⟩
        exact ⟨port, spells, rfl⟩

theorem conclude_eq_error_iff {config : Config} {texts : List String} {ending : Ending} :
    conclude (config, texts) = .error ending ↔
      texts.length ≠ 1 ∧ ending = .invalid .wrongCount ∨
        ∃ text, texts = [text] ∧ (∀ port, ¬Numeral.Spells 65535 text port) ∧
          ending = .invalid (.invalidPort text) := by
  match texts with
  | [] => simp [conclude, eq_comm]
  | first :: second :: rest => simp [conclude, eq_comm]
  | [text] =>
      rw [conclude, map_port_eq_error_iff]
      simp

theorem parseWords_eq_ok_iff {words : Array String} {options : Options} :
    parseWords words = .ok options ↔ Accepted (groups recognise words.toList.tail) options := by
  rw [parseWords_eq, bind_readGroups_eq_ok_iff refusesFlaws]
  constructor
  · rintro ⟨sound, config, read, concluded⟩
    obtain ⟨text, port, sole, spells, rfl⟩ := conclude_eq_ok_iff.mp concluded
    exact ⟨sound, ⟨text, port, sole, spells, rfl⟩, configured_of_read read⟩
  · rintro ⟨sound, ⟨text, port, sole, spells, address⟩, configured⟩
    obtain ⟨config, read⟩ := exists_read_of_flawless refusesFlaws sound .standard
    obtain rfl := (configured_of_read read).unique configured
    exact ⟨sound, _, read,
      conclude_eq_ok_iff.mpr ⟨text, port, sole, spells, by rw [← address]⟩⟩

theorem parseWords_eq_error_iff {words : Array String} {ending : Ending} :
    parseWords words = .error ending ↔ Refused (groups recognise words.toList.tail) ending := by
  rw [parseWords_eq, bind_readGroups_eq_error_iff refusesFlaws]
  simp only [conclude_eq_error_iff]
  constructor
  · rintro (first | ⟨sound, config, -, ⟨count, rfl⟩ | ⟨text, sole, unread, rfl⟩⟩)
    · exact .flawed first
    · exact .wrongCount sound count
    · exact .noPort sound sole unread
  · rintro (first | ⟨sound, count⟩ | ⟨sound, sole, unread⟩)
    · exact .inl first
    · obtain ⟨config, read⟩ := exists_read_of_flawless refusesFlaws sound .standard
      exact .inr ⟨sound, config, read, .inl ⟨count, rfl⟩⟩
    · obtain ⟨config, read⟩ := exists_read_of_flawless refusesFlaws sound .standard
      exact .inr ⟨sound, config, read, .inr ⟨_, sole, unread, rfl⟩⟩

theorem parse_eq_ok_iff {arguments : List String} {options : Options} :
    parse arguments = .ok options ↔ Accepted (groups recognise arguments) options :=
  parseWords_eq_ok_iff

theorem Accepted.reordered {groups others : List (Group Setting)} {options : Options}
    (accepted : Accepted groups options) (same : Reordered groups others) :
    Accepted others options where
  flawless := same.flawless accepted.flawless
  address := same.positionals ▸ accepted.address
  config :=
    { bufferSize := same.uses .bufferSize ▸ accepted.config.bufferSize
      sampleInterval := same.uses .sampleInterval ▸ accepted.config.sampleInterval
      uploadsDirectory := same.uses .uploadsDirectory ▸ accepted.config.uploadsDirectory
      maxConnections := same.uses .maxConnections ▸ accepted.config.maxConnections
      maxFilenameLength := accepted.config.maxFilenameLength }

end Server

end CommandLine

end FilePush
