import FilePush.Proofs.CommandLine.Server

/-!
# Limits that a command line can exceed

A server cannot run with every configuration.  The permits for its connections are counted in a word
of which three bits are taken, and a buffer has at most half as many bytes as there are addresses.
The command line raises zero to one where one is needed, but it does not look at these limits, so it
accepts numbers that no server can use.  `runnable_iff_of_parse` says which.
-/

namespace FilePush

namespace CommandLine

namespace Server

/-- The greatest number of permits that can be counted. -/
def permitLimit : Nat := numberLimit >>> 3

/-- The greatest number of bytes that a buffer can have. -/
def bufferLimit : Nat := numberLimit >>> 1

/-- There can be as many permits as a configuration asks for, and as long a buffer. -/
structure Runnable (config : Config) : Prop where
  /-- A limit of connections is one at least, and so many permits can be counted. -/
  permits : ∀ limit ∈ config.maxConnections, 1 ≤ limit ∧ limit ≤ permitLimit
  /-- The buffer has one byte at least, and not too many. -/
  buffer : 1 ≤ config.effectiveBufferSize ∧ config.effectiveBufferSize ≤ bufferLimit

/-- The last of some texts, if there is one, spells no number that is greater than a limit. -/
def LastAtMost (limit : Nat) (texts : List String) : Prop :=
  ∀ text ∈ texts.getLast?, ∀ number, Numeral.Spells numberLimit text number → number ≤ limit

theorem lastAtMost_numberLimit (texts : List String) : LastAtMost numberLimit texts :=
  fun _ _ _ spells => spells.le

/-- What is made of a number that was chosen is small exactly if the text spells a small number. -/
theorem small_iff_of_chosen {α : Type} {texts : List String} {Means : String → α → Prop}
    {usual value : α} {limit : Nat} (Small : α → Prop) (usual_small : Small usual)
    (small_iff : ∀ text value, Means text value →
      ∃ number, Numeral.Spells numberLimit text number ∧ (Small value ↔ number ≤ limit))
    (chosen : Chosen texts Means usual value) : Small value ↔ LastAtMost limit texts := by
  rw [Chosen] at chosen
  rw [LastAtMost]
  cases last : texts.getLast? with
  | none =>
      rw [last] at chosen
      exact iff_of_true (chosen ▸ usual_small) fun text found =>
        absurd found (Option.not_mem_none text)
  | some text =>
      rw [last] at chosen
      obtain ⟨number, spells, small⟩ := small_iff text value chosen
      rw [small]
      constructor
      · rintro at_most _ ⟨⟩ other also
        exact also.unique spells ▸ at_most
      · intro at_most
        exact at_most text rfl number spells

section

variable {groups : List (Group Setting)} {config : Config} {limit : Nat}

theorem Configured.permits_pos (configured : Configured groups config) :
    ∀ permits ∈ config.maxConnections, 1 ≤ permits := by
  have chosen := configured.maxConnections
  rw [Chosen] at chosen
  intro permits asked
  split at chosen
  · obtain ⟨number, -, raised⟩ := chosen
    obtain rfl := Option.some.inj (asked.symm.trans raised)
    exact Nat.le_max_right number 1
  · exact absurd (chosen ▸ asked) (Option.not_mem_none permits)

theorem Configured.permits_le_iff (configured : Configured groups config) (pos : 1 ≤ limit) :
    (∀ permits ∈ config.maxConnections, permits ≤ limit) ↔
      LastAtMost limit (uses .maxConnections groups) := by
  refine small_iff_of_chosen (fun limits : Option Nat => ∀ permits ∈ limits, permits ≤ limit)
    (by simp) ?_ configured.maxConnections
  rintro text _ ⟨number, spells, rfl⟩
  refine ⟨number, spells, ?_⟩
  simp [pos]

theorem Configured.effectiveBufferSize_le_iff (configured : Configured groups config)
    (usual : Config.defaultBufferSize ≤ limit) :
    config.effectiveBufferSize ≤ limit ↔ LastAtMost limit (uses .bufferSize groups) := by
  have pos : 1 ≤ limit := Nat.le_trans (by decide) usual
  refine small_iff_of_chosen (fun size => max size 1 ≤ limit) (Nat.max_le.mpr ⟨usual, pos⟩) ?_
    configured.bufferSize
  intro text size spells
  exact ⟨size, spells, by simp [pos]⟩

end

/--
Whatever command line the server accepts, its numbers are at least one where one is needed, and none
is greater than a word can hold.  The server can run with them exactly if the number spelled by the
last use of each option is within the limit for it, which nothing makes sure of.
-/
theorem runnable_iff_of_parse {arguments : List String} {options : Options}
    (parsed : parse arguments = .ok options) :
    (∀ limit ∈ options.config.maxConnections, 1 ≤ limit ∧ limit ≤ numberLimit) ∧
      (1 ≤ options.config.effectiveBufferSize ∧
        options.config.effectiveBufferSize ≤ numberLimit) ∧
      (Runnable options.config ↔
        LastAtMost permitLimit (uses .maxConnections (groups recognise arguments)) ∧
          LastAtMost bufferLimit (uses .bufferSize (groups recognise arguments))) := by
  have configured := (parse_eq_ok_iff.mp parsed).config
  have permits_pos := configured.permits_pos
  have buffer_pos := options.config.effectiveBufferSize_pos
  refine ⟨fun limit asked => ⟨permits_pos limit asked, ?_⟩, ⟨buffer_pos, ?_⟩, ?_⟩
  · exact (configured.permits_le_iff (by decide)).mpr (lastAtMost_numberLimit _) limit asked
  · exact (configured.effectiveBufferSize_le_iff (by decide)).mpr (lastAtMost_numberLimit _)
  · rw [← configured.permits_le_iff (by decide),
      ← configured.effectiveBufferSize_le_iff (by decide)]
    constructor
    · intro runnable
      exact ⟨fun limit asked => (runnable.permits limit asked).2, runnable.buffer.2⟩
    · rintro ⟨permits, buffer⟩
      exact ⟨fun limit asked => ⟨permits_pos limit asked, permits limit asked⟩, buffer_pos, buffer⟩

/-- A number beyond the limit does no harm if another use of the option comes later. -/
theorem runnable_of_last_use :
    parse ["-m", "2305843009213693952", "9000", "--max-connections", "64"] =
        .ok ⟨.v4 #v[0, 0, 0, 0] 9000, Config.standard.withMaxConnections 64⟩ ∧
      Runnable (Config.standard.withMaxConnections 64) := by
  have parsed : parse ["-m", "2305843009213693952", "9000", "--max-connections", "64"] =
      .ok ⟨.v4 #v[0, 0, 0, 0] 9000, Config.standard.withMaxConnections 64⟩ := by
    rw [parse, parseWords_eq]
    rfl
  refine ⟨parsed, (runnable_iff_of_parse parsed).2.2.mpr ⟨?_, ?_⟩⟩
  · rintro _ ⟨⟩ number spells
    have same : number = 64 := spells.unique (Numeral.parse?_eq_some_iff.mp rfl)
    exact same ▸ by decide
  · rintro _ ⟨⟩

/-- The first numbers beyond the limits are accepted. -/
theorem exceeds_limits :
    (parse ["9000", "--max-connections", "2305843009213693952"] =
        .ok ⟨.v4 #v[0, 0, 0, 0] 9000, Config.standard.withMaxConnections (permitLimit + 1)⟩ ∧
      ¬Runnable (Config.standard.withMaxConnections (permitLimit + 1))) ∧
    parse ["9000", "--buffer-size", "9223372036854775808"] =
        .ok ⟨.v4 #v[0, 0, 0, 0] 9000, { Config.standard with bufferSize := bufferLimit + 1 }⟩ ∧
      ¬Runnable { Config.standard with bufferSize := bufferLimit + 1 } := by
  simp only [parse, parseWords_eq]
  refine ⟨⟨rfl, fun runnable => ?_⟩, rfl, fun runnable => ?_⟩
  · exact absurd (runnable.permits _ rfl).2 (by decide)
  · exact absurd runnable.buffer.2 (by decide)

end Server

end CommandLine

end FilePush
