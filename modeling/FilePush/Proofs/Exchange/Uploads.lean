import FilePush.Proofs.Exchange.Upload
import Mathlib

/-!
# Uploads one after another

A server that sees to one upload after another does with each of them as if it were the first.  What
an upload leaves behind is never found by a later one, since every connection has an unfinished file
of its own.
-/

namespace FilePush

namespace Upload

variable {limit : Nat}

/-- Make one upload after another; gives each result and the server after it. -/
def runAll (service : Service) :
    List (Upload limit) → Option (List (Except TransferError Sender.Report × Service))
  | [] => some []
  | upload :: later =>
      match upload.run service with
      | none => none
      | some (result, after) => (runAll after later).map ((result, after) :: ·)

/-- What is to come of uploads over connections that are numbered from `number` on. -/
def idealAll (config : Config) (directory : Location) : Nat → (Location → Option Node) →
    List (Upload config.maxFilenameLength) →
    List (Except TransferError Unit × (Location → Option Node))
  | _, _, [] => []
  | number, view, upload :: later =>
      let (result, after) := upload.ideal config directory number view
      (result, after) :: idealAll config directory (number + 1) after later

/-- Uploads one after another do what they are to do. -/
theorem runAll_ideal {config : Config} {directory : Location} {number : Nat} {service : Service}
    (uploads : List (Upload config.maxFilenameLength))
    (ready : service.Ready config directory number) (limited : config.maxConnections ≠ some 0)
    (few : number + uploads.length ≤ UInt64.size) :
    (runAll service uploads).map
        (·.map fun upload => (upload.1.map fun _ => (), upload.2.tree.get?)) =
      some (idealAll config directory number service.tree.get? uploads) := by
  induction uploads generalizing number service with
  | nil => rfl
  | cons upload later induction =>
      rw [List.length_cons] at few
      obtain ⟨result, after, runs, still_ready, does⟩ := upload.run_ideal ready limited (by omega)
      obtain ⟨trace, traced, ideal_trace⟩ :=
        Option.map_eq_some_iff.mp (induction still_ready (by omega))
      rw [runAll, runs, idealAll]
      simp only [traced, Option.map_some, List.map_cons, ← does, ideal_trace]

end Upload

/--
Uploads to a server over a network that loses nothing end, and leave its uploads directory after
each of them, as they are to: with the file stored whole, with nothing changed or, if the file
cannot be given its name, with the content in the unfinished file of the connection.
-/
theorem uploads_end_as_ideal {config : Config} {directory : Location} {tree : FileTree}
    (clock : Clock) (uploads : List (Upload config.maxFilenameLength))
    (limited : config.maxConnections ≠ some 0)
    (stands : tree.get? directory = some .directory)
    (clear : ∀ number, tree.get? (directory ++ [Utf8.encode (Name.staging number)]) = none)
    (few : uploads.length ≤ UInt64.size) :
    (Upload.runAll (Service.start config directory tree clock) uploads).map
        (·.map fun upload => (upload.1.map fun _ => (), upload.2.tree.get?)) =
      some (Upload.idealAll config directory 0 tree.get? uploads) := by
  have ready : (Service.start config directory tree clock).Ready config directory 0 :=
    ⟨rfl, rfl, rfl, stands, fun later _ => clear later⟩
  exact Upload.runAll_ideal uploads ready limited (by omega)

/-- Nothing is lost on the reliable channel. -/
theorem Channel.reliable_dependable (limit : Nat) (frame : Bytes) :
    Channel.reliable.Dependable limit frame where
  sender_start := ⟨rfl, rfl⟩
  receiver_start := ⟨rfl, rfl⟩
  takes := fun _ _ _ => ⟨65535, rfl⟩
  flushes := fun _ => rfl
  answers := fun _ _ => ⟨65535, rfl⟩
  forward := fun bytes => by
    by_cases nothing : bytes = []
    · simp [reliable, Inbound.delivered, Inbound.deliveredBy, nothing]
    · simp [reliable, Inbound.delivered, Inbound.deliveredBy, nothing]
  backward := fun bytes => by
    by_cases nothing : bytes = []
    · simp [reliable, Inbound.delivered, Inbound.deliveredBy, nothing]
    · simp [reliable, Inbound.delivered, Inbound.deliveredBy, nothing]
  ends := fun bytes something => by
    simp [reliable, Inbound.ending, Inbound.endingOf, something]

/-- The upload of the one file that the sender has, over a reliable channel. -/
def Upload.sole (limit : Nat) (text : String) (content : Bytes)
    (opens : (⟨[([Utf8.encode text], .file content)]⟩ : FileTree).openForReading []
      (.ofString text) = .ok (.file content))
    (word : content.length < UInt64.size) : Upload limit where
  config := .standard
  files := ⟨[([Utf8.encode text], .file content)]⟩
  working := []
  path := .ofString text
  text := text
  content := content
  address := .v4 #v[127, 0, 0, 1] 9000
  peer := .v4 #v[127, 0, 0, 1] 50000
  clock := .ofReadings fun _ => 0
  channel := .reliable
  spelled := rfl
  opens := opens
  word := word
  dependable := fun _ _ => Channel.reliable_dependable _ _

@[simp]
theorem Upload.sole_name {limit : Nat} {text : String} {content : Bytes} (opens word) :
    (Upload.sole limit text content opens word).name = Name.basename text :=
  rfl

/-- The configuration of a server that accepts names of one byte. -/
def terse : Config := { Config.standard with maxFilenameLength := 1 }

/-- An upload, one under a name that is too long and one under the name of a directory. -/
def threeUploads : List (Upload terse.maxFilenameLength) :=
  [.sole _ "a" [120] (by decide) (by decide), .sole _ "bc" [121] (by decide) (by decide),
    .sole _ "d" [122] (by decide) (by decide)]

/-- An uploads directory with a directory in it. -/
def besideDirectory : FileTree := ⟨[([[0x75]], .directory), ([[0x75], [0x64]], .directory)]⟩

theorem three_uploads_end :
    (Upload.runAll (Service.start terse [[0x75]] besideDirectory (.ofReadings fun _ => 0))
        threeUploads).map (·.map fun upload => upload.1.map fun _ => ()) =
      some [.ok (), .error .noAck, .error .rejected] := by
  have clear (number : Nat) :
      besideDirectory.get? ([[0x75]] ++ [Utf8.encode (Name.staging number)]) = none := by
    have other : [0x64] ≠ Utf8.encode (Name.staging number) := by
      intro same
      exact Name.ne_staging_of_isStorable (show Name.isStorable "d" by cbv) number
        (Utf8.encode_injective same)
    simp [FileTree.get?, besideDirectory, other]
  have stored : ∀ text ∈ ["a", "bc", "d"],
      Name.storage (Utf8.encode (Name.basename text)) = .ok text := by
    intro text member
    simp only [List.mem_cons, List.not_mem_nil, or_false] at member
    rcases member with rfl | rfl | rfl <;> cbv
  have ideal := uploads_end_as_ideal (.ofReadings fun _ => 0) threeUploads (by decide) (by decide)
    clear (by decide)
  have results := congrArg (Option.map (List.map Prod.fst)) ideal
  rw [Option.map_map, Option.map_some] at results
  refine Eq.trans ?_ (results.trans ?_)
  · simp only [Function.comp_def, List.map_map]
  · simp only [threeUploads, Upload.idealAll, Upload.ideal, Upload.sole_name,
      stored "a" (by simp), stored "bc" (by simp), stored "d" (by simp)]
    rfl

/-- An upload ends without an answer if the uploads directory is spelled with so many slashes. -/
theorem upload_below_long_path :
    let config : Config := .withUploadsDirectory .standard (Receiver.slashed 4090)
    let tree : FileTree := ⟨[([[0x78]], .directory)]⟩
    let upload : Upload config.maxFilenameLength := .sole _ "a" [120] (by decide) (by decide)
    let service := Service.start config [[0x78]] tree (.ofReadings fun _ => 0)
    makeUploadsDirectory tree [] config.uploadsDirectory = (tree, .ok [[0x78]]) ∧
      config.maxConnections = none ∧
      tree.get? [[0x78]] = some .directory ∧
      (∀ number, tree.get? ([[0x78]] ++ [Utf8.encode (Name.staging number)]) = none) ∧
      Name.storage (Utf8.encode upload.name) = .ok "a" ∧
      (Utf8.encode upload.name).length ≤ config.maxFilenameLength ∧
      tree.get? [[0x78], Utf8.encode "a"] = none ∧
      ∃ after, upload.run service = some (.error .noAck, after) ∧
        after.tree.get? [[0x78], Utf8.encode "a"] = none := by
  intro config tree upload service
  have clear (number : Nat) :
      tree.get? ([[0x78]] ++ [Utf8.encode (Name.staging number)]) = none := by
    simp [FileTree.get?, tree]
  have accepted : Name.storage (Utf8.encode (Name.basename "a")) = .ok "a" := by cbv
  have within : (Utf8.encode upload.name).length ≤ config.maxFilenameLength := by decide
  have unreachable : (Receiver.entryPath config (Name.staging 0)).problem? ≠ none := by
    refine Receiver.problem?_join_of_long (by decide) ?_
    rw [show config.uploadsDirectory = Receiver.slashed 4090 from rfl, Receiver.length_slashed]
    decide
  have ready : service.Ready config [[0x78]] 0 :=
    ⟨rfl, rfl, rfl, by decide, fun later _ => clear later⟩
  obtain ⟨header, encoded, -⟩ := Sender.prepare_of_file upload.spelled upload.opens
  obtain ⟨after, runs, -, unchanged⟩ :=
    upload.run_unreachable ready (by decide) encoded within accepted unreachable
  refine ⟨Receiver.makeUploadsDirectory_slashed (by decide), rfl, by decide, clear, accepted,
    within, by decide, after, runs, ?_⟩
  rw [unchanged]
  decide

end FilePush
