import FilePush.Proofs.Concurrency.Locality
import FilePush.Proofs.Receiver.Confinement
import FilePush.Proofs.Receiver.Truthfulness

/-!
# What serving a connection depends on

Of the files, serving a connection depends on nothing but the directories and what stands in the place
of its own unfinished file.  The clock, the sampling interval and what happens to the answer decide
neither the outcome nor what is stored.  Two connections of which all that counts is the same are
therefore served with the same effect, whatever files they find elsewhere.
-/

namespace FilePush

namespace Receiver

open FileTree (SameFolders)
open Worker (stagingAt)

/-- Two receivers that are equally far; they may have been told other times and find other files. -/
structure Receiving.Alike (left right : Receiving) : Prop where
  /-- The same is still to arrive. -/
  inbound : left.inbound = right.inbound
  /-- Their files are in the same place and in the same state. -/
  file : left.file = right.file
  /-- The same stands in that place. -/
  own : left.tree.get? left.file.location = right.tree.get? left.file.location
  /-- The size to reach is the same. -/
  declared : left.session.declared = right.session.declared
  /-- The same number of bytes was counted. -/
  transferred : left.session.transferred = right.session.transferred
  /-- The checksum is the same. -/
  checksum : left.session.checksum = right.session.checksum

namespace Receiving.Alike

variable {left right : Receiving} {bufferSize : Nat}

theorem remaining (alike : Alike left right) : left.session.remaining = right.session.remaining := by
  rw [Session.remaining, Session.remaining, alike.declared, alike.transferred]

theorem isComplete (alike : Alike left right) :
    left.session.isComplete = right.session.isComplete := by
  rw [Session.isComplete, Session.isComplete, alike.declared, alike.transferred]

/-- Two receivers that are equally far are given the same by the next read. -/
theorem read (alike : Alike left right) :
    left.inbound.read (left.session.nextChunkLength bufferSize) =
      right.inbound.read (right.session.nextChunkLength bufferSize) := by
  rw [Session.nextChunkLength, Session.nextChunkLength, alike.remaining, alike.inbound]

/-- Two receivers that are equally far write a chunk with the same result. -/
theorem write (alike : Alike left right) (later : Inbound) {chunk : Bytes} {file : OpenFile}
    {tree : FileTree} {failure : Option IoError}
    (written : left.file.write left.tree chunk = (file, tree, failure)) :
    ∃ other, right.file.write right.tree chunk = (file, other, failure) ∧
      Alike { left with inbound := later, file, tree }
        { right with inbound := later, file, tree := other } := by
  obtain ⟨file_same, failure_same, own⟩ :=
    @OpenFile.write_congr left.file left.tree right.tree chunk alike.own
  have place := OpenFile.location_write left.file left.tree chunk
  rw [written] at file_same failure_same own place
  refine ⟨(right.file.write right.tree chunk).2.1, ?_, ?_⟩
  · rw [← alike.file]
    exact Prod.ext file_same.symm (Prod.ext rfl failure_same.symm)
  · refine { alike with inbound := rfl, file := rfl, own := ?_ }
    rw [← alike.file]
    exact place ▸ own

/-- Two receivers that are equally far count a chunk alike, whatever their clocks tell them. -/
theorem record (alike : Alike left right) (chunk : Bytes) :
    Alike (left.record chunk) (right.record chunk) where
  inbound := alike.inbound
  file := alike.file
  own := alike.own
  declared := by
    rw [session_record, session_record, Session.declared_record, Session.declared_record,
      alike.declared]
  transferred := by
    rw [session_record, session_record, Session.transferred_record, Session.transferred_record,
      alike.transferred]
  checksum := congrArg (Checksum.update · chunk) alike.checksum

end Receiving.Alike

/-- One round of receiving a payload. -/
theorem receivePayload_eq (bufferSize : Nat) (state : Receiving) :
    receivePayload bufferSize state =
      if state.session.isComplete then (state, none)
      else
        match state.inbound.read (state.session.nextChunkLength bufferSize) with
        | (.ended, inbound) =>
            let notice := .endedEarly state.session.transferred state.session.declared
            ({ state with inbound }.note notice, none)
        | (.failed error, inbound) =>
            ({ state with inbound }.note (.receiveFailed error), some .connectionError)
        | (.data chunk, inbound) =>
            match state.file.write state.tree chunk with
            | (file, tree, some error) =>
                ({ state with inbound, file, tree }.note (.writeFailed error), some .ioError)
            | (file, tree, none) =>
                receivePayload bufferSize ({ state with inbound, file, tree }.record chunk) := by
  rw [receivePayload]
  split
  · rfl
  · split
    · next given => simp only [given]
    · next given => simp only [given]
    · next given => exact given ▸ rfl

/-- Receivers that are equally far receive the same. -/
theorem receivePayload_alike {left right : Receiving} (bufferSize : Nat)
    (alike : left.Alike right) :
    (receivePayload bufferSize left).1.Alike (receivePayload bufferSize right).1 ∧
      (receivePayload bufferSize left).2 = (receivePayload bufferSize right).2 := by
  fun_induction receivePayload bufferSize left generalizing right with
  | case1 left complete =>
      rw [receivePayload_eq bufferSize right, ← alike.isComplete, if_pos complete]
      exact ⟨alike, rfl⟩
  | case2 left incomplete later given =>
      rw [receivePayload_eq bufferSize right, ← alike.isComplete, if_neg incomplete, ← alike.read,
        given]
      exact ⟨{ alike with inbound := rfl }, rfl⟩
  | case3 left incomplete error later given =>
      rw [receivePayload_eq bufferSize right, ← alike.isComplete, if_neg incomplete, ← alike.read,
        given]
      exact ⟨{ alike with inbound := rfl }, rfl⟩
  | case4 left incomplete chunk later given file tree error written =>
      obtain ⟨other, also_written, still⟩ := alike.write later written
      rw [receivePayload_eq bufferSize right, ← alike.isComplete, if_neg incomplete, ← alike.read,
        given]
      simp only [also_written]
      exact ⟨{ still with }, trivial⟩
  | case5 left incomplete chunk later given file tree written induction =>
      obtain ⟨other, also_written, still⟩ := alike.write later written
      rw [receivePayload_eq bufferSize right, ← alike.isComplete, if_neg incomplete, ← alike.read,
        given]
      simp only [also_written]
      exact induction (still.record chunk)

/-- The outcome is decided by the failure, the number of bytes and whether the file has its name. -/
theorem outcome_settle_congr {left right : Session} (failure : Option Outcome)
    {persisted other : Except FileError Unit} (complete : left.isComplete = right.isComplete)
    (named : persisted = .ok () ↔ other = .ok ()) :
    (settle left failure persisted).outcome = (settle right failure other).outcome := by
  cases failure with
  | some outcome => rfl
  | none =>
      cases persisted with
      | ok =>
          obtain rfl := named.mp rfl
          simp only [settle, Session.finish, complete]
      | error error =>
          cases other with
          | ok => simp at named
          | error other => rfl

/-- Two connections, each with the files that it finds, of which all that counts is the same. -/
structure Matching (directory : Location) (sequence : Nat) (config other : Config)
    (connection peer : Connection) (left right : FileTree) : Prop where
  /-- Equally many bytes are moved at a time. -/
  bufferSize : config.effectiveBufferSize = other.effectiveBufferSize
  /-- Files are stored below the same path. -/
  uploadsDirectory : config.uploadsDirectory = other.uploadsDirectory
  /-- Names may be equally long. -/
  maxFilenameLength : config.maxFilenameLength = other.maxFilenameLength
  /-- The same arrives. -/
  inbound : connection.inbound = peer.inbound
  /-- The same places are directories. -/
  folders : SameFolders left right
  /-- The same stands in the place of the unfinished file. -/
  own : left.get? (stagingAt directory sequence) = right.get? (stagingAt directory sequence)

namespace Matching

variable {directory : Location} {sequence : Nat} {config other : Config}
  {connection peer : Connection} {left right : FileTree}

theorem symm (matching : Matching directory sequence config other connection peer left right) :
    Matching directory sequence other config peer connection right left where
  bufferSize := matching.bufferSize.symm
  uploadsDirectory := matching.uploadsDirectory.symm
  maxFilenameLength := matching.maxFilenameLength.symm
  inbound := matching.inbound.symm
  folders := matching.folders.symm
  own := matching.own.symm

variable (matching : Matching directory sequence config other connection peer left right)

include matching

theorem createStaging_eq :
    createStaging other directory (Name.staging sequence) right =
      createStaging config directory (Name.staging sequence) right := by
  rw [createStaging, createStaging, entryPath, entryPath, matching.uploadsDirectory]

theorem publish_eq (name : String) (tree : FileTree) :
    publish other directory (Name.staging sequence) name tree =
      publish config directory (Name.staging sequence) name tree := by
  rw [publish, publish, entryPath, entryPath, matching.uploadsDirectory]

theorem read_eq :
    Header.readFrom peer.inbound other.maxFilenameLength =
      Header.readFrom connection.inbound config.maxFilenameLength := by
  rw [matching.inbound, matching.maxFilenameLength]

/-- The one connection comes to its payload if the other does. -/
theorem staged (one : Staged config directory sequence connection left) :
    Nonempty (Staged other directory sequence peer right) := by
  obtain ⟨created, creates⟩ := createStaging_congr matching.folders one.creates
  exact ⟨one.header, one.rest, one.name, created, matching.read_eq.trans one.read, one.accepted,
    matching.createStaging_eq.trans creates⟩

section Payload

variable (one : Staged config directory sequence connection left)
  (two : Staged other directory sequence peer right) (clock late : Clock)

theorem header_eq : one.header = two.header ∧ one.rest = two.rest := by
  have read := one.read.symm.trans (matching.read_eq.symm.trans two.read)
  simpa using read

theorem name_eq : one.name = two.name := by
  have accepted := one.accepted
  rw [(matching.header_eq one two).1, two.accepted] at accepted
  exact (Except.ok.inj accepted).symm

theorem destination_eq : one.destination = two.destination := by
  rw [Staged.destination, Staged.destination, matching.name_eq one two]

theorem stored_eq : one.stored = two.stored := by
  obtain ⟨header, rest⟩ := matching.header_eq one two
  have own : left.get? one.unfinished = right.get? two.unfinished := matching.own
  simp only [Staged.stored, Staged.payload, Staged.size, own, header, rest]

/-- The same is received of both. -/
theorem after_alike :
    (one.after clock).Alike (two.after late) ∧ (one.ended clock).2 = (two.ended late).2 := by
  obtain ⟨header, rest⟩ := matching.header_eq one two
  have before : (one.before clock).Alike (two.before late) := by
    refine ⟨rest, rfl, ?_, congrArg (·.fileSize.toNat) header, rfl, rfl⟩
    have first := get?_createStaging one.creates
    have second := get?_createStaging two.creates
    rw [show left.get? (directory ++ [Utf8.encode (Name.staging sequence)]) = _ from matching.own]
      at first
    exact first.trans second.symm
  rw [Staged.after, Staged.after, Staged.ended, Staged.ended, ← matching.bufferSize]
  exact receivePayload_alike _ before

/-- The one file can be given its name if the other can. -/
theorem published {named : FileTree} (publishes : one.published clock = .ok named) :
    ∃ moved, two.published late = .ok moved := by
  have folders : SameFolders (one.after clock).tree (two.after late).tree :=
    (one.changesOnly_after clock).folders.symm.trans
      (matching.folders.trans (two.changesOnly_after late).folders)
  have own : (one.after clock).tree.get? (stagingAt directory sequence) =
      (two.after late).tree.get? (stagingAt directory sequence) := by
    have first := one.get?_after clock one.unfinished
    have second := two.get?_after late two.unfinished
    rw [if_pos rfl] at first second
    rw [matching.stored_eq one two] at first
    exact first.trans second.symm
  let target : Target := ⟨one.name, isStorable_of_storage one.accepted⟩
  have moves : publish config directory (Name.staging sequence) target (one.after clock).tree =
      .ok named := publishes
  rw [Staged.published, matching.publish_eq, ← matching.name_eq one two]
  exact publish_congr folders own moves

/-- The one file is given its name if the other is. -/
theorem named (given : (one.persisted clock).2 = .ok ()) : (two.persisted late).2 = .ok () := by
  rcases one.persisted_cases clock with ⟨flushed, left, publishes, -⟩ | ⟨-, error, kept⟩
  · rcases two.persisted_cases late with ⟨-, _, -, moved⟩ | ⟨unflushed | ⟨error, fails⟩, -⟩
    · rw [moved]
    · rw [← (matching.after_alike one two clock late).1.file] at unflushed
      exact absurd flushed unflushed
    · obtain ⟨right, also_publishes⟩ := matching.published one two clock late publishes
      simp [also_publishes] at fails
  · simp [kept] at given

include one two in
/-- Both end with the same outcome. -/
theorem outcome :
    (serve config directory sequence connection left clock).outcome =
      (serve other directory sequence peer right late).outcome := by
  obtain ⟨alike, failure⟩ := matching.after_alike one two clock late
  rw [one.outcome_serve, two.outcome_serve, failure]
  exact outcome_settle_congr _ alike.isComplete
    ⟨matching.named one two clock late, matching.symm.named two one late clock⟩

end Payload

end Matching

/-- What serving a connection does, apart from what it reports. -/
structure Effect where
  /-- How the transfer ends. -/
  outcome : Outcome
  /-- What is still to arrive. -/
  inbound : Inbound
  /-- The answer, if there is one. -/
  reply : Option Ack
  /-- What comes to stand in a place, if anything changes there. -/
  change : Location → Option (Option Node)

/-- Serving a connection had an effect. -/
structure Effect.Left (effect : Effect) (connection : Connection) (tree : FileTree)
    (served : Served) : Prop where
  /-- The transfer ended so. -/
  outcome : served.outcome = effect.outcome
  /-- So much is still to arrive. -/
  inbound : served.connection.inbound = effect.inbound
  /-- The answer was sent, if there is one, and nothing else. -/
  outbound : served.connection.outbound =
    (effect.reply.map fun ack => (sendAck connection.outbound ack).1).getD connection.outbound
  /-- The files changed so. -/
  tree : ∀ place, served.tree.get? place = (effect.change place).getD (tree.get? place)

/-- The effect of a connection that does not come to its payload. -/
def Effect.idle (outcome : Outcome) (inbound : Inbound) : Effect :=
  ⟨outcome, inbound, none, fun _ => none⟩

section Effect

variable {config other : Config} {directory : Location} {sequence : Nat}
  {connection peer : Connection} {tree left right : FileTree}

namespace Staged

variable (staged : Staged config directory sequence connection tree) (clock : Clock)

/-- The effect of a connection that comes to its payload. -/
def effect : Effect where
  outcome := (serve config directory sequence connection tree clock).outcome
  inbound := (staged.after clock).inbound
  reply :=
    let outcome := (serve config directory sequence connection tree clock).outcome
    if outcome = .connectionError then none else some (Ack.ofSuccess outcome.isSuccess)
  change place :=
    match (staged.persisted clock).2 with
    | .ok () =>
        if place = staged.destination then some (some staged.stored)
        else if place = staged.unfinished then some none
        else none
    | .error _ => if place = staged.unfinished then some (some staged.stored) else none

theorem effect_left :
    (staged.effect clock).Left connection tree
      (serve config directory sequence connection tree clock) where
  outcome := rfl
  inbound := staged.inbound_serve clock
  outbound := by
    rw [staged.outbound_serve]
    simp only [effect]
    split
    · rfl
    · rfl
  tree place := by
    rw [staged.get?_serve]
    simp only [effect]
    cases (staged.persisted clock).2 with
    | ok =>
        dsimp only
        split
        · rfl
        · split <;> rfl
    | error error =>
        dsimp only
        split <;> rfl

theorem effect_within {place : Location}
    (elsewhere : place ∉ footprint config directory sequence connection) :
    (staged.effect clock).change place = none := by
  have not_destination : place ≠ staged.destination := by
    rintro rfl
    exact elsewhere staged.destination_mem_footprint
  have not_unfinished : place ≠ staged.unfinished := by
    rintro rfl
    exact elsewhere staged.unfinished_mem_footprint
  simp only [effect]
  split
  · rw [if_neg not_destination, if_neg not_unfinished]
  · rw [if_neg not_unfinished]

end Staged

theorem Effect.idle_left {outcome : Outcome} {inbound : Inbound} {served : Served}
    (ends : served.outcome = outcome) (left : served.connection = { connection with inbound })
    (unchanged : served.tree = tree) : (Effect.idle outcome inbound).Left connection tree served where
  outcome := ends
  inbound := by
    rw [left]
    rfl
  outbound := by
    rw [left]
    rfl
  tree place := by
    rw [unchanged]
    rfl

/-- What matches comes to its payload with the same effect. -/
theorem Matching.effect_eq
    (matching : Matching directory sequence config other connection peer left right)
    (one : Staged config directory sequence connection left)
    (two : Staged other directory sequence peer right) (clock late : Clock) :
    one.effect clock = two.effect late := by
  have ends := matching.outcome one two clock late
  have rest := (matching.after_alike one two clock late).1.inbound
  have stored := matching.stored_eq one two
  have destination := matching.destination_eq one two
  have named : (one.persisted clock).2 = .ok () ↔ (two.persisted late).2 = .ok () :=
    ⟨matching.named one two clock late, matching.symm.named two one late clock⟩
  simp only [Staged.effect, ends, rest, Effect.mk.injEq, true_and]
  funext place
  cases first : (one.persisted clock).2 with
  | ok =>
      rw [named.mp first, destination, stored]
      rfl
  | error error =>
      cases second : (two.persisted late).2 with
      | ok => simp [first, second] at named
      | error other =>
          rw [stored]
          rfl

/-- What matches is served with the same effect, and that confined to the entries of the connection. -/
theorem Matching.exists_effect
    (matching : Matching directory sequence config other connection peer left right)
    (clock late : Clock) :
    ∃ effect : Effect,
      effect.Left connection left (serve config directory sequence connection left clock) ∧
        effect.Left peer right (serve other directory sequence peer right late) ∧
        ∀ place ∉ footprint config directory sequence connection, effect.change place = none := by
  rcases staged_or_unstaged config directory sequence connection left with ⟨⟨one⟩⟩ | unstaged
  · obtain ⟨two⟩ := matching.staged one
    refine ⟨one.effect clock, one.effect_left clock, ?_, fun _ => one.effect_within clock⟩
    rw [matching.effect_eq one two clock late]
    exact two.effect_left late
  · cases unstaged with
    | @headerFailed error rest read =>
        have also_read := matching.read_eq.trans read
        refine ⟨.idle .connectionError rest, ?_, ?_, fun _ _ => rfl⟩
        · apply Effect.idle_left <;> simp only [serve, read]
        · apply Effect.idle_left <;> simp only [serve, also_read]
    | @nameRefused header rest error read refused =>
        have also_read := matching.read_eq.trans read
        refine ⟨.idle .connectionError rest, ?_, ?_, fun _ _ => rfl⟩
        · apply Effect.idle_left <;> simp only [serve, read, refused]
        · apply Effect.idle_left <;> simp only [serve, also_read, refused]
    | @notCreated header rest name error read accepted failed =>
        have also_read := matching.read_eq.trans read
        obtain ⟨other_error, also_failed⟩ :
            ∃ error, createStaging other directory (Name.staging sequence) right = .error error := by
          rw [matching.createStaging_eq]
          cases creates : createStaging config directory (Name.staging sequence) right with
          | error error => exact ⟨error, rfl⟩
          | ok created =>
              obtain ⟨made, creates⟩ := createStaging_congr matching.folders.symm creates
              simp [failed] at creates
        refine ⟨.idle .ioError rest, ?_, ?_, fun _ _ => rfl⟩
        · apply Effect.idle_left <;> simp only [serve, read, accepted, failed]
        · apply Effect.idle_left <;> simp only [serve, also_read, accepted, also_failed]

end Effect

end Receiver

end FilePush
