import FilePush.Proofs.FileTree.Entries
import FilePush.Proofs.Name.Staging
import FilePush.Proofs.Receiver.Answering

/-!
# Serving a connection step by step

A worker serves one connection in steps of which each is one operation on its stream or on the
files: a read, the creation of the unfinished file, the storing of a chunk, the wait for the file,
the renaming, the answer.  Only three of these touch the files, and all that a worker learns from
them is what stands in its own unfinished file and which names belong to directories.
-/

namespace FilePush

namespace Receiver

/-- A name that a received file may be stored under. -/
abbrev Target := { name : String // Name.isStorable name }

theorem isStorable_of_storage {received : Bytes} {name : String}
    (accepted : Name.storage received = .ok name) : Name.isStorable name := by
  obtain ⟨-, -, -, storable⟩ := Name.storage_eq_ok_iff.mp accepted
  exact storable

/-- What a worker does next. -/
inductive Phase
  /-- Read the length of the name; so much of it has been read. -/
  | length (got : Bytes)
  /-- Read the name, which has `width` bytes; so much of it has been read. -/
  | name (width : Nat) (got : Bytes)
  /-- Read the size of the payload; so much of it has been read. -/
  | size (filename got : Bytes)
  /-- Create the unfinished file. -/
  | opening (target : Target) (size : Nat)
  /-- Read a chunk of the payload. -/
  | receiving (target : Target) (session : Session) (unreported : Option IoError)
  /-- Add a chunk to the unfinished file. -/
  | storing (target : Target) (session : Session) (unreported : Option IoError) (chunk : Bytes)
  /-- Wait for the unfinished file. -/
  | closing (target : Target) (session : Session) (unreported : Option IoError)
      (failure : Option Outcome)
  /-- Give the unfinished file its name. -/
  | publishing (target : Target) (session : Session) (failure : Option Outcome)
  /-- Answer. -/
  | answering (outcome : Outcome)
  /-- Nothing, the connection has been served. -/
  | done (outcome : Outcome)

/-- A connection that is being served. -/
structure Worker where
  /-- What is to be done next. -/
  phase : Phase
  /-- The connection. -/
  connection : Connection
  /-- The clock. -/
  clock : Clock

namespace Worker

/-- A worker for a connection that was just accepted. -/
def start (connection : Connection) (clock : Clock) : Worker := ⟨.length [], connection, clock⟩

/-- Go on to a phase. -/
def turn (worker : Worker) (phase : Phase) : Worker := { worker with phase }

/-- Go on to a phase after a read that left so much to arrive. -/
def took (worker : Worker) (later : Inbound) (phase : Phase) : Worker :=
  { worker with phase, connection := { worker.connection with inbound := later } }

/-- Read some of the bytes that are missing from a field. -/
def readOn (worker : Worker) (missing : Nat) (more : Bytes → Phase) : Worker :=
  match worker.connection.inbound.read missing with
  | (.data chunk, later) => worker.took later (more chunk)
  | (.ended, later) => worker.took later (.done .connectionError)
  | (.failed _, later) => worker.took later (.done .connectionError)

/-- The place of the unfinished file of a connection. -/
def stagingAt (directory : Location) (sequence : Nat) : Location :=
  directory ++ [Utf8.encode (Name.staging sequence)]

/-- One operation of a worker for the connection `sequence`. -/
def step (config : Config) (directory : Location) (sequence : Nat) (worker : Worker)
    (tree : FileTree) : Worker × FileTree :=
  match worker.phase with
  | .length got =>
      if got.length < Header.lengthWidth then
        (worker.readOn (Header.lengthWidth - got.length) fun chunk => .length (got ++ chunk), tree)
      else if config.maxFilenameLength < Bytes.ofBigEndian got then
        (worker.turn (.done .connectionError), tree)
      else (worker.turn (.name (Bytes.ofBigEndian got) []), tree)
  | .name width got =>
      if got.length < width then
        (worker.readOn (width - got.length) fun chunk => .name width (got ++ chunk), tree)
      else (worker.turn (.size got []), tree)
  | .size filename got =>
      if got.length < Header.sizeWidth then
        (worker.readOn (Header.sizeWidth - got.length) fun chunk => .size filename (got ++ chunk),
          tree)
      else
        match accepted : Name.storage filename with
        | .error _ => (worker.turn (.done .connectionError), tree)
        | .ok name =>
            let size := (UInt64.ofNat (Bytes.ofBigEndian got)).toNat
            (worker.turn (.opening ⟨name, isStorable_of_storage accepted⟩ size), tree)
  | .opening target size =>
      match createStaging config directory (Name.staging sequence) tree with
      | .error _ => (worker.turn (.done .ioError), tree)
      | .ok created =>
          let (start, clock) := worker.clock.now
          let session := Session.start sequence size config.sampleInterval start
          ({ worker with phase := .receiving target session none, clock }, created)
  | .receiving target session unreported =>
      if session.isComplete then (worker.turn (.closing target session unreported none), tree)
      else
        match worker.connection.inbound.read
          (session.nextChunkLength config.effectiveBufferSize) with
        | (.data chunk, later) =>
            (worker.took later (.storing target session unreported chunk), tree)
        | (.ended, later) => (worker.took later (.closing target session unreported none), tree)
        | (.failed _, later) =>
            (worker.took later (.closing target session unreported (some .connectionError)), tree)
  | .storing target session unreported chunk =>
      match (OpenFile.mk (stagingAt directory sequence) unreported).write tree chunk with
      | (file, tree, some _) =>
          (worker.turn (.closing target session file.unreported (some .ioError)), tree)
      | (file, tree, none) =>
          let (now, clock) := worker.clock.now
          let session := (session.record chunk now).2
          ({ worker with phase := .receiving target session file.unreported, clock }, tree)
  | .closing target session unreported failure =>
      match unreported with
      | some error =>
          let path := entryPath config (Name.staging sequence)
          let outcome := (settle session failure (.error (.write path error))).outcome
          (worker.turn (.answering outcome), tree)
      | none => (worker.turn (.publishing target session failure), tree)
  | .publishing target session failure =>
      match publish config directory (Name.staging sequence) target tree with
      | .error error =>
          let path := entryPath config target
          let outcome := (settle session failure (.error (.write path error))).outcome
          (worker.turn (.answering outcome), tree)
      | .ok published =>
          (worker.turn (.answering (settle session failure (.ok ())).outcome), published)
  | .answering outcome =>
      let outbound := (answer outcome sequence worker.connection.outbound .empty).1
      ({ worker with
          phase := .done outcome, connection := { worker.connection with outbound } }, tree)
  | .done _ => (worker, tree)

end Worker

end Receiver

end FilePush
