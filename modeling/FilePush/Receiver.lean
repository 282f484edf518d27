import FilePush.Config
import FilePush.Event
import FilePush.FileTree.OpenFile
import FilePush.Frame.Header
import FilePush.Name
import FilePush.Stream.Connection

/-!
# Receiving a file

One connection brings one file.  The receiver reads the header, receives the payload into an
unfinished file that belongs to the connection alone, gives that file its name once the payload has
ended, and answers.  A reader of the uploads directory therefore sees a file under its name only as
a whole.

Without a usable header, or without an unfinished file to write, there is no answer; nor is there
one if the connection failed while the payload was received.
-/

namespace FilePush

namespace Receiver

/-- The state of a receiver while the payload comes in. -/
structure Receiving where
  /-- What is still to arrive. -/
  inbound : Inbound
  /-- The files. -/
  tree : FileTree
  /-- The unfinished file. -/
  file : OpenFile
  /-- The bytes received so far. -/
  session : Session
  /-- The clock. -/
  clock : Clock
  /-- What was reported. -/
  journal : Journal

/-- Note a chunk that was written to the unfinished file. -/
def Receiving.record (state : Receiving) (chunk : Bytes) : Receiving :=
  let (now, clock) := state.clock.now
  let (sample?, session) := state.session.record chunk now
  let journal := match sample? with
    | some sample => state.journal.noteFor session.sequence (.speeds sample)
    | none => state.journal
  { state with session, clock, journal }

/-- Report something about the connection. -/
def Receiving.note (state : Receiving) (notice : Notice) : Receiving :=
  { state with journal := state.journal.noteFor state.session.sequence notice }

theorem Receiving.session_record (state : Receiving) (chunk : Bytes) :
    (state.record chunk).session =
      (state.session.record chunk (state.clock.reading state.clock.taken)).2 := rfl

/--
Receive the payload, `bufferSize` bytes at a time, until the declared size is reached or the stream
ends; gives the outcome if the connection or the file fails.  There is always room for the buffer
here; `CommandLine.Server.Runnable` says which sizes a machine can have room for.
-/
def receivePayload (bufferSize : Nat) (state : Receiving) : Receiving × Option Outcome :=
  if state.session.isComplete then (state, none)
  else
    match _given : state.inbound.read (state.session.nextChunkLength bufferSize) with
    | (.ended, inbound) =>
        let notice := .endedEarly state.session.transferred state.session.declared
        ({ state with inbound }.note notice, none)
    | (.failed error, inbound) =>
        ({ state with inbound }.note (.receiveFailed error), some .connectionError)
    | (.data chunk, inbound) =>
        match state.file.write state.tree chunk with
        | (file, tree, some error) =>
            ({ state with inbound, file, tree }.note (.writeFailed error), some .ioError)
        | (file, tree, none) =>
            receivePayload bufferSize ({ state with inbound, file, tree }.record chunk)
  termination_by state.session.remaining
  decreasing_by
    obtain ⟨nonempty, fits⟩ := Inbound.read_data _given
    rw [Receiving.session_record]
    exact Session.remaining_record_lt _ _ _ nonempty
      (Nat.le_trans fits (Nat.min_le_left _ _))

/-- The path of an entry of the uploads directory. -/
def entryPath (config : Config) (name : String) : Path :=
  config.uploadsDirectory.join (.ofString name)

/-- Create an unfinished file in the uploads directory. -/
def createStaging (config : Config) (directory : Location) (staging : String) (tree : FileTree) :
    Except IoError FileTree :=
  match (entryPath config staging).problem? with
  | some problem => .error problem
  | none => tree.create directory (Utf8.encode staging)

/-- Give an unfinished file its name. -/
def publish (config : Config) (directory : Location) (staging name : String) (tree : FileTree) :
    Except IoError FileTree :=
  match (entryPath config name).problem? with
  | some problem => .error problem
  | none => tree.rename directory (Utf8.encode staging) (Utf8.encode name)

/-- Close the unfinished file and give it its name. -/
def persist (config : Config) (directory : Location) (staging name : String) (file : OpenFile)
    (tree : FileTree) : FileTree × Except FileError Unit :=
  match file.flush with
  | (_, some error) => (tree, .error (.write (entryPath config staging) error))
  | (_, none) =>
      match publish config directory staging name tree with
      | .ok published => (published, .ok ())
      | .error error => (tree, .error (.write (entryPath config name) error))

/-- Send an answer and end the connection. -/
def sendAck (outbound : Outbound) (ack : Ack) : Outbound × Option IoError :=
  match outbound.writeAll ack.toBytes with
  | (outbound, some error) => (outbound, some error)
  | (outbound, none) =>
      match outbound.flush with
      | some error => (outbound, some error)
      | none => outbound.shutDown

/-- Answer a transfer by its outcome, unless the outcome is that the connection failed. -/
def answer (outcome : Outcome) (sequence : Nat) (outbound : Outbound) (journal : Journal) :
    Outbound × Journal :=
  if outcome = .connectionError then (outbound, journal)
  else
    let ack := Ack.ofSuccess outcome.isSuccess
    match sendAck outbound ack with
    | (outbound, some error) => (outbound, journal.noteFor sequence (.ackFailed error))
    | (outbound, none) => (outbound, journal.noteFor sequence (.ackSent ack))

/-- The outcome of a transfer whose payload ended and whose file was or was not persisted. -/
def settle (session : Session) (failure : Option Outcome) (persisted : Except FileError Unit) :
    Session :=
  match failure, persisted with
  | some outcome, _ => session.fail outcome
  | none, .error _ => session.fail .ioError
  | none, .ok () => session.finish

/-- What serving a connection leaves. -/
structure Served where
  /-- How the transfer ended. -/
  outcome : Outcome
  /-- The connection. -/
  connection : Connection
  /-- The files. -/
  tree : FileTree
  /-- The clock. -/
  clock : Clock
  /-- What was reported. -/
  journal : Journal

/-- Receive a payload into the unfinished file and answer. -/
def receive (config : Config) (directory : Location) (staging name : String) (size : Nat)
    (sequence : Nat) (connection : Connection) (tree : FileTree) (clock : Clock)
    (journal : Journal) : Served :=
  let file := OpenFile.opened (directory ++ [Utf8.encode staging])
  let (start, clock) := clock.now
  let session := Session.start sequence size config.sampleInterval start
  let (received, failure) := receivePayload config.effectiveBufferSize
    { inbound := connection.inbound, tree, file, session, clock, journal }
  let (tree, persisted) := persist config directory staging name received.file received.tree
  let journal := match persisted with
    | .error error => received.journal.noteFor sequence (.fileFailed error)
    | .ok () => received.journal
  let session := settle received.session failure persisted
  let outcome := session.outcome
  let (now, clock) := received.clock.now
  let journal := journal.noteFor sequence (.result (session.meter.overall now) outcome)
  let journal := journal.noteFor sequence (.receivedSummary session now)
  let (outbound, journal) := answer outcome sequence connection.outbound journal
  ⟨outcome, ⟨received.inbound, outbound⟩, tree, clock, journal⟩

/--
Serve one connection: receive one file into the uploads directory, which stands at `directory`.
`sequence` is the number of the connection.
-/
def serve (config : Config) (directory : Location) (sequence : Nat) (connection : Connection)
    (tree : FileTree) (clock : Clock) : Served :=
  let journal := Journal.empty.noteFor sequence .newConnection
  match Header.readFrom connection.inbound config.maxFilenameLength with
  | (.error error, inbound) =>
      ⟨.connectionError, { connection with inbound }, tree, clock,
        journal.noteFor sequence (.headerFailed error)⟩
  | (.ok header, inbound) =>
      let connection := { connection with inbound }
      match Name.storage header.filename with
      | .error error =>
          ⟨.connectionError, connection, tree, clock,
            journal.noteFor sequence (.nameRefused error)⟩
      | .ok name =>
          let size := header.fileSize.toNat
          let journal := journal.noteFor sequence (.filename name)
          let journal := journal.noteFor sequence (.fileSize size)
          let staging := Name.staging sequence
          match createStaging config directory staging tree with
          | .error error =>
              let failed := .create (entryPath config name) error
              ⟨.ioError, connection, tree, clock,
                journal.noteFor sequence (.fileFailed failed)⟩
          | .ok tree =>
              receive config directory staging name size sequence connection tree clock journal

/--
How many bytes a receiver that was sent `received` waits for at least; none if it goes on without any.
-/
def awaited (limit : Nat) (received : Bytes) : Nat :=
  match Header.decode received limit with
  | .error (.truncated _ expected got) => expected - got
  | .error _ => 0
  | .ok (header, consumed) =>
      match Name.storage header.filename with
      | .error _ => 0
      | .ok _ => consumed + header.fileSize.toNat - received.length

end Receiver

end FilePush
