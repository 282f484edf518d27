import FilePush.Config
import FilePush.Event
import FilePush.FileTree.OpenFile
import FilePush.Frame.Header
import FilePush.Name
import FilePush.Stream.Connection

/-!
# Sending a file

One connection carries one file.  The sender opens the file, connects, sends a frame and waits for
the answer.  `prepare` does all that comes before the connection, so that a file that cannot be sent
puts nothing on the wire; `deliver` does the rest.
-/

namespace FilePush

namespace Sender

/-- Why a directory is not sent. -/
def directoryRefused : IoError := .other "디렉터리는 전송할 수 없음"

/-- Open a file to be sent; gives its size as well. -/
def openSource (tree : FileTree) (working : Location) (path : Path) :
    Except FileError (Source × Nat) :=
  match tree.openForReading working path with
  | .error error => .error (if error = .notFound then .notFound path else .unreadable path error)
  | .ok .directory => .error (.unreadable path directoryRefused)
  | .ok .full => .ok (.content [], 0)
  | .ok (.file content) => .ok (.content content, content.length)

/-- A file ready to be sent. -/
structure Outgoing where
  /-- The path of the file. -/
  path : Path
  /-- The name it travels under. -/
  filename : String
  /-- The open file. -/
  source : Source
  /-- Its size when it was opened. -/
  declared : Nat
  /-- The header of its frame. -/
  header : Bytes
  deriving DecidableEq, Repr

/-- Do all that comes before connecting; `opened` is what opening the file gives. -/
def prepare (path : Path) (opened : Except FileError (Source × Nat)) :
    Except TransferError Outgoing :=
  match Name.wire path with
  | .error error => .error (.file error)
  | .ok filename =>
      match opened with
      | .error error => .error (.file error)
      | .ok (source, declared) =>
          match Header.encode ⟨Utf8.encode filename, UInt64.ofNat declared⟩ with
          | .error error => .error (.protocol error)
          | .ok header => .ok ⟨path, filename, source, declared, header⟩

/-- The state of a sender while the payload goes out. -/
structure Sending where
  /-- What was sent. -/
  outbound : Outbound
  /-- The file. -/
  source : Source
  /-- The bytes sent so far. -/
  session : Session
  /-- The clock. -/
  clock : Clock
  /-- What was reported. -/
  journal : Journal

/-- Note a chunk that was sent. -/
def Sending.record (state : Sending) (chunk : Bytes) : Sending :=
  let (now, clock) := state.clock.now
  let (sample?, session) := state.session.record chunk now
  let journal := match sample? with
    | some sample =>
        state.journal.note (.progress session.transferred session.declared sample)
    | none => state.journal
  { state with session, clock, journal }

/-- Report that the connection failed. -/
def Sending.disconnect (state : Sending) (error : IoError) : Sending × Option TransferError :=
  ({ state with journal := state.journal.note (.disconnected error) }, some .noAck)

theorem Sending.session_record (state : Sending) (chunk : Bytes) :
    (state.record chunk).session =
      (state.session.record chunk (state.clock.reading state.clock.taken)).2 := rfl

/--
Send the payload, `bufferSize` bytes at a time, until the declared size is reached; gives the error
if that fails.  There is always room for the buffer here, as there is for a receiver's.
-/
def sendPayload (path : Path) (bufferSize : Nat) (state : Sending) :
    Sending × Option TransferError :=
  if state.session.isComplete then
    match state.outbound.flush with
    | some error => state.disconnect error
    | none => (state, none)
  else
    match _given : state.source.read (state.session.nextChunkLength bufferSize) with
    | .error error => (state, some (.file (.unreadable path error)))
    | .ok (chunk, source) =>
        if _empty : chunk = [] then
          let shrunk := .shrunk path state.session.declared state.session.transferred
          ({ state with source }, some (.file shrunk))
        else
          match state.outbound.writeAll chunk with
          | (outbound, some error) => { state with outbound, source }.disconnect error
          | (outbound, none) =>
              sendPayload path bufferSize ({ state with outbound, source }.record chunk)
  termination_by state.session.remaining
  decreasing_by
    rw [Sending.session_record]
    refine Session.remaining_record_lt _ _ _ (List.length_pos_iff.mpr _empty) ?_
    exact Nat.le_trans (Source.length_read _given) (Nat.min_le_left _ _)

/-- Send a frame: the header and as much of the file as the session declares. -/
def sendFrame (path : Path) (bufferSize : Nat) (header : Bytes) (state : Sending) :
    Sending × Option TransferError :=
  match state.outbound.writeAll header with
  | (outbound, some error) => { state with outbound }.disconnect error
  | (outbound, none) => sendPayload path bufferSize { state with outbound }

/-- Wait for the answer: as many bytes as the longest one has, or all there are. -/
def readAck (inbound : Inbound) (journal : Journal) :
    Except TransferError Ack × Inbound × Journal :=
  match inbound.collect Ack.maxLength with
  | (_, .failed error, rest) => (.error .noAck, rest, journal.note (.disconnected error))
  | ([], _, rest) => (.error .noAck, rest, journal)
  | (bytes, _, rest) =>
      match Ack.parse bytes with
      | .ok ack => (.ok ack, rest, journal)
      | .error error => (.error (.protocol error), rest, journal)

/-- What is known about a transfer that succeeded. -/
structure Report where
  /-- The name the file travelled under. -/
  filename : String
  /-- How much was sent, and how long it took. -/
  rate : Rate
  /-- The checksum of what was sent. -/
  checksum : UInt32
  /-- The answer. -/
  ack : Ack
  deriving DecidableEq, Repr

/-- What an attempt to send a file leaves. -/
structure Delivered where
  /-- The report, or why there is none. -/
  result : Except TransferError Report
  /-- The connection. -/
  connection : Connection
  /-- The clock. -/
  clock : Clock
  /-- What was reported. -/
  journal : Journal

/-- Send the frame of a file over a connection that was just made. -/
def transmit (config : Config) (address : SocketAddress) (outgoing : Outgoing)
    (outbound : Outbound) (clock : Clock) : Sending × Option TransferError :=
  let journal := Journal.empty.note (.connected address)
  let journal := journal.note (.sending outgoing.filename outgoing.declared)
  let (start, clock) := clock.now
  let session := Session.start 0 outgoing.declared config.sampleInterval start
  sendFrame outgoing.path config.effectiveBufferSize outgoing.header
    { outbound, source := outgoing.source, session, clock, journal }

/-- Wait for the answer to a frame that was sent. -/
def conclude (outgoing : Outgoing) (sent : Sending) (inbound : Inbound) : Delivered :=
  match readAck inbound sent.journal with
  | (.error error, inbound, journal) =>
      ⟨.error error, ⟨inbound, sent.outbound⟩, sent.clock, journal⟩
  | (.ok ack, inbound, journal) =>
      let journal := journal.note (.ackReceived ack)
      match ack with
      | .failure => ⟨.error .rejected, ⟨inbound, sent.outbound⟩, sent.clock, journal⟩
      | .success =>
          let (now, clock) := sent.clock.now
          let journal := journal.note (.sentSummary sent.session now)
          let report : Report :=
            ⟨outgoing.filename, sent.session.meter.overall now, sent.session.crc32, ack⟩
          ⟨.ok report, ⟨inbound, sent.outbound⟩, clock, journal⟩

/-- Send a file over a connection that was just made, and wait for the answer. -/
def deliver (config : Config) (address : SocketAddress) (outgoing : Outgoing)
    (connection : Connection) (clock : Clock) : Delivered :=
  match transmit config address outgoing connection.outbound clock with
  | (sent, some error) =>
      ⟨.error error, ⟨connection.inbound, sent.outbound⟩, sent.clock, sent.journal⟩
  | (sent, none) => conclude outgoing sent connection.inbound

/-- What an attempt to send a file leaves; without a connection, nothing was reported. -/
structure Sent where
  /-- The report, or why there is none. -/
  result : Except TransferError Report
  /-- The connection, if one was made. -/
  connection : Option Connection
  /-- What was reported. -/
  journal : Journal

/--
Send a file: open it, connect to the address, send the frame and wait for the answer.  `dial` is what
connecting gives.
-/
def send (config : Config) (tree : FileTree) (working : Location) (path : Path)
    (address : SocketAddress) (dial : Except IoError Connection) (clock : Clock) : Sent :=
  match prepare path (openSource tree working path) with
  | .error error => ⟨.error error, none, .empty⟩
  | .ok outgoing =>
      match dial with
      | .error error => ⟨.error (.connection address error), none, .empty⟩
      | .ok connection =>
          let delivered := deliver config address outgoing connection clock
          ⟨delivered.result, some delivered.connection, delivered.journal⟩

/-- Send a file with the standard configuration, and tell only whether that succeeded. -/
def sendFile (tree : FileTree) (working : Location) (path : Path) (address : SocketAddress)
    (dial : Except IoError Connection) (clock : Clock) : Except TransferError Unit :=
  (send .standard tree working path address dial clock).result.map fun _ => ()

end Sender

end FilePush
