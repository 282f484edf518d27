import FilePush.Frame.Ack
import FilePush.Session
import FilePush.Text.Terminal

/-!
# Events

What the two ends of a transfer report while they work.  An event carries what it is about; its
level, the part of the program that reports it and its wording follow from that.
-/

namespace FilePush

/-- How important an event is. -/
inductive Level
  /-- Something failed for good. -/
  | error
  /-- Something failed. -/
  | warn
  /-- Something that a user may want to follow. -/
  | info
  /-- Details. -/
  | debug
  deriving DecidableEq, Repr

namespace Level

/-- A level as it is shown. -/
def display : Level → String
  | error => "ERROR"
  | warn => "WARN"
  | info => "INFO"
  | debug => "DEBUG"

/-- How far a level is from the most important one. -/
def rank : Level → Nat
  | error => 0
  | warn => 1
  | info => 2
  | debug => 3

end Level

/-- The part of the program that reports an event. -/
inductive Reporter
  /-- The client program. -/
  | clientProgram
  /-- The server program. -/
  | serverProgram
  /-- The sending of a file. -/
  | sender
  /-- The accepting of connections. -/
  | listener
  /-- The receiving of a file. -/
  | receiver
  deriving DecidableEq, Repr

/-- A reporter as it is shown. -/
def Reporter.display : Reporter → String
  | clientProgram => "tfp_client"
  | serverProgram => "tfp_server"
  | sender => "tfp::sender"
  | listener => "tfp::server"
  | receiver => "tfp::handler"

/-- What an event is about. -/
inductive Notice
  /-- A connection is about to be served. -/
  | newConnection
  /-- The header of a frame could not be read. -/
  | headerFailed (cause : TransferError)
  /-- The name in a header was refused. -/
  | nameRefused (cause : ProtocolError)
  /-- The name a file is received under. -/
  | filename (name : String)
  /-- The declared size of a file. -/
  | fileSize (size : Nat)
  /-- A local file failed. -/
  | fileFailed (cause : FileError)
  /-- The stream ended before the declared size was reached. -/
  | endedEarly (received declared : Nat)
  /-- The stream failed. -/
  | receiveFailed (cause : IoError)
  /-- A chunk could not be written. -/
  | writeFailed (cause : IoError)
  /-- A throughput sample of a receiver. -/
  | speeds (sample : Sample)
  /-- The throughput and outcome of a transfer received. -/
  | result (rate : Rate) (outcome : Outcome)
  /-- The state of a session at a moment. -/
  | receivedSummary (session : Session) (now : Instant)
  /-- An answer could not be sent. -/
  | ackFailed (cause : IoError)
  /-- An answer was sent. -/
  | ackSent (ack : Ack)
  /-- A connection was made. -/
  | connected (address : SocketAddress)
  /-- A file is about to be sent. -/
  | sending (name : String) (size : Nat)
  /-- A throughput sample of a sender. -/
  | progress (sent declared : Nat) (sample : Sample)
  /-- The connection failed. -/
  | disconnected (cause : IoError)
  /-- An answer was received. -/
  | ackReceived (ack : Ack)
  /-- The state of a session at a moment. -/
  | sentSummary (session : Session) (now : Instant)
  /-- The address a server listens at. -/
  | listening (address : SocketAddress)
  /-- Where a server stores files. -/
  | uploadsDirectory (path : Path)
  /-- How many connections a server serves at a time. -/
  | connectionLimit (limit : Option Nat)
  /-- A connection could not be accepted. -/
  | acceptFailed (cause : IoError)
  /-- A connection was accepted. -/
  | accepted (peer : SocketAddress)
  /-- A connection was served. -/
  | served (outcome : Outcome)
  /-- The client program starts. -/
  | clientStarting
  /-- The address a client connects to. -/
  | serverAddress (address : SocketAddress)
  /-- The file a client sends. -/
  | sourceFile (path : Path)
  /-- The server program starts. -/
  | serverStarting
  /-- The address a server binds. -/
  | bindAddress (address : SocketAddress)
  /-- The buffer size of a server. -/
  | bufferSize (size : Nat)
  /-- The sampling interval of a server. -/
  | sampleInterval (interval : Duration)
  deriving DecidableEq, Repr

namespace Notice

/-- The level at which something is reported. -/
def level : Notice → Level
  | headerFailed _ | nameRefused _ | fileFailed _ | endedEarly _ _ | receiveFailed _
  | writeFailed _ | ackFailed _ | acceptFailed _ => .warn
  | newConnection | ackSent _ | disconnected _ | ackReceived _ | served _ => .debug
  | _ => .info

/-- Who reports something. -/
def reporter : Notice → Reporter
  | clientStarting | serverAddress _ | sourceFile _ => .clientProgram
  | serverStarting | bindAddress _ | bufferSize _ | sampleInterval _ => .serverProgram
  | connected _ | sending _ _ | progress _ _ _ | disconnected _ | ackReceived _
  | sentSummary _ _ => .sender
  | listening _ | uploadsDirectory _ | connectionLimit _ | acceptFailed _ | accepted _
  | served _ => .listener
  | _ => .receiver

/-- The share of the declared bytes that were sent, in percent. -/
def percentage (sent declared : Nat) : Float :=
  (UInt64.ofNat sent).toFloat / (UInt64.ofNat declared).toFloat * 100.0

/-- The wording of a report. -/
def message : Notice → String
  | newConnection => "*** new connection ***"
  | headerFailed cause => s!"헤더 수신 실패: {cause.message}"
  | nameRefused cause => s!"파일 이름 거부: {cause.message}"
  | filename name => s!"received filename: {name}"
  | fileSize size => s!"received file size: {size}"
  | fileFailed cause => cause.message
  | endedEarly received declared => s!"연결 조기 종료: {received}/{declared} bytes"
  | receiveFailed cause => s!"수신 에러: {cause.message}"
  | writeFailed cause => s!"파일 쓰기 실패: {cause.message}"
  | speeds sample =>
      s!"instant speed: {sample.window.display}, average speed: {sample.total.display}"
  | result rate outcome => s!"speed: {rate.display}, outcome: {outcome.display}"
  | receivedSummary session now | sentSummary session now => session.summary now
  | ackFailed cause => s!"ACK 전송 실패: {cause.message}"
  | ackSent ack => s!"ack sent: {ack.token}"
  | connected address => s!"Connected to {address.display}"
  | sending name size => s!"Sending {name} ({size} bytes)"
  | progress sent declared sample =>
      let percent := FixedPoint.render 1 (percentage sent declared)
      s!"Progress: {sent}/{declared} bytes ({percent}%), {sample.window.display}"
  | disconnected cause => s!"연결 끊김: {cause.message}"
  | ackReceived ack => s!"ack received: {ack.token}"
  | listening address => s!"TFP Server listening on {address.display}"
  | uploadsDirectory path => s!"Uploads directory: {path.display}"
  | connectionLimit (some limit) => s!"Max concurrent connections: {limit}"
  | connectionLimit none => "Max concurrent connections: unbounded"
  | acceptFailed cause => s!"accept 실패: {cause.message}"
  | accepted peer => s!"new connection from {peer.display}"
  | served outcome => s!"handler finished: {outcome.display}"
  | clientStarting => "TFP Client starting..."
  | serverAddress address => s!"Server address: {address.display}"
  | sourceFile path => s!"File: {path.display}"
  | serverStarting => "TFP Server starting..."
  | bindAddress address => s!"Bind address: {address.display}"
  | bufferSize size => s!"Buffer size: {size} bytes"
  | sampleInterval interval =>
      let seconds := FixedPoint.render 1 interval.seconds
      s!"Sample interval: {seconds}s"

end Notice

/-- A report, and the number of the connection that it is about. -/
structure Event where
  /-- What is reported. -/
  notice : Notice
  /-- The number of the connection, if it is about one that was accepted. -/
  client : Option Nat
  deriving DecidableEq, Repr

/-- An event as a line of a log, whose message may go on over further lines. -/
def Event.line (event : Event) : String :=
  let notice := event.notice
  let message := Terminal.text notice.message
  let client := match event.client with
    | some sequence => s!" client={sequence}"
    | none => ""
  s!"{notice.level.display} {notice.reporter.display}: {message}{client}"

/-- The events so far, in the order in which they happened. -/
structure Journal where
  /-- The events, the latest first. -/
  latestFirst : List Event
  deriving DecidableEq, Repr

namespace Journal

/-- No events. -/
def empty : Journal := ⟨[]⟩

/-- The events, the earliest first. -/
def events (journal : Journal) : List Event := journal.latestFirst.reverse

/-- Note an event that belongs to no connection accepted. -/
def note (journal : Journal) (notice : Notice) : Journal :=
  ⟨⟨notice, none⟩ :: journal.latestFirst⟩

/-- Note an event of a connection accepted. -/
def noteFor (journal : Journal) (client : Nat) (notice : Notice) : Journal :=
  ⟨⟨notice, some client⟩ :: journal.latestFirst⟩

/-- One journal after another. -/
def append (earlier later : Journal) : Journal := ⟨later.latestFirst ++ earlier.latestFirst⟩

instance : Append Journal := ⟨append⟩

@[simp]
theorem events_note (journal : Journal) (notice : Notice) :
    (journal.note notice).events = journal.events ++ [⟨notice, none⟩] := by
  simp [events, note]

@[simp]
theorem events_noteFor (journal : Journal) (client : Nat) (notice : Notice) :
    (journal.noteFor client notice).events = journal.events ++ [⟨notice, some client⟩] := by
  simp [events, noteFor]

end Journal

end FilePush
