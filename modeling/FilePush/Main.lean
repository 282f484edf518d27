import FilePush.Program.Client
import FilePush.Program.Server
import Std.Async.TCP
import Std.Sync.Mutex

/-!
# The command line

The first argument says which program runs, `client` or `server`, and the others are that program's
arguments.  What the programs decide and print is decided elsewhere: here files are read and
written, connections are made, and what comes of that is handed over.  The variable `TFP_LOG` tells
how important an event has to be to be printed.
-/

namespace FilePush

open Std.Async.TCP.Socket (Client Server)

namespace Main

/-! ## The surroundings -/

/-- The failure that the system reports as a number; some parts of it report its negative. -/
def numbered (code : UInt32) : IoError := .system code.toInt32.abs

/-- Why an action of the running system failed. -/
def systemError : IO.Error → IoError
  | .alreadyExists _ code _ | .inappropriateType _ code _ | .invalidArgument _ code _
  | .noSuchThing _ code _ | .permissionDenied _ code _ | .resourceExhausted _ code _
  | .interrupted _ code _ | .noFileOrDirectory _ code _ | .otherError code _
  | .resourceBusy code _ | .resourceVanished code _ | .unsupportedOperation code _
  | .hardwareFault code _ | .unsatisfiedConstraints code _ | .illegalOperation code _
  | .protocolError code _ | .timeExpired code _ => numbered code
  | .unexpectedEof => .other "end of file"
  | .userError text => .other text

/-- The result of an action, or why it failed. -/
def trying {α : Type} (action : IO α) : IO (Except IoError α) := do
  try
    return .ok (← action)
  catch error =>
    return .error (systemError error)

/-- An address as the network takes it, which is without a scope. -/
def networkAddress : SocketAddress → Std.Net.SocketAddress
  | .v4 octets port => .v4 ⟨⟨octets⟩, port⟩
  | .v6 groups _ port => .v6 ⟨⟨groups⟩, port⟩

/-- An address that the network gives. -/
def peerAddress : Std.Net.SocketAddress → SocketAddress
  | .v4 ⟨⟨octets⟩, port⟩ => .v4 octets port
  | .v6 ⟨⟨groups⟩, port⟩ => .v6 groups 0 port

/-- A clock that shows when a transfer began and from then on when it ended. -/
def stopwatch (began ended : Nat) : Clock :=
  .ofReadings fun taken => if taken = 0 then began else ended

/-- A byte string as the system takes it. -/
def pack (bytes : Bytes) : ByteArray := ⟨bytes.toArray⟩

/-- What was received before a stream stopped. -/
def arrived (bytes : ByteArray) (stop : Stop) : Inbound :=
  let data := if bytes.isEmpty then [] else [.bytes bytes.toList]
  match stop with
  | .failed error => ⟨data ++ [.failure error]⟩
  | .full | .ended => ⟨data⟩

/-- Receive a number of bytes. -/
def receive (socket : Client) (wanted : Nat) : IO (ByteArray × Stop) := do
  let mut received := ByteArray.empty
  while received.size < wanted do
    let room := min (wanted - received.size) Config.defaultBufferSize
    match ← trying (socket.recv? (UInt64.ofNat room)).block with
    | .error error => return (received, .failed error)
    | .ok none => return (received, .ended)
    | .ok (some chunk) => received := received ++ chunk
  return (received, .full)

/-- Print lines at once. -/
def printLines (lines : List String) : IO Unit := do
  lines.forM fun line => IO.println line
  (← IO.getStdout).flush

/-- Print what a program prints, and give its exit status. -/
def print (output : Output) : IO UInt32 := do
  printLines output.lines
  output.errors.forM fun line => IO.eprintln line
  return output.status.toUInt32

/-! ## The client -/

/-- Open a file to be sent. -/
def openSource (path : Path) : IO (Except FileError (Source × Nat)) := do
  let file := (← IO.currentDir) / path.display
  if ← file.isDir then
    return .error (.unreadable path Sender.directoryRefused)
  match ← trying (IO.FS.readBinFile file) with
  | .ok content => return .ok (.content content.toList, content.size)
  | .error error =>
      return .error (if error = .notFound then .notFound path else .unreadable path error)

/-- Send a file that is ready over a new connection. -/
def sendOver (config : Config) (address : SocketAddress) (outgoing : Sender.Outgoing) :
    IO Sender.Sent := do
  let socket ← Client.mk
  match ← trying (socket.connect (networkAddress address)).block with
  | .error error => return ⟨.error (.connection address error), none, .empty⟩
  | .ok () =>
      let began ← IO.monoNanosNow
      let (sending, _) :=
        Sender.transmit config address outgoing .reliable (stopwatch began began)
      let sent ← trying (socket.send (pack sending.outbound.written)).block
      let (answer, stop) ← receive socket Ack.maxLength
      let ended ← IO.monoNanosNow
      let outbound : Outbound := match sent with
        | .ok () => .reliable
        | .error error => .opened (fun _ => .fails error) none none
      let delivered :=
        Sender.deliver config address outgoing ⟨arrived answer stop, outbound⟩
          (stopwatch began ended)
      return ⟨delivered.result, some delivered.connection, delivered.journal⟩

/-- Run the client. -/
def runClient (arguments : List String) (threshold : Threshold) : IO UInt32 := do
  match CommandLine.Client.parse arguments with
  | .error ending =>
      print (.ofEnding CommandLine.Client.usage CommandLine.Client.help ending)
  | .ok options =>
      let sent ← match Sender.prepare options.file (← openSource options.file) with
        | .error error => pure ⟨.error error, none, .empty⟩
        | .ok outgoing => sendOver options.config options.address outgoing
      let ran := Program.Client.conclude options threshold sent
      print (.ofResult ran.lines ran.result)

/-! ## The server -/

/-- A server at work. -/
structure Listener where
  /-- The socket it accepts connections at. -/
  socket : Server
  /-- Its state, shared by the connections being served. -/
  service : Std.Mutex Service
  /-- Tells that a connection was served. -/
  released : Std.Condvar
  /-- Which events are printed. -/
  threshold : Threshold

/-- The directories that stand in a directory. -/
def directoriesIn (directory : Path) : IO FileTree := do
  let entries ← ((← IO.currentDir) / directory.display).readDir
  let mut tree := FileTree.empty
  for entry in entries do
    if ← entry.path.isDir then
      tree := tree.insert [Utf8.encode entry.fileName] .directory
  return tree

/-- Store the files of a tree in a directory, each first under a name of its own. -/
def store (directory : Path) (sequence : Nat) (tree : FileTree) : IO Unit := do
  let place := (← IO.currentDir) / directory.display
  for (name, node) in (tree.children? []).getD [] do
    if let .file content := node then
      let unfinished := place / Name.staging sequence
      IO.FS.writeBinFile unfinished (pack content)
      IO.FS.rename unfinished (place / Utf8.lossy name)

/-- Receive a frame, as much of it as a receiver waits for. -/
def receiveFrame (socket : Client) (limit : Nat) : IO Inbound := do
  let mut received := ByteArray.empty
  let mut stop := Stop.full
  while stop = .full ∧ 0 < Receiver.awaited limit received.toList do
    let (more, stopped) ← receive socket (Receiver.awaited limit received.toList)
    received := received ++ more
    stop := stopped
  return arrived received stop

/-- Let the accept loop of a server take a step. -/
def advance (service : Service) (step : AcceptStep) : Service :=
  match service.loop.step? step with
  | some loop => { service with loop }
  | none => service

/-- Print the events that are important enough. -/
def report (listener : Listener) (journal : Journal) : IO Unit :=
  printLines (listener.threshold.lines journal)

/-- See to a connection that was accepted, and give the answer to it. -/
def settle (listener : Listener) (sequence : Nat) (peer : SocketAddress) (inbound : Inbound)
    (config : Config) (clock : Clock) : IO Bytes :=
  listener.service.atomically do
    let service ← get
    set (advance service (.finish sequence))
    let tree ← directoriesIn config.uploadsDirectory
    let ready := { service with tree, clock }
    match ready.serveAccepted service.loop sequence peer ⟨inbound, .reliable⟩ with
    | some (_, .served served, journal) =>
        store config.uploadsDirectory sequence served.tree
        report listener journal
        return served.connection.outbound.written
    | _ => return []

/-- Serve a connection that was accepted; without a file stored there is no answer. -/
def serve (listener : Listener) (sequence : Nat) (peer : SocketAddress) (socket : Client)
    (config : Config) : IO Unit := do
  let began ← IO.monoNanosNow
  let inbound ← receiveFrame socket config.maxFilenameLength
  let ended ← IO.monoNanosNow
  let settled ← trying (settle listener sequence peer inbound config (stopwatch began ended))
  listener.released.notifyAll
  match settled with
  | .error error => IO.eprintln error.message
  | .ok answer =>
      unless answer.isEmpty do
        (socket.send (pack answer)).block
      socket.shutdown.block

/-- Accept one connection after another for good. -/
def acceptAll (listener : Listener) (config : Config) : IO Unit := do
  while true do
    listener.service.atomicallyOnce listener.released
      (do return ((← get).loop.step? .prepare).isSome)
      (modify fun service => advance service .prepare)
    let accepted ← trying do
      let socket ← listener.socket.accept.block
      return (socket, peerAddress (← socket.getPeerName))
    match accepted with
    | .error error =>
        listener.service.atomically (modify fun service => advance service .acceptFailed)
        report listener (Journal.empty.note (.acceptFailed error))
    | .ok (socket, peer) =>
        let sequence ← listener.service.atomically do
          let service ← get
          set (advance service .accept)
          return service.loop.nextSequence
        discard (IO.asTask (serve listener sequence peer socket config) .dedicated)

/-- Make the uploads directory and bind the address. -/
def bindAddress (options : CommandLine.Server.Options) : IO (Except TransferError Server) := do
  let directory := options.config.uploadsDirectory
  match ← trying (IO.FS.createDirAll ((← IO.currentDir) / directory.display)) with
  | .error error => return .error (.file (.create directory error))
  | .ok () =>
      let socket ← Server.mk
      let bound ← trying do
        socket.bind (networkAddress options.address)
        socket.listen 1024
      return match bound with
        | .error error => .error (.bind options.address error)
        | .ok () => .ok socket

/-- Run the server. -/
def runServer (arguments : List String) (threshold : Threshold) : IO UInt32 := do
  match CommandLine.Server.parse arguments with
  | .error ending =>
      print (.ofEnding CommandLine.Server.usage CommandLine.Server.help ending)
  | .ok options =>
      match ← bindAddress options with
      | .error error =>
          let lines := Program.Server.startLines options threshold ⟨.error error, .empty, .empty⟩
          print (.ofResult lines (.error error))
      | .ok socket =>
          let reported := announcement options.config options.address
          let lines := Program.Server.startLines options threshold ⟨.ok [], .empty, reported⟩
          printLines lines
          let service := Service.start options.config [] .empty (stopwatch 0 0)
          let listener : Listener :=
            ⟨socket, ← Std.Mutex.new service, ← Std.Condvar.new, threshold⟩
          acceptAll listener options.config
          return 0

end Main

end FilePush

/-- Run the program that the first argument names. -/
def main (arguments : List String) : IO UInt32 := do
  let threshold := FilePush.Threshold.ofName (← IO.getEnv "TFP_LOG")
  match arguments with
  | "client" :: rest => FilePush.Main.runClient rest threshold
  | "server" :: rest => FilePush.Main.runServer rest threshold
  | _ =>
      IO.eprintln FilePush.CommandLine.Client.usage
      IO.eprintln FilePush.CommandLine.Server.usage
      return 1
