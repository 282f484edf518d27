import FilePush.Receiver
import FilePush.Server.AcceptLoop

/-!
# Servers

A server makes its uploads directory, binds its address and then serves the connections that it
accepts.  A connection that cannot be accepted is reported and changes nothing else.
-/

namespace FilePush

/-- What binding a server leaves. -/
structure Bound where
  /-- Where the uploads directory stands, or why there is no server. -/
  result : Except TransferError Location
  /-- The files. -/
  tree : FileTree
  /-- What was reported. -/
  journal : Journal

/-- Make the uploads directory; the directory of an empty path is the working directory. -/
def makeUploadsDirectory (tree : FileTree) (working : Location) (path : Path) :
    FileTree × Except IoError Location :=
  if path.bytes = [] then (tree, .ok working)
  else
    match path.problem? with
    | some problem => (tree, .error problem)
    | none =>
        let start := if path.isAbsolute then [] else working
        let components := path.components.filter (· ≠ [])
        match tree.makeDirectories start components with
        | (made, some problem) => (made, .error problem)
        | (made, none) => (made, made.walk start components)

/-- What a server that was bound reports. -/
def announcement (config : Config) (address : SocketAddress) : Journal :=
  let journal := Journal.empty.note (.listening address)
  let journal := journal.note (.uploadsDirectory config.uploadsDirectory)
  journal.note (.connectionLimit config.maxConnections)

/-- Make the uploads directory and bind the address, which may be in use already. -/
def bind (config : Config) (address : SocketAddress) (inUse : Bool) (tree : FileTree)
    (working : Location) : Bound :=
  match makeUploadsDirectory tree working config.uploadsDirectory with
  | (made, .error error) =>
      ⟨.error (.file (.create config.uploadsDirectory error)), made, .empty⟩
  | (made, .ok directory) =>
      if inUse then ⟨.error (.bind address .addressInUse), made, .empty⟩
      else ⟨.ok directory, made, announcement config address⟩

/-- What a server that waits for a connection gets. -/
inductive Incoming
  /-- A connection from a peer. -/
  | connection (peer : SocketAddress) (connection : Connection)
  /-- A failure. -/
  | failed (error : IoError)

/-- What became of what a server got. -/
inductive Handled
  /-- The connection was served. -/
  | served (served : Receiver.Served)
  /-- No connection could be accepted. -/
  | notAccepted (error : IoError)

/-- A server that serves one connection after another. -/
structure Service where
  /-- Its configuration. -/
  config : Config
  /-- Where its uploads directory stands. -/
  directory : Location
  /-- Its accept loop. -/
  loop : AcceptLoop
  /-- The files. -/
  tree : FileTree
  /-- The clock. -/
  clock : Clock

namespace Service

/-- A server that was bound. -/
def start (config : Config) (directory : Location) (tree : FileTree) (clock : Clock) : Service :=
  ⟨config, directory, AcceptLoop.start config.maxConnections, tree, clock⟩

/-- Serve a connection that was accepted, and let the accept loop go on. -/
def serveAccepted (service : Service) (loop : AcceptLoop) (sequence : Nat) (peer : SocketAddress)
    (connection : Connection) : Option (Service × Handled × Journal) := do
  let served :=
    Receiver.serve service.config service.directory sequence connection service.tree service.clock
  let loop ← loop.step? (.finish sequence)
  let accepted := Journal.empty.noteFor sequence (.accepted peer)
  let journal := (accepted ++ served.journal).noteFor sequence (.served served.outcome)
  return ({ service with loop, tree := served.tree, clock := served.clock }, .served served, journal)

/--
Wait for what comes in and see to it; `none` if the server waits for a permit that it never gets.
-/
def next (service : Service) (incoming : Incoming) : Option (Service × Handled × Journal) := do
  let ready ← service.loop.step? .prepare
  match incoming with
  | .failed error =>
      let loop ← ready.step? .acceptFailed
      return ({ service with loop }, .notAccepted error, Journal.empty.note (.acceptFailed error))
  | .connection peer connection =>
      let loop ← ready.step? .accept
      service.serveAccepted loop ready.nextSequence peer connection

/-- See to one thing after another, and tell after each how the server stands. -/
def run (service : Service) : List Incoming → List (Service × Handled × Journal)
  | [] => []
  | incoming :: later =>
      match service.next incoming with
      | none => []
      | some handled => handled :: handled.1.run later

end Service

end FilePush
