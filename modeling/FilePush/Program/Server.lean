import FilePush.CommandLine.Server
import FilePush.Program.Output
import FilePush.Server.Service

/-!
# The server program

The server prints how it was started, binds its address and serves connections for good.
-/

namespace FilePush

namespace Program

namespace Server

/-- The lines that tell how the server was started and bound. -/
def startLines (options : CommandLine.Server.Options) (threshold : Threshold) (bound : Bound) :
    List String :=
  let journal := Journal.empty.note .serverStarting
  let journal := journal.note (.bindAddress options.address)
  let journal := journal.note (.bufferSize options.config.bufferSize)
  let journal := journal.note (.sampleInterval options.config.sampleInterval)
  threshold.lines (journal ++ bound.journal)

/-- What the start of the server leaves. -/
structure Started where
  /-- The lines printed. -/
  lines : List String
  /-- The server, or why there is none. -/
  result : Except TransferError Service
  /-- The files. -/
  tree : FileTree

/-- Start what the server is told to be; the address may be in use already. -/
def start (options : CommandLine.Server.Options) (threshold : Threshold) (inUse : Bool)
    (tree : FileTree) (working : Location) (clock : Clock) : Started :=
  let bound := bind options.config options.address inUse tree working
  let lines := startLines options threshold bound
  match bound.result with
  | .error error => ⟨lines, .error error, bound.tree⟩
  | .ok directory =>
      ⟨lines, .ok (.start options.config directory bound.tree clock), bound.tree⟩

/-- The output of the start of the server for its arguments, and the server if it started. -/
def output (arguments : List String) (threshold : Threshold) (inUse : SocketAddress → Bool)
    (tree : FileTree) (working : Location) (clock : Clock) : Output × Option Service :=
  match CommandLine.Server.parse arguments with
  | .error ending =>
      (.ofEnding CommandLine.Server.usage CommandLine.Server.help ending, none)
  | .ok options =>
      let started := start options threshold (inUse options.address) tree working clock
      (.ofResult started.lines (started.result.map fun _ => ()), started.result.toOption)

end Server

end Program

end FilePush
