import FilePush.CommandLine.Client
import FilePush.Program.Output
import FilePush.Sender

/-!
# The client program

The client sends one file and prints what was sent and what the server answered.
-/

namespace FilePush

namespace Program

namespace Client

/-- The lines that tell of a file that was sent. -/
def reportLines (report : Sender.Report) : List String :=
  let elapsed := FixedPoint.render 2 report.rate.elapsed.seconds
  let sent := s!"file {report.filename} sent: {report.rate.bytes} bytes in {elapsed}s"
  let checksum := Session.renderChecksum report.checksum
  [s!"{sent} ({report.rate.display}, crc32={checksum})",
    s!"server response: {report.ack.token}"]

/-- What a run of the client leaves. -/
structure Ran where
  /-- The lines printed. -/
  lines : List String
  /-- Whether the file was sent, or why not. -/
  result : Except TransferError Unit
  /-- The connection, if one was made. -/
  connection : Option Connection

/-- What the client prints about an attempt to send its file. -/
def conclude (options : CommandLine.Client.Options) (threshold : Threshold)
    (sent : Sender.Sent) : Ran :=
  let journal := Journal.empty.note .clientStarting
  let journal := journal.note (.serverAddress options.address)
  let journal := journal.note (.sourceFile options.file)
  let lines := threshold.lines (journal ++ sent.journal)
  match sent.result with
  | .error error => ⟨lines, .error error, sent.connection⟩
  | .ok report => ⟨lines ++ reportLines report, .ok (), sent.connection⟩

/-- Do what the client is told to do; `dial` is what connecting to the address gives. -/
def run (options : CommandLine.Client.Options) (threshold : Threshold) (tree : FileTree)
    (working : Location) (dial : Except IoError Connection) (clock : Clock) : Ran :=
  conclude options threshold
    (Sender.send options.config tree working options.file options.address dial clock)

/-- The output of the client for its arguments. -/
def output (arguments : List String) (threshold : Threshold) (tree : FileTree)
    (working : Location) (dial : SocketAddress → Except IoError Connection) (clock : Clock) :
    Output × Option Connection :=
  match CommandLine.Client.parse arguments with
  | .error ending =>
      (.ofEnding CommandLine.Client.usage CommandLine.Client.help ending, none)
  | .ok options =>
      let ran := run options threshold tree working (dial options.address) clock
      (.ofResult ran.lines ran.result, ran.connection)

end Client

end Program

end FilePush
