import FilePush.CommandLine.Basic

/-!
# The server's command line

The server takes a port, and may be told its uploads directory, how many connections to serve at a
time, its buffer size and its sampling interval.
-/

namespace FilePush

namespace CommandLine

namespace Server

/-- What the server is told to do. -/
structure Options where
  /-- The address to bind. -/
  address : SocketAddress
  /-- How to serve. -/
  config : Config
  deriving DecidableEq, Repr

/-- What an option of the server sets. -/
inductive Setting
  /-- The uploads directory. -/
  | uploadsDirectory
  /-- How many connections are served at a time. -/
  | maxConnections
  /-- The buffer size. -/
  | bufferSize
  /-- The sampling interval, in seconds. -/
  | sampleInterval
  deriving DecidableEq, Repr

/-- The usage of the server. -/
def usage : String :=
  "Usage: tfp-server <PORT> [--uploads-dir DIR] [--max-connections N] [--buffer-size BYTES] " ++
    "[--sample-interval SECS]"

/-- The lines of the server's help. -/
def help : List String :=
  ["TFP Server - TCP File Push 서버",
    "",
    "연결마다 파일 하나를 받아 업로드 디렉터리에 저장",
    "",
    usage,
    "",
    "옵션:",
    "  -d, --uploads-dir <DIR>      저장 디렉터리 (기본: uploads)",
    "  -m, --max-connections <N>    동시 처리 연결 수 상한 (기본: 제한 없음)",
    "  --buffer-size <BYTES>        수신 청크 크기 (기본: 65536)",
    "  --sample-interval <SECS>     처리율 로깅 주기 (기본: 3)",
    "  -h, --help                   이 도움말 출력",
    ""]

/-- What an argument is. -/
def recognise : String → Argument Setting
  | "--uploads-dir" | "-d" => .option .uploadsDirectory
  | "--max-connections" | "-m" => .option .maxConnections
  | "--buffer-size" => .option .bufferSize
  | "--sample-interval" => .option .sampleInterval
  | "--help" | "-h" => .help
  | _ => .positional

/-- What an option does. -/
def apply : Apply Setting
  | .uploadsDirectory, _, value, config => .ok (config.withUploadsDirectory (.ofString value))
  | .maxConnections, spelling, value, config =>
      (number spelling value).map config.withMaxConnections
  | .bufferSize, spelling, value, config =>
      (number spelling value).map fun bufferSize => { config with bufferSize }
  | .sampleInterval, spelling, value, config =>
      (number spelling value).map fun seconds =>
        { config with sampleInterval := seconds * nanosPerSecond }

/-- The address of every network interface. -/
def everyInterface : IpAddress := .v4 #v[0, 0, 0, 0]

/-- The options that the words of a command line give. -/
def parseWords (words : Array String) : Except Ending Options :=
  match read recognise apply words with
  | .error ending => .error ending
  | .ok (config, [portText]) =>
      match port portText with
      | .error ending => .error ending
      | .ok port => .ok ⟨.ofIp everyInterface port, config⟩
  | .ok _ => .error (.invalid .wrongCount)

/-- The options that the arguments after the program's name give. -/
def parse (arguments : List String) : Except Ending Options :=
  parseWords ("tfp-server" :: arguments).toArray

end Server

end CommandLine

end FilePush
