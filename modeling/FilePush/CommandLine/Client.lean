import FilePush.CommandLine.Basic

/-!
# The client's command line

The client takes a file, an address and a port, and may be told its buffer size.
-/

namespace FilePush

namespace CommandLine

namespace Client

/-- What the client is told to do. -/
structure Options where
  /-- The file to send. -/
  file : Path
  /-- Where to send it. -/
  address : SocketAddress
  /-- How to send it. -/
  config : Config
  deriving DecidableEq, Repr

/-- What an option of the client sets. -/
inductive Setting
  /-- The buffer size. -/
  | bufferSize
  deriving DecidableEq, Repr

/-- The usage of the client. -/
def usage : String :=
  "Usage: tfp-client <PATH TO FILE> <SERVER IP> <SERVER PORT> [--buffer-size BYTES]"

/-- The lines of the client's help. -/
def help : List String :=
  ["TFP Client - TCP File Push 클라이언트",
    "",
    "파일 하나를 서버로 전송하고 서버 응답(\"all right\" / \"all bad\")을 출력",
    "",
    usage,
    "",
    "옵션:",
    "  -b, --buffer-size <BYTES>   송신 청크 크기 (기본: 65536)",
    "  -h, --help                  이 도움말 출력",
    ""]

/-- What an argument is. -/
def recognise : String → Argument Setting
  | "--buffer-size" | "-b" => .option .bufferSize
  | "--help" | "-h" => .help
  | _ => .positional

/-- What an option does. -/
def apply : Apply Setting
  | .bufferSize, spelling, value, config =>
      (number spelling value).map fun bufferSize => { config with bufferSize }

/-- The options that the words of a command line give. -/
def parseWords (words : Array String) : Except Ending Options :=
  match read recognise apply words with
  | .error ending => .error ending
  | .ok (config, [file, ip, portText]) =>
      match IpAddress.parse? ip with
      | none => .error (.invalid (.invalidAddress ip))
      | some address =>
          match port portText with
          | .error ending => .error ending
          | .ok port => .ok ⟨.ofString file, .ofIp address port, config⟩
  | .ok _ => .error (.invalid .wrongCount)

/-- The options that the arguments after the program's name give. -/
def parse (arguments : List String) : Except Ending Options :=
  parseWords ("tfp-client" :: arguments).toArray

end Client

end CommandLine

end FilePush
