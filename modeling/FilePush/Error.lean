import FilePush.Network.Address
import FilePush.Path

/-!
# Failures of a transfer

Each failure is a cause, and its wording stands in one place.  `TransferError.sources` lists the
causes below a failure, outermost first.
-/

namespace FilePush

/-- What can be wrong with the bytes of the protocol. -/
inductive ProtocolError
  /-- A field is cut short. -/
  | truncated (field : String) (expected got : Nat)
  /-- A file name is longer than the limit. -/
  | nameTooLong (length limit : Nat)
  /-- A file name cannot be stored under. -/
  | invalidFilename (name : String)
  /-- An acknowledgement is no known token. -/
  | unknownAck (token : Bytes)
  deriving DecidableEq, Repr

/-- What can go wrong with a local file. -/
inductive FileError
  /-- The file does not exist. -/
  | notFound (path : Path)
  /-- The name of the file is not text. -/
  | nonUtf8Name (path : Path)
  /-- The file cannot be read. -/
  | unreadable (path : Path) (cause : IoError)
  /-- The file or directory cannot be created. -/
  | create (path : Path) (cause : IoError)
  /-- The file cannot be written. -/
  | write (path : Path) (cause : IoError)
  /-- The file ended before the declared size was reached. -/
  | shrunk (path : Path) (declared sent : Nat)
  deriving DecidableEq, Repr

/-- What can make a transfer fail. -/
inductive TransferError
  /-- The connection could not be made. -/
  | connection (address : SocketAddress) (cause : IoError)
  /-- The address could not be bound. -/
  | bind (address : SocketAddress) (cause : IoError)
  /-- The peer broke the protocol. -/
  | protocol (cause : ProtocolError)
  /-- A local file failed. -/
  | file (cause : FileError)
  /-- The receiver answered that the transfer failed. -/
  | rejected
  /-- The connection closed before an answer. -/
  | noAck
  /-- The connection failed. -/
  | io (cause : IoError)
  deriving DecidableEq, Repr

/-- The numbers of a byte string, in brackets. -/
def ProtocolError.numbers (bytes : Bytes) : String :=
  "[" ++ ", ".intercalate (bytes.map fun byte => toString byte.toNat) ++ "]"

/-- The text of a protocol error. -/
def ProtocolError.message : ProtocolError → String
  | truncated field expected got => s!"필드 잘림: {field} expected {expected} bytes, got {got}"
  | nameTooLong length limit => s!"파일 이름이 너무 김: {length} bytes (최대 {limit})"
  | invalidFilename name => s!"유효하지 않은 파일 이름: {Quoted.text name}"
  | unknownAck token => s!"알 수 없는 ACK 토큰: {numbers token}"

/-- The text of a file error. -/
def FileError.message : FileError → String
  | notFound path => s!"파일 없음: {path.display}"
  | nonUtf8Name path => s!"UTF-8이 아닌 파일 이름은 전송 불가: {path.quoted}"
  | unreadable path cause => s!"파일 읽기 불가: {path.display}: {cause.message}"
  | create path cause => s!"파일 생성 실패: {path.display}: {cause.message}"
  | write path cause => s!"파일 쓰기 실패: {path.display}: {cause.message}"
  | shrunk path declared sent =>
      s!"전송 중 파일 크기 감소: {path.display}: declared {declared} bytes, sent {sent}"

/-- The cause below a file error. -/
def FileError.cause? : FileError → Option IoError
  | unreadable _ cause | create _ cause | write _ cause => some cause
  | notFound _ | nonUtf8Name _ | shrunk _ _ _ => none

/-- The text of a transfer error. -/
def TransferError.message : TransferError → String
  | connection address cause => s!"연결 실패: {address.display}: {cause.message}"
  | bind address cause => s!"바인드 실패: {address.display}: {cause.message}"
  | protocol cause => s!"프로토콜 에러: {cause.message}"
  | file cause => s!"파일 에러: {cause.message}"
  | rejected => "서버가 전송을 거부함 (all bad)"
  | noAck => "ACK 수신 전 연결 종료"
  | io cause => s!"IO 에러: {cause.message}"

/-- The texts of the causes below a transfer error, outermost first. -/
def TransferError.sources : TransferError → List String
  | connection _ cause | bind _ cause | io cause => [cause.message]
  | protocol cause => [cause.message]
  | file cause => cause.message :: (cause.cause?.map IoError.message).toList
  | rejected | noAck => []

end FilePush
