import FilePush.Error

/-!
# Acknowledgements

After a payload the receiver answers with one of two tokens and a NUL byte.  A reader takes the token
with any number of NUL bytes after it, none included, and nothing else.
-/

namespace FilePush

/-- The receiver's answer to a transfer. -/
inductive Ack
  /-- All of the declared bytes were received and stored. -/
  | success
  /-- They were not. -/
  | failure
  deriving DecidableEq, Repr

namespace Ack

/-- The answer to a transfer that succeeded or did not. -/
def ofSuccess (succeeded : Bool) : Ack := if succeeded then success else failure

/-- The token of an answer. -/
def token : Ack → String
  | success => "all right"
  | failure => "all bad"

/-- The greatest number of bytes that an answer takes. -/
def maxLength : Nat := success.token.length + 1

/-- The bytes of an answer: its token and a NUL byte. -/
def toBytes (ack : Ack) : Bytes := Utf8.encode ack.token ++ [0]

/-- A byte string without the NUL bytes at its end. -/
def trimNuls (bytes : Bytes) : Bytes := (bytes.reverse.dropWhile (· = 0)).reverse

/-- The answer that a byte string holds. -/
def parse (bytes : Bytes) : Except ProtocolError Ack :=
  let trimmed := trimNuls bytes
  if trimmed = Utf8.encode success.token then .ok success
  else if trimmed = Utf8.encode failure.token then .ok failure
  else .error (.unknownAck bytes)

end Ack

end FilePush
