import FilePush.Error
import FilePush.Stream.Inbound

/-!
# Frame headers

A frame is a header and the payload after it.  The header is the length of the file name in two
bytes, the file name, and the payload size in eight bytes, both numbers big-endian.  `encode` writes
a header; `decode` reads one from the start of a byte string, and `readFrom` reads one field by field
from a stream.
-/

namespace FilePush

/-- What precedes the payload of a frame. -/
structure Header where
  /-- The file name, as sent. -/
  filename : Bytes
  /-- The number of payload bytes. -/
  fileSize : UInt64
  deriving DecidableEq, Repr

namespace Header

/-- The width of the name length. -/
def lengthWidth : Nat := 2

/-- The width of the payload size. -/
def sizeWidth : Nat := 8

/-- What the name length is called in errors. -/
def lengthField : String := "filename_length"

/-- What the name is called in errors. -/
def nameField : String := "filename"

/-- What the payload size is called in errors. -/
def sizeField : String := "file_size"

/-- The greatest length of a name that a header can tell. -/
def nameLimit : Nat := 65535

/-- The number of bytes that a header takes. -/
def encodedLength (header : Header) : Nat := lengthWidth + header.filename.length + sizeWidth

/-- Write a name length. -/
def encodeLength (length : UInt16) : Bytes := Bytes.bigEndian lengthWidth length.toNat

/-- Write a payload size. -/
def encodeSize (size : UInt64) : Bytes := Bytes.bigEndian sizeWidth size.toNat

/-- The first `width` bytes, which a field has to have. -/
def takeField (field : String) (width : Nat) (bytes : Bytes) : Except ProtocolError Bytes :=
  if width ≤ bytes.length then .ok (bytes.take width)
  else .error (.truncated field width bytes.length)

/-- Read a name length. -/
def decodeLength (bytes : Bytes) : Except ProtocolError UInt16 :=
  (takeField lengthField lengthWidth bytes).map fun field =>
    UInt16.ofNat (Bytes.ofBigEndian field)

/-- Read a payload size. -/
def decodeSize (bytes : Bytes) : Except ProtocolError UInt64 :=
  (takeField sizeField sizeWidth bytes).map fun field => UInt64.ofNat (Bytes.ofBigEndian field)

/-- Write a header. -/
def encode (header : Header) : Except ProtocolError Bytes :=
  if header.filename.length ≤ nameLimit then
    .ok (encodeLength (UInt16.ofNat header.filename.length) ++ header.filename ++
      encodeSize header.fileSize)
  else .error (.nameTooLong header.filename.length nameLimit)

/--
Read a header whose name has at most `limit` bytes from the start of a byte string; gives the header
and the number of bytes it took.
-/
def decode (bytes : Bytes) (limit : Nat) : Except ProtocolError (Header × Nat) := do
  let length := (← decodeLength bytes).toNat
  if limit < length then throw (.nameTooLong length limit)
  let rest := bytes.drop lengthWidth
  let filename ← takeField nameField length rest
  let fileSize ← decodeSize (rest.drop length)
  let header : Header := ⟨filename, fileSize⟩
  return (header, header.encodedLength)

/-- Read the `width` bytes of a field from a stream. -/
def readField (field : String) (width : Nat) (inbound : Inbound) :
    Except TransferError Bytes × Inbound :=
  match inbound.collect width with
  | (bytes, .full, rest) => (.ok bytes, rest)
  | (bytes, .ended, rest) => (.error (.protocol (.truncated field width bytes.length)), rest)
  | (_, .failed error, rest) => (.error (.io error), rest)

/-- Read a header whose name has at most `limit` bytes from a stream, field by field. -/
def readFrom (inbound : Inbound) (limit : Nat) : Except TransferError Header × Inbound :=
  match readField lengthField lengthWidth inbound with
  | (.error error, rest) => (.error error, rest)
  | (.ok lengthBytes, rest) =>
      let length := Bytes.ofBigEndian lengthBytes
      if limit < length then (.error (.protocol (.nameTooLong length limit)), rest)
      else
        match readField nameField length rest with
        | (.error error, rest) => (.error error, rest)
        | (.ok filename, rest) =>
            match readField sizeField sizeWidth rest with
            | (.error error, rest) => (.error error, rest)
            | (.ok sizeBytes, rest) =>
                (.ok ⟨filename, UInt64.ofNat (Bytes.ofBigEndian sizeBytes)⟩, rest)

end Header

end FilePush
