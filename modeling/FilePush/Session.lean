import FilePush.Checksum
import FilePush.Meter
import FilePush.Text.Numeral

/-!
# Transfer sessions

A session follows one payload: how many of its declared bytes were moved, their checksum, and how
the transfer ended.  None of this depends on the chunks in which the payload is moved.
-/

namespace FilePush

/-- How a transfer stands or ended. -/
inductive Outcome
  /-- It has not ended. -/
  | inProgress
  /-- All of the declared bytes were moved. -/
  | success
  /-- Another number of bytes was moved. -/
  | sizeMismatch
  /-- A file failed. -/
  | ioError
  /-- The connection failed, or the header was refused. -/
  | connectionError
  deriving DecidableEq, Repr

namespace Outcome

/-- Whether a transfer succeeded. -/
def isSuccess (outcome : Outcome) : Bool := outcome = success

/-- An outcome as it is shown. -/
def display : Outcome → String
  | inProgress => "in_progress"
  | success => "success"
  | sizeMismatch => "size_mismatch"
  | ioError => "io_error"
  | connectionError => "connection_error"

/-- The name of an outcome. -/
def name : Outcome → String
  | inProgress => "InProgress"
  | success => "Success"
  | sizeMismatch => "SizeMismatch"
  | ioError => "IoError"
  | connectionError => "ConnectionError"

end Outcome

/-- The state of a transfer. -/
structure Session where
  /-- The number of the connection. -/
  sequence : Nat
  /-- The number of payload bytes declared. -/
  declared : Nat
  /-- Counts the bytes moved. -/
  meter : Meter
  /-- The checksum of the bytes moved. -/
  checksum : Checksum
  /-- How the transfer ended. -/
  outcome : Outcome
  deriving DecidableEq, Repr

namespace Session

/-- A session before any byte is moved. -/
def start (sequence declared : Nat) (interval : Duration) (now : Instant) : Session :=
  ⟨sequence, declared, Meter.startingAt now interval, Checksum.initial, .inProgress⟩

/-- The number of bytes moved. -/
def transferred (session : Session) : Nat := session.meter.total

/-- The number of declared bytes not moved. -/
def remaining (session : Session) : Nat := session.declared - session.transferred

/-- How many bytes to move next with a buffer of a given size. -/
def nextChunkLength (session : Session) (bufferSize : Nat) : Nat :=
  min session.remaining bufferSize

/-- Whether exactly the declared bytes were moved. -/
def isComplete (session : Session) : Bool := session.transferred = session.declared

/-- Note a chunk that was moved; gives a sample if one is due. -/
def record (session : Session) (chunk : Bytes) (now : Instant) : Option Sample × Session :=
  let (sample?, meter) := session.meter.record chunk.length now
  (sample?, { session with meter, checksum := session.checksum.update chunk })

/-- End the session by the number of bytes moved. -/
def finish (session : Session) : Session :=
  { session with outcome := if session.isComplete then .success else .sizeMismatch }

/-- End the session with an outcome decided elsewhere. -/
def fail (session : Session) (outcome : Outcome) : Session := { session with outcome }

/-- The checksum of the bytes moved. -/
def crc32 (session : Session) : UInt32 := session.checksum.value

/-- A checksum as it is shown: eight hexadecimal digits. -/
def renderChecksum (checksum : UInt32) : String := Numeral.hex 8 checksum.toNat

/-- The state of a session at a moment, as text. -/
def summary (session : Session) (now : Instant) : String :=
  let counts := s!"{session.transferred}/{session.declared} bytes"
  s!"{session.meter.summary now} | {counts} | crc32={renderChecksum session.crc32}"

/-- The fields of a session, as text. -/
def describe (session : Session) : String :=
  let fields :=
    [s!"client_sequence: {session.sequence}", s!"declared_size: {session.declared}",
      s!"bytes_transferred: {session.transferred}", s!"outcome: {session.outcome.name}"]
  "TransferSession \x7b " ++ ", ".intercalate fields ++ " \x7d"

@[simp]
theorem transferred_record (session : Session) (chunk : Bytes) (now : Instant) :
    (session.record chunk now).2.transferred = session.transferred + chunk.length := by
  simp only [record, transferred, Meter.record]
  split <;> rfl

@[simp]
theorem declared_record (session : Session) (chunk : Bytes) (now : Instant) :
    (session.record chunk now).2.declared = session.declared := by
  simp [record]

theorem remaining_record (session : Session) (chunk : Bytes) (now : Instant) :
    (session.record chunk now).2.remaining = session.remaining - chunk.length := by
  simp only [remaining, transferred_record, declared_record]
  omega

theorem remaining_record_lt (session : Session) (chunk : Bytes) (now : Instant)
    (nonempty : 0 < chunk.length) (fits : chunk.length ≤ session.remaining) :
    (session.record chunk now).2.remaining < session.remaining := by
  rw [remaining_record]
  omega

theorem transferred_record_le {session : Session} {chunk : Bytes} (now : Instant)
    (within : session.transferred ≤ session.declared) (fits : chunk.length ≤ session.remaining) :
    (session.record chunk now).2.transferred ≤ (session.record chunk now).2.declared := by
  rw [transferred_record, declared_record]
  simp only [remaining] at fits
  omega

theorem remaining_of_isComplete {session : Session} (complete : session.isComplete) :
    session.remaining = 0 := by
  simp only [isComplete, decide_eq_true_eq] at complete
  simp [remaining, complete]

theorem remaining_pos {session : Session} (within : session.transferred ≤ session.declared)
    (incomplete : ¬session.isComplete) : 0 < session.remaining := by
  simp only [isComplete, decide_eq_true_eq] at incomplete
  simp only [remaining]
  omega

end Session

end FilePush
