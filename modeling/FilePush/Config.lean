import FilePush.Clock
import FilePush.Path

/-!
# Configuration

What the two ends of a transfer can be told.  None of it is part of the protocol.
-/

namespace FilePush

/-- The configuration of a client or a server. -/
structure Config where
  /-- How many bytes to move at a time. -/
  bufferSize : Nat
  /-- The least time between two throughput samples. -/
  sampleInterval : Duration
  /-- Where received files are stored. -/
  uploadsDirectory : Path
  /-- The greatest length of a received file name. -/
  maxFilenameLength : Nat
  /-- How many connections are served at a time, if that is limited. -/
  maxConnections : Option Nat
  deriving DecidableEq, Repr

namespace Config

/-- The usual buffer size. -/
def defaultBufferSize : Nat := 64 * 1024

/-- The usual sampling interval, in seconds. -/
def defaultSampleSeconds : Nat := 3

/-- The usual uploads directory. -/
def defaultUploadsDirectory : String := "uploads"

/-- The usual limit of file names. -/
def defaultMaxFilenameLength : Nat := 4096

/-- The usual configuration. -/
def standard : Config where
  bufferSize := defaultBufferSize
  sampleInterval := defaultSampleSeconds * nanosPerSecond
  uploadsDirectory := Path.ofString defaultUploadsDirectory
  maxFilenameLength := defaultMaxFilenameLength
  maxConnections := none

/-- A configuration for small machines. -/
def lowSpec : Config := { standard with bufferSize := 8 * 1024, maxConnections := some 16 }

/-- A configuration for large machines. -/
def highPerformance : Config := { standard with bufferSize := 1024 * 1024 }

/-- Choose the uploads directory. -/
def withUploadsDirectory (config : Config) (directory : Path) : Config :=
  { config with uploadsDirectory := directory }

/-- Limit the connections served at a time, to one at least. -/
def withMaxConnections (config : Config) (limit : Nat) : Config :=
  { config with maxConnections := some (max limit 1) }

/-- How many bytes to move at a time, one at least. -/
def effectiveBufferSize (config : Config) : Nat := max config.bufferSize 1

theorem effectiveBufferSize_pos (config : Config) : 0 < config.effectiveBufferSize :=
  Nat.lt_of_lt_of_le Nat.zero_lt_one (Nat.le_max_right _ _)

end Config

end FilePush
