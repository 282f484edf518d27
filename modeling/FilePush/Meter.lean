import FilePush.Clock
import FilePush.Text.FixedPoint

/-!
# Throughput meters

A meter counts bytes and from time to time gives a sample: the bytes since the last sample and since
the start, and the time that they took.  A sample is due when at least the interval has passed since
the last one, and some time at all.
-/

namespace FilePush

/-- A number of bytes and the time they took. -/
structure Rate where
  /-- The number of bytes. -/
  bytes : Nat
  /-- The time they took. -/
  elapsed : Duration
  deriving DecidableEq, Repr

namespace Rate

/-- Bytes per second; zero if no time passed. -/
def bytesPerSecond (rate : Rate) : Float :=
  let seconds := rate.elapsed.seconds
  if seconds == 0.0 then 0.0 else (UInt64.ofNat rate.bytes).toFloat / seconds

/-- Units of 1024 bytes per second. -/
def kibPerSecond (rate : Rate) : Float := rate.bytesPerSecond / 1024.0

/-- A speed as it is shown. -/
def display (rate : Rate) : String := FixedPoint.render 2 rate.kibPerSecond ++ " KB/s"

end Rate

/-- One measurement of throughput. -/
structure Sample where
  /-- What was moved since the last sample. -/
  window : Rate
  /-- What was moved since the start. -/
  total : Rate
  deriving DecidableEq, Repr

/-- A throughput meter. -/
structure Meter where
  /-- When the meter was started. -/
  start : Instant
  /-- When the last sample was taken; at first, the start. -/
  lastSample : Instant
  /-- The bytes counted since the start. -/
  total : Nat
  /-- The bytes counted since the last sample. -/
  sinceSample : Nat
  /-- The least time between two samples. -/
  interval : Duration
  deriving DecidableEq, Repr

namespace Meter

/-- A meter started at a moment. -/
def startingAt (start : Instant) (interval : Duration) : Meter := ⟨start, start, 0, 0, interval⟩

/-- Count bytes at a moment; gives a sample if one is due. -/
def record (meter : Meter) (bytes : Nat) (now : Instant) : Option Sample × Meter :=
  let counted :=
    { meter with total := meter.total + bytes, sinceSample := meter.sinceSample + bytes }
  let window := Instant.since now meter.lastSample
  if window < meter.interval ∨ window = 0 then (none, counted)
  else
    (some ⟨⟨counted.sinceSample, window⟩, ⟨counted.total, Instant.since now meter.start⟩⟩,
      { counted with lastSample := now, sinceSample := 0 })

/-- What was moved from the start to a moment. -/
def overall (meter : Meter) (now : Instant) : Rate := ⟨meter.total, Instant.since now meter.start⟩

/-- The state of a meter at a moment, as text. -/
def summary (meter : Meter) (now : Instant) : String :=
  let rate := meter.overall now
  let elapsed := FixedPoint.render 2 rate.elapsed.seconds
  s!"Elapsed: {elapsed}s | Bytes: {rate.bytes} | Speed: {rate.display}"

end Meter

end FilePush
