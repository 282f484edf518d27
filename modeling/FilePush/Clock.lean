/-!
# Clocks

Time is measured only to be shown.  A clock gives one reading after another, and nothing is assumed
about them: a clock may stand still or run backwards.
-/

namespace FilePush

/-- A moment, in nanoseconds from an arbitrary moment. -/
abbrev Instant := Int

/-- A length of time, in nanoseconds. -/
abbrev Duration := Nat

/-- The number of nanoseconds in a second. -/
def nanosPerSecond : Nat := 1000000000

/-- The time from one moment to another; none if the other is earlier. -/
def Instant.since (later earlier : Instant) : Duration := (later - earlier).toNat

/-- A length of time in seconds, as a measured figure. -/
def Duration.seconds (duration : Duration) : Float :=
  (UInt64.ofNat (duration / nanosPerSecond)).toFloat +
    (UInt64.ofNat (duration % nanosPerSecond)).toFloat / nanosPerSecond.toFloat

/-- A clock and how often it has been read. -/
structure Clock where
  /-- The successive readings. -/
  reading : Nat → Instant
  /-- How many of them have been taken. -/
  taken : Nat

namespace Clock

/-- A clock that has not been read. -/
def ofReadings (reading : Nat → Instant) : Clock := ⟨reading, 0⟩

/-- Read the clock. -/
def now (clock : Clock) : Instant × Clock :=
  (clock.reading clock.taken, { clock with taken := clock.taken + 1 })

end Clock

end FilePush
