/-!
# The accept loop

A server accepts connections one after another and serves each on its own.  With a limit, the loop
takes a permit before it accepts, the connection accepted keeps the permit until it has been served,
and a connection that could not be accepted gives it back.  The connections accepted are numbered
from zero.
-/

namespace FilePush

/-- The state of an accept loop. -/
structure AcceptLoop where
  /-- The number of the next connection. -/
  nextSequence : Nat
  /-- The permits that nobody holds; `none` if connections are not limited. -/
  freePermits : Option Nat
  /-- Whether the loop has what it takes to accept a connection. -/
  isReady : Bool
  /-- The numbers of the connections that are being served, the latest first. -/
  live : List Nat
  deriving DecidableEq, Repr

/-- What happens to an accept loop. -/
inductive AcceptStep
  /-- The loop gets ready to accept, with a permit if connections are limited. -/
  | prepare
  /-- A connection is accepted. -/
  | accept
  /-- Accepting a connection fails. -/
  | acceptFailed
  /-- A connection has been served. -/
  | finish (sequence : Nat)
  deriving DecidableEq, Repr

namespace AcceptLoop

/-- The loop of a server that has just been started. -/
def start (limit : Option Nat) : AcceptLoop := ⟨0, limit, false, []⟩

/-- Give a permit back. -/
def release (loop : AcceptLoop) : AcceptLoop :=
  { loop with freePermits := loop.freePermits.map (· + 1) }

/-- The loop after a step, if the step can happen. -/
def step? (loop : AcceptLoop) : AcceptStep → Option AcceptLoop
  | .prepare =>
      if loop.isReady then none
      else
        match loop.freePermits with
        | none => some { loop with isReady := true }
        | some 0 => none
        | some (free + 1) => some { loop with freePermits := some free, isReady := true }
  | .accept =>
      if loop.isReady then
        some
          { loop with
            nextSequence := loop.nextSequence + 1
            isReady := false
            live := loop.nextSequence :: loop.live }
      else none
  | .acceptFailed =>
      if loop.isReady then some { loop with isReady := false }.release else none
  | .finish sequence =>
      if sequence ∈ loop.live then some { loop with live := loop.live.erase sequence }.release
      else none

end AcceptLoop

end FilePush
