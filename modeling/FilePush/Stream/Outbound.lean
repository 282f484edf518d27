import FilePush.Bytes
import FilePush.IoError

/-!
# The sending side of a connection

A write offers bytes and the connection takes some of them or fails.  `writeAll` offers the rest
again until all is taken, so what is taken is always a beginning of what was to be written.
-/

namespace FilePush

/-- What a connection does with bytes offered to it. -/
inductive WriteReply
  /-- It takes at most this many of them. -/
  | takes (count : Nat)
  /-- It fails. -/
  | fails (error : IoError)
  deriving DecidableEq, Repr

/-- The sending side of a connection. -/
structure Outbound where
  /-- What happens to a write when so many bytes have been taken before. -/
  reply : Nat → WriteReply
  /-- The failure of a flush, if flushing fails. -/
  flushFailure : Option IoError
  /-- The failure of a shutdown, if shutting down fails. -/
  shutdownFailure : Option IoError
  /-- How many bytes have been taken. -/
  position : Nat
  /-- The bytes that have been taken. -/
  written : Bytes
  /-- Whether the connection was shut down. -/
  isShutDown : Bool

namespace Outbound

/-- A new sending side that answers writes by `reply`, and whose flush and shutdown may fail. -/
def opened (reply : Nat → WriteReply) (flushFailure shutdownFailure : Option IoError) :
    Outbound :=
  ⟨reply, flushFailure, shutdownFailure, 0, [], false⟩

/-- A new sending side on which nothing fails. -/
def reliable : Outbound :=
  opened (fun _ => .takes 65536) none none

/--
Offer bytes until all are taken or the connection fails: the position after the last byte taken, and
the failure.
-/
def offer (reply : Nat → WriteReply) (position offered : Nat) : Nat × Option IoError :=
  if offered = 0 then (position, none)
  else
    match reply position with
    | .fails error => (position, some error)
    | .takes 0 => (position, some .writeZero)
    | .takes (count + 1) =>
        let taken := min (count + 1) offered
        offer reply (position + taken) (offered - taken)
  termination_by offered

/-- Not fewer than no bytes are taken, and not more than are offered. -/
theorem offer_bounds (reply : Nat → WriteReply) (position offered : Nat) :
    position ≤ (offer reply position offered).1 ∧
      (offer reply position offered).1 ≤ position + offered := by
  fun_induction offer reply position offered with
  | case1 => simp
  | case2 => simp
  | case3 => simp
  | case4 => omega

/-- Bytes are offered until all are taken, unless the connection fails. -/
theorem offer_eq_none_iff (reply : Nat → WriteReply) (position offered : Nat) :
    (offer reply position offered).2 = none ↔
      (offer reply position offered).1 = position + offered := by
  fun_induction offer reply position offered with
  | case1 => simp
  | case2 => simpa
  | case3 => simpa
  | case4 position offered _ count _ taken induction =>
      rw [induction]
      omega

/-- Write all of the bytes. -/
def writeAll (outbound : Outbound) (bytes : Bytes) : Outbound × Option IoError :=
  let (position, failure) := offer outbound.reply outbound.position bytes.length
  let taken := bytes.take (position - outbound.position)
  ({ outbound with position, written := outbound.written ++ taken }, failure)

/-- What is taken is a beginning of the bytes, and all of them unless the connection fails. -/
theorem written_writeAll (outbound : Outbound) (bytes : Bytes) :
    ∃ taken, taken <+: bytes ∧ (outbound.writeAll bytes).1.written = outbound.written ++ taken ∧
      ((outbound.writeAll bytes).2 = none ↔ taken = bytes) := by
  obtain ⟨lower, upper⟩ := offer_bounds outbound.reply outbound.position bytes.length
  refine ⟨_, List.take_prefix _ bytes, rfl, ?_⟩
  simp only [writeAll, offer_eq_none_iff]
  constructor
  · intro complete
    exact List.take_of_length_le (by omega)
  · intro whole
    have same_length := congrArg List.length whole
    rw [List.length_take] at same_length
    omega

/-- Push out what was written. -/
def flush (outbound : Outbound) : Option IoError := outbound.flushFailure

/-- Shut the connection down. -/
def shutDown (outbound : Outbound) : Outbound × Option IoError :=
  match outbound.shutdownFailure with
  | some failure => (outbound, some failure)
  | none => ({ outbound with isShutDown := true }, none)

end Outbound

end FilePush
