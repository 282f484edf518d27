import FilePush.Bytes
import FilePush.IoError

/-!
# The receiving side of a connection

Bytes arrive in pieces, and a read gives at most one piece and at most as many bytes as are asked
for.  A stream ends when a read gives nothing or fails.  `read` is one read, and `collect` reads
until a number of bytes is complete or the stream ends.
-/

namespace FilePush

/-- What arrives on a connection. -/
inductive Arrival
  /-- A piece of data; an empty piece makes one read give nothing. -/
  | bytes (data : Bytes)
  /-- A failure of the connection. -/
  | failure (error : IoError)
  /-- A pause, which a reader waits out. -/
  | pause
  deriving DecidableEq, Repr

/-- The receiving side of a connection: what is still to arrive.  After that comes the end. -/
structure Inbound where
  /-- The arrivals, in order. -/
  arrivals : List Arrival
  deriving DecidableEq, Repr

/-- What one read gives. -/
inductive Reading
  /-- These bytes, at least one. -/
  | data (chunk : Bytes)
  /-- Nothing: the stream has ended. -/
  | ended
  /-- A failure of the connection. -/
  | failed (error : IoError)
  deriving DecidableEq, Repr

/-- Why a reader that wants a number of bytes stops. -/
inductive Stop
  /-- The bytes are complete. -/
  | full
  /-- The stream has ended. -/
  | ended
  /-- The connection failed. -/
  | failed (error : IoError)
  deriving DecidableEq, Repr

namespace Inbound

/-- Read at most `wanted` bytes of what is still to arrive. -/
def readArrivals (wanted : Nat) : List Arrival → Reading × List Arrival
  | [] => (.ended, [])
  | .pause :: later => readArrivals wanted later
  | .failure error :: later => (.failed error, later)
  | .bytes data :: later =>
      let rest := data.drop wanted
      let left := if rest = [] then later else .bytes rest :: later
      if data.take wanted = [] then (.ended, left) else (.data (data.take wanted), left)

/-- One read of at most `wanted` bytes. -/
def read (inbound : Inbound) (wanted : Nat) : Reading × Inbound :=
  let (reading, later) := readArrivals wanted inbound.arrivals
  (reading, ⟨later⟩)

/-- The number of bytes that are still to arrive. -/
def pending : List Arrival → Nat
  | [] => 0
  | .bytes data :: later => data.length + pending later
  | .failure _ :: later | .pause :: later => pending later

/-- The number of bytes that have not been read. -/
def unread (inbound : Inbound) : Nat := pending inbound.arrivals

theorem readArrivals_data {wanted : Nat} {arrivals later : List Arrival} {chunk : Bytes}
    (given : readArrivals wanted arrivals = (.data chunk, later)) :
    0 < chunk.length ∧ chunk.length ≤ wanted := by
  fun_induction readArrivals wanted arrivals with
  | case1 => simp at given
  | case2 later induction => exact induction given
  | case3 => simp at given
  | case4 => simp at given
  | case5 data _ _ _ nonempty =>
      simp only [Prod.mk.injEq, Reading.data.injEq] at given
      obtain ⟨rfl, -⟩ := given
      exact ⟨List.length_pos_iff.mpr nonempty, List.length_take_le wanted data⟩

theorem read_data {wanted : Nat} {inbound later : Inbound} {chunk : Bytes}
    (given : inbound.read wanted = (.data chunk, later)) :
    0 < chunk.length ∧ chunk.length ≤ wanted := by
  simp only [read, Prod.mk.injEq] at given
  exact @readArrivals_data _ _ later.arrivals _ (by rw [← given.1, ← given.2])

/-- Read until `wanted` bytes are complete or the stream ends; gives the bytes read. -/
def collect (inbound : Inbound) (wanted : Nat) : Bytes × Stop × Inbound :=
  if wanted = 0 then ([], .full, inbound)
  else
    match _given : inbound.read wanted with
    | (.ended, later) => ([], .ended, later)
    | (.failed error, later) => ([], .failed error, later)
    | (.data chunk, later) =>
        let (more, stop, last) := later.collect (wanted - chunk.length)
        (chunk ++ more, stop, last)
  termination_by wanted
  decreasing_by
    have := read_data _given
    omega

end Inbound

end FilePush
