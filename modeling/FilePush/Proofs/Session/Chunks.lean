import FilePush.Proofs.Sampling.Timeless
import FilePush.Proofs.Session.Remainder

/-!
# Sessions and chunks

A session that is told of a payload chunk by chunk is left as if it had been told of the whole at
once, apart from times: the counter adds up and the checksum runs on.  Looking at the session in
between leaves no trace.  How a transfer ends is therefore decided by the bytes that were moved, and
not by the chunks in which they were moved.
-/

namespace FilePush

namespace Session

/-- What is done with a session while its payload is moved. -/
inductive Use
  /-- A chunk that was moved is noted at a moment. -/
  | record (chunk : Bytes) (now : Instant)
  /-- The checksum so far is looked at. -/
  | readChecksum
  /-- The summary so far is looked at, at a moment. -/
  | readSummary (now : Instant)

/-- The bytes that are noted. -/
def Use.noted : Use → Bytes
  | record chunk _ => chunk
  | readChecksum | readSummary _ => []

/-- All of the bytes that are noted, in order. -/
def recorded (uses : List Use) : Bytes := uses.flatMap Use.noted

/-- The session after a use. -/
def after (session : Session) : Use → Session
  | .record chunk now => (session.record chunk now).2
  | .readChecksum | .readSummary _ => session

/-- The session after all uses. -/
def afterAll (session : Session) (uses : List Use) : Session := uses.foldl after session

theorem timeless_record_eq (session : Session) (chunk : Bytes) (now : Instant) :
    (session.record chunk now).2.timeless =
      { session with
        meter := ⟨0, 0, session.transferred + chunk.length, 0, 0⟩
        checksum := session.checksum.update chunk } := by
  simp only [timeless, transferred_record]
  rfl

/-- Two chunks leave what one chunk leaves that consists of both. -/
theorem timeless_record_append (session : Session) (front back : Bytes)
    (now late once : Instant) :
    ((session.record front now).2.record back late).2.timeless =
      (session.record (front ++ back) once).2.timeless := by
  rw [timeless_record_eq, timeless_record_eq, transferred_record, Checksum.update_append,
    List.length_append, ← Nat.add_assoc]
  rfl

/-- Whatever was done with a session, it is left as if all bytes had been noted at once. -/
theorem timeless_afterAll (session : Session) (uses : List Use) (once : Instant) :
    (session.afterAll uses).timeless = (session.record (recorded uses) once).2.timeless := by
  induction uses generalizing session with
  | nil => exact (timeless_record_eq session [] once).symm
  | cons first later induction =>
      rw [afterAll, List.foldl_cons, ← afterAll, induction]
      cases first with
      | record chunk now =>
          exact timeless_record_append session chunk (recorded later) now once once
      | readChecksum => rfl
      | readSummary now => rfl

/--
Whatever the chunks and the times, the sampling interval and what is looked at in between, a session
has counted the bytes that were noted and has their CRC-32, also before all of them are there.  What
is left to move, how much of it is moved next and how the session ends follow from the number of
bytes; it ends well exactly if this is the declared number, and not if it is greater.  Apart from
times, sessions that were told of the same bytes are the same.
-/
theorem depends_on_bytes (sequence declared : Nat) :
    (∀ (interval : Duration) (start : Instant) (uses : List Use),
      let session := (Session.start sequence declared interval start).afterAll uses
      let bytes := recorded uses
      session.transferred = bytes.length ∧
        Checksum.IsCrc32 bytes session.crc32 ∧
        session.remaining = declared - bytes.length ∧
        (∀ bufferSize,
          session.nextChunkLength bufferSize = min (declared - bytes.length) bufferSize) ∧
        (session.isComplete ↔ bytes.length = declared) ∧
        session.finish.outcome =
          if bytes.length = declared then .success else .sizeMismatch) ∧
    ∀ (interval interval' : Duration) (start start' : Instant) (uses uses' : List Use),
      recorded uses = recorded uses' →
        ((Session.start sequence declared interval start).afterAll uses).timeless =
          ((Session.start sequence declared interval' start').afterAll uses').timeless := by
  constructor
  · intro interval start uses session bytes
    have once : session.timeless =
        ((Session.start sequence declared interval start).record bytes start).2.timeless :=
      timeless_afterAll _ uses start
    have told : session.declared = declared := eq_of_timeless once (·.declared) fun _ => rfl
    have counted : session.transferred = bytes.length := by
      rw [eq_of_timeless once transferred fun _ => rfl, transferred_record]
      exact Nat.zero_add _
    have summed : session.crc32 = Checksum.ofBytes bytes := eq_of_timeless once crc32 fun _ => rfl
    refine ⟨counted, (Checksum.isCrc32_iff _ _).mpr summed, ?_, fun bufferSize => ?_, ?_, ?_⟩
    · rw [remaining, counted, told]
    · rw [nextChunkLength, remaining, counted, told]
    · rw [isComplete, counted, told, decide_eq_true_eq]
    · simp only [finish, isComplete, counted, told, decide_eq_true_eq]
  · intro interval interval' start start' uses uses' same
    rw [timeless_afterAll _ uses 0, timeless_afterAll _ uses' 0, same, timeless_record_eq,
      timeless_record_eq]
    rfl

end Session

end FilePush
