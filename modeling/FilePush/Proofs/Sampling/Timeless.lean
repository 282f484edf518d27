import FilePush.Event

/-!
# What is left of a report without its times

Clocks and sampling intervals decide which throughput samples are reported and what the figures of
times and speeds are.  `timeless` leaves these out and keeps the rest: of a session the bytes that
it counted and their checksum, of a journal every event that is no sample.
-/

namespace FilePush

namespace Session

/-- A session without the times that it was told. -/
def timeless (session : Session) : Session :=
  { session with meter := ⟨0, 0, session.transferred, 0, 0⟩ }

/-- What a session is left with by a chunk does not depend on when the chunk is noted. -/
theorem timeless_record (session : Session) (chunk : Bytes) (now : Instant) :
    (session.record chunk now).2.timeless = (session.timeless.record chunk 0).2.timeless := by
  simp only [timeless, transferred_record]
  rfl

/-- Sessions that differ only in their times look the same to whoever looks at no times. -/
theorem eq_of_timeless {α : Type} {left right : Session} (same : left.timeless = right.timeless)
    (view : Session → α) (blind : ∀ session : Session, view session.timeless = view session) :
    view left = view right := by
  rw [← blind left, same, blind right]

theorem timeless_record_congr {left right : Session} (same : left.timeless = right.timeless)
    (chunk : Bytes) (now late : Instant) :
    (left.record chunk now).2.timeless = (right.record chunk late).2.timeless := by
  rw [timeless_record, same, ← timeless_record]

end Session

/-- A report without times and speeds; nothing is left of a throughput sample. -/
def Notice.timeless? : Notice → Option Notice
  | .speeds _ | .progress _ _ _ => none
  | .result rate outcome => some (.result ⟨rate.bytes, 0⟩ outcome)
  | .receivedSummary session _ => some (.receivedSummary session.timeless 0)
  | .sentSummary session _ => some (.sentSummary session.timeless 0)
  | notice => some notice

/-- The checksum that a report shows. -/
def Notice.checksum? : Notice → Option UInt32
  | .receivedSummary session _ | .sentSummary session _ => some session.crc32
  | _ => none

theorem Notice.checksum?_of_timeless? (notice : Notice) :
    notice.timeless?.bind checksum? = notice.checksum? := by
  cases notice <;> rfl

namespace Journal

/-- The events that are no throughput samples, without times and speeds. -/
def timeless (journal : Journal) : List Event :=
  journal.events.filterMap fun event =>
    event.notice.timeless?.map fun notice => { event with notice }

/-- The checksums reported. -/
def checksums (journal : Journal) : List UInt32 :=
  journal.events.filterMap fun event => event.notice.checksum?

@[simp]
theorem timeless_note (journal : Journal) (notice : Notice) :
    (journal.note notice).timeless =
      journal.timeless ++ (notice.timeless?.map fun notice => ⟨notice, none⟩).toList := by
  simp only [timeless, events_note, List.filterMap_append, List.filterMap_cons, List.filterMap_nil]
  cases notice.timeless? <;> rfl

@[simp]
theorem timeless_noteFor (journal : Journal) (client : Nat) (notice : Notice) :
    (journal.noteFor client notice).timeless =
      journal.timeless ++ (notice.timeless?.map fun notice => ⟨notice, some client⟩).toList := by
  simp only [timeless, events_noteFor, List.filterMap_append, List.filterMap_cons,
    List.filterMap_nil]
  cases notice.timeless? <;> rfl

/-- No checksum is lost with the times. -/
theorem checksums_eq_of_timeless (journal : Journal) :
    journal.checksums = journal.timeless.filterMap fun event => event.notice.checksum? := by
  rw [timeless, List.filterMap_filterMap, checksums]
  congr 1
  funext event
  rw [Option.bind_map]
  exact (event.notice.checksum?_of_timeless?).symm

end Journal

end FilePush
