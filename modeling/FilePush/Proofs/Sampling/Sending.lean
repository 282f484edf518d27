import FilePush.Proofs.Sampling.Receiving
import FilePush.Sender

/-!
# Sending at other times

A sender, too, is told by its throughput meter when its payload is complete.  Two senders whose
clocks and sampling intervals differ write the same nevertheless, and if they fail, they fail alike.
As the same holds of receivers, sampling only observes.
-/

namespace FilePush

namespace Sender

theorem sendPayload_eq (path : Path) (bufferSize : Nat) (state : Sending) :
    sendPayload path bufferSize state =
      if state.session.isComplete then
        match state.outbound.flush with
        | some error => state.disconnect error
        | none => (state, none)
      else
        match state.source.read (state.session.nextChunkLength bufferSize) with
        | .error error => (state, some (.file (.unreadable path error)))
        | .ok (chunk, source) =>
            if chunk = [] then
              let shrunk := .shrunk path state.session.declared state.session.transferred
              ({ state with source }, some (.file shrunk))
            else
              match state.outbound.writeAll chunk with
              | (outbound, some error) => { state with outbound, source }.disconnect error
              | (outbound, none) =>
                  sendPayload path bufferSize ({ state with outbound, source }.record chunk) := by
  rw [sendPayload]
  split
  · rfl
  · split
    · next given => simp only [given]
    · next given => exact given ▸ rfl

/-- Two senders that differ in nothing but what their clocks and sampling intervals tell them. -/
structure Sending.SameButTimes (left right : Sending) : Prop where
  /-- They sent the same. -/
  outbound : left.outbound = right.outbound
  /-- The same is left to be read of their files. -/
  source : left.source = right.source
  /-- They counted the same. -/
  session : left.session.timeless = right.session.timeless
  /-- They reported the same. -/
  journal : left.journal.timeless = right.journal.timeless

namespace Sending.SameButTimes

variable {left right : Sending}

theorem isComplete (same : SameButTimes left right) :
    left.session.isComplete = right.session.isComplete :=
  Session.eq_of_timeless same.session Session.isComplete fun _ => rfl

theorem read (same : SameButTimes left right) (bufferSize : Nat) :
    left.source.read (left.session.nextChunkLength bufferSize) =
      right.source.read (right.session.nextChunkLength bufferSize) := by
  rw [same.source,
    Session.eq_of_timeless same.session (·.nextChunkLength bufferSize) fun _ => rfl]

theorem shrunk (same : SameButTimes left right) (path : Path) :
    FileError.shrunk path left.session.declared left.session.transferred =
      FileError.shrunk path right.session.declared right.session.transferred :=
  Session.eq_of_timeless same.session
    (fun session => FileError.shrunk path session.declared session.transferred) fun _ => rfl

theorem advance (same : SameButTimes left right) (outbound : Outbound) (source : Source) :
    SameButTimes { left with outbound, source } { right with outbound, source } :=
  { same with outbound := rfl, source := rfl }

/-- A connection that fails one sender fails the other in the same way. -/
theorem disconnect (same : SameButTimes left right) (error : IoError) :
    SameButTimes (left.disconnect error).1 (right.disconnect error).1 ∧
      (left.disconnect error).2 = (right.disconnect error).2 := by
  refine ⟨{ same with journal := ?_ }, rfl⟩
  simp only [Sending.disconnect, Journal.timeless_note, same.journal]

/-- A sample that one sender takes and the other does not leaves no other trace. -/
theorem timeless_journal_record (state : Sending) (chunk : Bytes) :
    (state.record chunk).journal.timeless = state.journal.timeless := by
  simp only [Sending.record]
  split
  · rw [Journal.timeless_note]
    exact List.append_nil _
  · rfl

theorem record (same : SameButTimes left right) (chunk : Bytes) :
    SameButTimes (left.record chunk) (right.record chunk) where
  outbound := same.outbound
  source := same.source
  session := Session.timeless_record_congr same.session chunk _ _
  journal := by rw [timeless_journal_record, timeless_journal_record, same.journal]

end Sending.SameButTimes

/-- Senders that differ only in their times send the same. -/
theorem sendPayload_sameButTimes (path : Path) (bufferSize : Nat) {left right : Sending}
    (same : left.SameButTimes right) :
    (sendPayload path bufferSize left).1.SameButTimes (sendPayload path bufferSize right).1 ∧
      (sendPayload path bufferSize left).2 = (sendPayload path bufferSize right).2 := by
  fun_induction sendPayload path bufferSize left generalizing right with
  | case1 left complete error failed =>
      rw [sendPayload_eq path bufferSize right, ← same.isComplete, if_pos complete,
        ← same.outbound, failed]
      exact same.disconnect error
  | case2 left complete flushed =>
      rw [sendPayload_eq path bufferSize right, ← same.isComplete, if_pos complete,
        ← same.outbound, flushed]
      exact ⟨same, rfl⟩
  | case3 left incomplete error given =>
      rw [sendPayload_eq path bufferSize right, ← same.isComplete, if_neg incomplete, ← same.read,
        given]
      exact ⟨same, rfl⟩
  | case4 left incomplete later shrunk =>
      rename_i given
      rw [sendPayload_eq path bufferSize right, ← same.isComplete, if_neg incomplete, ← same.read,
        given]
      exact ⟨{ same with source := rfl }, congrArg (some ∘ TransferError.file) (same.shrunk path)⟩
  | case5 left incomplete chunk later given some_chunk outbound error failed =>
      rw [sendPayload_eq path bufferSize right, ← same.isComplete, if_neg incomplete, ← same.read,
        given]
      simp only [if_neg some_chunk, ← same.outbound, failed]
      exact (same.advance outbound later).disconnect error
  | case6 left incomplete chunk later given some_chunk outbound passed induction =>
      rw [sendPayload_eq path bufferSize right, ← same.isComplete, if_neg incomplete, ← same.read,
        given]
      simp only [if_neg some_chunk, ← same.outbound, passed]
      exact induction ((same.advance outbound later).record chunk)

/-- Sending a frame at other times sends the same. -/
theorem sendFrame_sameButTimes (path : Path) (bufferSize : Nat) (header : Bytes)
    {left right : Sending} (same : left.SameButTimes right) :
    (sendFrame path bufferSize header left).1.SameButTimes
        (sendFrame path bufferSize header right).1 ∧
      (sendFrame path bufferSize header left).2 = (sendFrame path bufferSize header right).2 := by
  rw [sendFrame, sendFrame, ← same.outbound]
  rcases left.outbound.writeAll header with ⟨outbound, failure⟩
  have still : { left with outbound }.SameButTimes { right with outbound } :=
    { same with outbound := rfl }
  cases failure with
  | none => exact sendPayload_sameButTimes path bufferSize still
  | some error => exact still.disconnect error

end Sender

open FileTree (SameFolders) in
/--
Sampling is observation only.  Whatever the sampling intervals are, however many connections may be
served at a time and whatever the clocks show, a connection is served with the same outcome, the
same files, the same bytes read and answered and the same checksum reported, and a frame is sent with
the same result, the same bytes on the wire, the same count and the same checksum.  The reports
differ in samples and in the figures of times and speeds only.
-/
theorem sampling_only_observes (config : Config) (interval : Duration) (limit : Option Nat)
    (clock late : Clock) :
    let other := { config with sampleInterval := interval, maxConnections := limit }
    (∀ (directory : Location) (sequence : Nat) (connection : Connection) (tree : FileTree),
      let one := Receiver.serve config directory sequence connection tree clock
      let two := Receiver.serve other directory sequence connection tree late
      one.outcome = two.outcome ∧ one.tree = two.tree ∧ one.connection = two.connection ∧
        one.journal.checksums = two.journal.checksums ∧
        one.journal.timeless = two.journal.timeless) ∧
    ∀ (path : Path) (header : Bytes) (source : Source) (sequence declared : Nat)
      (outbound : Outbound) (journal : Journal) (start later : Instant),
      let one := Sender.sendFrame path config.effectiveBufferSize header
        ⟨outbound, source, .start sequence declared config.sampleInterval start, clock, journal⟩
      let two := Sender.sendFrame path other.effectiveBufferSize header
        ⟨outbound, source, .start sequence declared other.sampleInterval later, late, journal⟩
      one.2 = two.2 ∧ one.1.outbound = two.1.outbound ∧
        one.1.session.transferred = two.1.session.transferred ∧
        one.1.session.crc32 = two.1.session.crc32 ∧
        one.1.journal.timeless = two.1.journal.timeless := by
  intro other
  constructor
  · intro directory sequence connection tree one two
    have matching : Receiver.Matching directory sequence config other connection connection tree
        tree := ⟨rfl, rfl, rfl, rfl, SameFolders.refl tree, rfl⟩
    have same := matching.serve_sameButTimes clock late
    have reported := same.journal rfl
    refine ⟨same.outcome, same.tree, ?_, ?_, reported⟩
    · exact congrArg₂ Connection.mk same.inbound (same.outbound rfl)
    · rw [one.journal.checksums_eq_of_timeless, two.journal.checksums_eq_of_timeless, reported]
  · intro path header source sequence declared outbound journal start later one two
    have before : Sender.Sending.SameButTimes
        ⟨outbound, source, .start sequence declared config.sampleInterval start, clock, journal⟩
        ⟨outbound, source, .start sequence declared other.sampleInterval later, late, journal⟩ :=
      ⟨rfl, rfl, rfl, rfl⟩
    obtain ⟨after, result⟩ :=
      Sender.sendFrame_sameButTimes path config.effectiveBufferSize header before
    refine ⟨result, after.outbound, ?_, ?_, after.journal⟩
    · exact Session.eq_of_timeless after.session Session.transferred fun _ => rfl
    · exact Session.eq_of_timeless after.session Session.crc32 fun _ => rfl

end FilePush
