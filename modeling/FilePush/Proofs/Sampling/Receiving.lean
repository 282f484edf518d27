import FilePush.Proofs.Receiver.Dependence
import FilePush.Proofs.Sampling.Timeless

/-!
# Receiving at other times

The counter that tells when a payload is complete is part of the throughput meter.  Two receivers
whose clocks and sampling intervals differ nevertheless go on alike from chunk to chunk: what they
read, write and count is the same, and so is all that they report apart from samples, times and
speeds.
-/

namespace FilePush

namespace Receiver

/-- Two receivers that differ in nothing but what their clocks and sampling intervals tell them. -/
structure Receiving.SameButTimes (left right : Receiving) : Prop where
  /-- The same is still to arrive. -/
  inbound : left.inbound = right.inbound
  /-- They find the same files. -/
  tree : left.tree = right.tree
  /-- Their unfinished files are in the same state. -/
  file : left.file = right.file
  /-- They counted the same. -/
  session : left.session.timeless = right.session.timeless
  /-- They reported the same. -/
  journal : left.journal.timeless = right.journal.timeless

namespace Receiving.SameButTimes

variable {left right : Receiving}

theorem isComplete (same : SameButTimes left right) :
    left.session.isComplete = right.session.isComplete :=
  Session.eq_of_timeless same.session Session.isComplete fun _ => rfl

theorem read (same : SameButTimes left right) (bufferSize : Nat) :
    left.inbound.read (left.session.nextChunkLength bufferSize) =
      right.inbound.read (right.session.nextChunkLength bufferSize) := by
  rw [same.inbound,
    Session.eq_of_timeless same.session (·.nextChunkLength bufferSize) fun _ => rfl]

theorem write (same : SameButTimes left right) (chunk : Bytes) :
    left.file.write left.tree chunk = right.file.write right.tree chunk := by
  rw [same.file, same.tree]

theorem advance (same : SameButTimes left right) (inbound : Inbound) (file : OpenFile)
    (tree : FileTree) :
    SameButTimes { left with inbound, file, tree } { right with inbound, file, tree } :=
  { same with inbound := rfl, file := rfl, tree := rfl }

/-- What is reported to one is reported to the other. -/
theorem note (same : SameButTimes left right) (notice : Notice) :
    SameButTimes (left.note notice) (right.note notice) := by
  refine { same with journal := ?_ }
  have sequence := Session.eq_of_timeless same.session (·.sequence) fun _ => rfl
  simp only [Receiving.note, Journal.timeless_noteFor, same.journal, sequence]

/-- A sample that one receiver takes and the other does not leaves no other trace. -/
theorem timeless_journal_record (state : Receiving) (chunk : Bytes) :
    (state.record chunk).journal.timeless = state.journal.timeless := by
  simp only [Receiving.record]
  split
  · rw [Journal.timeless_noteFor]
    exact List.append_nil _
  · rfl

theorem record (same : SameButTimes left right) (chunk : Bytes) :
    SameButTimes (left.record chunk) (right.record chunk) where
  inbound := same.inbound
  tree := same.tree
  file := same.file
  session := Session.timeless_record_congr same.session chunk _ _
  journal := by rw [timeless_journal_record, timeless_journal_record, same.journal]

end Receiving.SameButTimes

/-- Receivers that differ only in their times receive the same. -/
theorem receivePayload_sameButTimes (bufferSize : Nat) {left right : Receiving}
    (same : left.SameButTimes right) :
    (receivePayload bufferSize left).1.SameButTimes (receivePayload bufferSize right).1 ∧
      (receivePayload bufferSize left).2 = (receivePayload bufferSize right).2 := by
  fun_induction receivePayload bufferSize left generalizing right with
  | case1 left complete =>
      rw [receivePayload_eq bufferSize right, ← same.isComplete, if_pos complete]
      exact ⟨same, rfl⟩
  | case2 left incomplete later given =>
      rw [receivePayload_eq bufferSize right, ← same.isComplete, if_neg incomplete, ← same.read,
        given]
      have told := Session.eq_of_timeless same.session
        (fun session => Notice.endedEarly session.transferred session.declared) fun _ => rfl
      have still : { left with inbound := later }.SameButTimes { right with inbound := later } :=
        { same with inbound := rfl }
      simp only [← told]
      exact ⟨still.note _, trivial⟩
  | case3 left incomplete error later given =>
      rw [receivePayload_eq bufferSize right, ← same.isComplete, if_neg incomplete, ← same.read,
        given]
      have still : { left with inbound := later }.SameButTimes { right with inbound := later } :=
        { same with inbound := rfl }
      exact ⟨still.note _, rfl⟩
  | case4 left incomplete chunk later given file tree error written =>
      rw [receivePayload_eq bufferSize right, ← same.isComplete, if_neg incomplete, ← same.read,
        given]
      simp only [← same.write, written]
      exact ⟨(same.advance later file tree).note _, trivial⟩
  | case5 left incomplete chunk later given file tree written induction =>
      rw [receivePayload_eq bufferSize right, ← same.isComplete, if_neg incomplete, ← same.read,
        given]
      simp only [← same.write, written]
      exact induction ((same.advance later file tree).record chunk)

/-- How a session is settled does not depend on its times. -/
theorem timeless_settle (session : Session) (failure : Option Outcome)
    (persisted : Except FileError Unit) :
    (settle session failure persisted).timeless = settle session.timeless failure persisted := by
  cases failure with
  | some outcome => rfl
  | none =>
      cases persisted with
      | ok => rfl
      | error error => rfl

/-- The answer to a connection adds the same to what was reported, whatever that was. -/
theorem timeless_answer (outcome : Outcome) (sequence : Nat) (outbound : Outbound)
    {journal other : Journal} (same : journal.timeless = other.timeless) :
    (answer outcome sequence outbound journal).2.timeless =
      (answer outcome sequence outbound other).2.timeless := by
  rw [answer, answer]
  split
  · exact same
  · simp only
    split
    · rw [Journal.timeless_noteFor, Journal.timeless_noteFor, same]
    · rw [Journal.timeless_noteFor, Journal.timeless_noteFor, same]

/-- The last reports on a payload show the time in their figures only. -/
theorem timeless_totals (sequence : Nat) {one two : Session} {journal other : Journal}
    (same : one.timeless = two.timeless) (told : journal.timeless = other.timeless)
    (now late : Instant) :
    ((journal.noteFor sequence (.result (one.meter.overall now) one.outcome)).noteFor sequence
        (.receivedSummary one now)).timeless =
      ((other.noteFor sequence (.result (two.meter.overall late) two.outcome)).noteFor sequence
        (.receivedSummary two late)).timeless := by
  have result := Session.eq_of_timeless same
    (fun session => Notice.result ⟨session.transferred, 0⟩ session.outcome) fun _ => rfl
  have result_same : (Notice.result (one.meter.overall now) one.outcome).timeless? =
      (Notice.result (two.meter.overall late) two.outcome).timeless? := congrArg some result
  have summary_same : (Notice.receivedSummary one now).timeless? =
      (Notice.receivedSummary two late).timeless? :=
    congrArg (fun session => some (Notice.receivedSummary session 0)) same
  simp only [Journal.timeless_noteFor, told, result_same, summary_same]

/-- What serving a connection leaves once its payload has ended. -/
def closed (config : Config) (directory : Location) (staging name : String) (sequence : Nat)
    (outbound : Outbound) (received : Receiving) (failure : Option Outcome) : Served :=
  let (tree, persisted) := persist config directory staging name received.file received.tree
  let journal := match persisted with
    | .error error => received.journal.noteFor sequence (.fileFailed error)
    | .ok () => received.journal
  let session := settle received.session failure persisted
  let (now, clock) := received.clock.now
  let journal := journal.noteFor sequence (.result (session.meter.overall now) session.outcome)
  let journal := journal.noteFor sequence (.receivedSummary session now)
  let (outbound, journal) := answer session.outcome sequence outbound journal
  ⟨session.outcome, ⟨received.inbound, outbound⟩, tree, clock, journal⟩

theorem receive_eq_closed (config : Config) (directory : Location) (staging name : String)
    (size sequence : Nat) (connection : Connection) (tree : FileTree) (clock : Clock)
    (journal : Journal) :
    receive config directory staging name size sequence connection tree clock journal =
      closed config directory staging name sequence connection.outbound
        (ended config directory staging size sequence connection tree clock journal).1
        (ended config directory staging size sequence connection tree clock journal).2 :=
  rfl

/-- A connection was served twice with the same result, but for the times and perhaps the answer. -/
structure Served.SameButTimes (left right : Outbound) (one two : Served) : Prop where
  /-- The transfers ended alike. -/
  outcome : one.outcome = two.outcome
  /-- The files are the same. -/
  tree : one.tree = two.tree
  /-- The same is still to arrive. -/
  inbound : one.connection.inbound = two.connection.inbound
  /-- If the answers met the same, the same was sent. -/
  outbound : left = right → one.connection.outbound = two.connection.outbound
  /-- If the answers met the same, the same was reported. -/
  journal : left = right → one.journal.timeless = two.journal.timeless

namespace Matching

variable {directory : Location} {sequence : Nat} {config other : Config}
  {connection peer : Connection} {tree : FileTree}
  (matching : Matching directory sequence config other connection peer tree tree)

include matching

theorem persist_eq (name : String) (file : OpenFile) (tree : FileTree) :
    persist other directory (Name.staging sequence) name file tree =
      persist config directory (Name.staging sequence) name file tree := by
  rw [persist, persist, matching.publish_eq, entryPath, entryPath, entryPath, entryPath,
    matching.uploadsDirectory]

/-- Receivers that differ only in their times leave the same once their payloads have ended. -/
theorem closed_sameButTimes (name : String) {received also : Receiving}
    (same : received.SameButTimes also) (failure : Option Outcome) (left right : Outbound) :
    Served.SameButTimes left right
      (closed config directory (Name.staging sequence) name sequence left received failure)
      (closed other directory (Name.staging sequence) name sequence right also failure) := by
  simp only [closed, matching.persist_eq, ← same.file, ← same.tree]
  obtain ⟨named, result⟩ := persist config directory (Name.staging sequence) name received.file
    received.tree
  have settled : (settle received.session failure result).timeless =
      (settle also.session failure result).timeless := by
    rw [timeless_settle, same.session, ← timeless_settle]
  have outcome := Session.eq_of_timeless settled (·.outcome) fun _ => rfl
  have told : (match result with
      | .error error => received.journal.noteFor sequence (.fileFailed error)
      | .ok () => received.journal).timeless =
      (match result with
      | .error error => also.journal.noteFor sequence (.fileFailed error)
      | .ok () => also.journal).timeless := by
    cases result with
    | ok => exact same.journal
    | error error => rw [Journal.timeless_noteFor, Journal.timeless_noteFor, same.journal]
  have totals := timeless_totals sequence settled told received.clock.now.1 also.clock.now.1
  rw [outcome] at totals ⊢
  refine ⟨rfl, rfl, same.inbound, ?_, ?_⟩
  · rintro rfl
    simp only [outbound_answer]
  · rintro rfl
    exact timeless_answer _ _ _ totals

/-- Receiving a payload at other times leaves the same. -/
theorem receive_sameButTimes (name : String) (size : Nat) (rest : Inbound) (created : FileTree)
    (clock late : Clock) (journal : Journal) :
    Served.SameButTimes connection.outbound peer.outbound
      (receive config directory (Name.staging sequence) name size sequence
        { connection with inbound := rest } created clock journal)
      (receive other directory (Name.staging sequence) name size sequence
        { peer with inbound := rest } created late journal) := by
  have before : (begun config directory (Name.staging sequence) size sequence created clock journal
      rest).SameButTimes
      (begun other directory (Name.staging sequence) size sequence created late journal rest) :=
    ⟨rfl, rfl, rfl, rfl, rfl⟩
  obtain ⟨after, failure⟩ := receivePayload_sameButTimes config.effectiveBufferSize before
  rw [receive_eq_closed, receive_eq_closed, ended, ended, ← matching.bufferSize, failure]
  exact matching.closed_sameButTimes name after _ _ _

/-- Serving a connection at other times leaves the same, whatever happens to the answers. -/
theorem serve_sameButTimes (clock late : Clock) :
    Served.SameButTimes connection.outbound peer.outbound
      (serve config directory sequence connection tree clock)
      (serve other directory sequence peer tree late) := by
  rcases staged_or_unstaged config directory sequence connection tree with ⟨⟨staged⟩⟩ | unstaged
  · obtain ⟨header, rest, name, created, read, accepted, creates⟩ := staged
    have also_read := matching.read_eq.trans read
    simp only [serve, read, also_read, accepted, creates, matching.createStaging_eq]
    exact matching.receive_sameButTimes name _ rest created clock late _
  · cases unstaged with
    | headerFailed read =>
        have also_read := matching.read_eq.trans read
        simp only [serve, read, also_read]
        exact ⟨rfl, rfl, rfl, id, fun _ => rfl⟩
    | nameRefused read refused =>
        have also_read := matching.read_eq.trans read
        simp only [serve, read, also_read, refused]
        exact ⟨rfl, rfl, rfl, id, fun _ => rfl⟩
    | notCreated read accepted failed =>
        have also_read := matching.read_eq.trans read
        simp only [serve, read, also_read, accepted, failed, matching.createStaging_eq, entryPath,
          matching.uploadsDirectory]
        exact ⟨rfl, rfl, rfl, id, fun _ => rfl⟩

end Matching

end Receiver

end FilePush
