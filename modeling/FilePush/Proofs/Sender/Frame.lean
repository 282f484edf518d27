import FilePush.Proofs.Frame.Ack
import FilePush.Proofs.Frame.Header
import FilePush.Proofs.Name.Staging
import FilePush.Proofs.Sender.Endings

/-!
# Sending a frame

What a sender writes is a beginning of the frame of its file: the header with the last component of
the path and the size, and then the content.  Its verdict on the transfer is the answer that it
reads, if it reads one.
-/

namespace FilePush

namespace Sender

/-- A file is prepared under the last component of its path, with its size. -/
theorem prepare_eq_ok {path : Path} {opened : Except FileError (Source × Nat)}
    {outgoing : Outgoing} (ready : prepare path opened = .ok outgoing) :
    ∃ text source declared header, path.bytes = Utf8.encode text ∧ opened = .ok (source, declared) ∧
      Header.encode ⟨Utf8.encode (Name.basename text), UInt64.ofNat declared⟩ = .ok header ∧
      outgoing = ⟨path, Name.basename text, source, declared, header⟩ := by
  rw [prepare] at ready
  split at ready
  · simp at ready
  · next filename travels =>
      obtain ⟨text, spelled, rfl⟩ := Name.wire_eq_ok_iff.mp travels
      split at ready
      · simp at ready
      · next source declared =>
          split at ready
          · simp at ready
          · next header encoded =>
              cases ready
              exact ⟨text, source, declared, header, spelled, rfl, encoded, rfl⟩

theorem openSource_of_file {tree : FileTree} {working : Location} {path : Path} {content : Bytes}
    (opens : tree.openForReading working path = .ok (.file content)) :
    openSource tree working path = .ok (.content content, content.length) := by
  simp only [openSource, opens]

/-- A file whose path is text is ready to be sent. -/
theorem prepare_of_file {tree : FileTree} {working : Location} {path : Path} {text : String}
    {content : Bytes} (spelled : path.bytes = Utf8.encode text)
    (opens : tree.openForReading working path = .ok (.file content)) :
    ∃ header, Header.encode ⟨Utf8.encode (Name.basename text), UInt64.ofNat content.length⟩ =
        .ok header ∧
      prepare path (openSource tree working path) =
        .ok ⟨path, Name.basename text, .content content, content.length, header⟩ := by
  have short := Name.length_encode_basename_le spelled opens
  let header : Header := ⟨Utf8.encode (Name.basename text), UInt64.ofNat content.length⟩
  have fits : header.filename.length ≤ Header.nameLimit := Nat.le_trans short (by decide)
  obtain ⟨bytes, encoded⟩ : ∃ bytes, header.encode = .ok bytes :=
    ⟨_, Header.encode_eq_ok_iff.mpr ⟨fits, rfl⟩⟩
  refine ⟨bytes, encoded, ?_⟩
  simp only [prepare, Name.wire_of_text spelled, openSource_of_file opens]
  rw [encoded]

/-- Sending the frame of a file ends with an account of it. -/
theorem transmit_accounted (config : Config) (address : SocketAddress) {outgoing : Outgoing}
    (outbound : Outbound) (clock : Clock) {content : Bytes}
    (source : outgoing.source = .content content) :
    ∃ sent, Accounted outgoing.path config.effectiveBufferSize outgoing.header content
      outgoing.declared outbound sent (transmit config address outgoing outbound clock) := by
  obtain ⟨sent, count, took, ending, counted⟩ := sendFrame_ends outgoing.path
    config.effectiveBufferSize_pos outgoing.header
    ⟨outbound, outgoing.source,
      .start 0 outgoing.declared config.sampleInterval clock.now.1, clock.now.2,
      (Journal.empty.note (.connected address)).note
        (.sending outgoing.filename outgoing.declared)⟩ source (Nat.zero_le _)
  rw [show Session.transferred _ + content.length = content.length from Nat.zero_add _] at ending
  exact ⟨sent, accounted_of_ending took ending counted⟩

/-- A sender writes a beginning of its frame, and all of it unless it fails. -/
theorem transmit_spec (config : Config) (address : SocketAddress) {outgoing : Outgoing}
    (outbound : Outbound) (clock : Clock) {content : Bytes}
    (source : outgoing.source = .content content) :
    ∃ sent, (transmit config address outgoing outbound clock).1.outbound.written =
        outbound.written ++ sent ∧
      sent <+: outgoing.header ++ content.take outgoing.declared ∧
      ((transmit config address outgoing outbound clock).2 = none →
        sent = outgoing.header ++ content.take outgoing.declared) := by
  obtain ⟨sent, account⟩ := transmit_accounted config address outbound clock source
  exact ⟨sent, account.written, account.front, fun success => (account.succeeds_iff.mp success).1⟩

/-- A sender whose file is long enough sends all of its frame over a connection that takes it. -/
theorem transmit_of_taking {config : Config} {address : SocketAddress} {outgoing : Outgoing}
    {outbound : Outbound} {clock : Clock} {content : Bytes}
    (source : outgoing.source = .content content) (enough : outgoing.declared ≤ content.length)
    (taking : Taking outbound (outgoing.header.length + outgoing.declared))
    (flushes : outbound.flushFailure = none) :
    (transmit config address outgoing outbound clock).2 = none := by
  obtain ⟨sent, account⟩ := transmit_accounted config address outbound clock source
  rw [← Nat.min_eq_left enough] at taking
  exact account.succeeds_iff.mpr ⟨account.whole taking, enough, flushes⟩

/-- A sender whose file is long enough is left without an answer if it fails. -/
theorem transmit_failure {config : Config} {address : SocketAddress} {outgoing : Outgoing}
    {outbound : Outbound} {clock : Clock} {content : Bytes} {error : TransferError}
    (source : outgoing.source = .content content) (enough : outgoing.declared ≤ content.length)
    (failure : (transmit config address outgoing outbound clock).2 = some error) :
    error = .noAck := by
  obtain ⟨sent, account⟩ := transmit_accounted config address outbound clock source
  rcases account.ends with success | shrunk | lost
  · simp [failure] at success
  · exact absurd (account.shrinks_iff.mp shrunk).2 (Nat.not_lt.mpr enough)
  · exact Option.some.inj (failure.symm.trans lost)

/-- Whether a sender's result is the one that an answer asks for. -/
def Tells : Ack → Except TransferError Report → Prop
  | .success, result => ∃ report, result = .ok report
  | .failure, result => result = .error .rejected

theorem ne_noAck_of_tells {ack : Ack} {result : Except TransferError Report}
    (tells : Tells ack result) : result ≠ .error .noAck := by
  rintro rfl
  cases ack with
  | success => simp [Tells] at tells
  | failure => simp [Tells] at tells

theorem readAck_ne_rejected (inbound : Inbound) (journal : Journal) :
    (readAck inbound journal).1 ≠ .error .rejected := by
  rw [readAck]
  split
  · simp
  · simp
  · split
    · simp
    · simp

/-- What a sender tells in the end: `report`, if the answer is that the transfer succeeded. -/
def reported (report : Report) : Except TransferError Ack → Except TransferError Report
  | .error error => .error error
  | .ok .failure => .error .rejected
  | .ok .success => .ok report

/-- A transfer is reported to have succeeded exactly if that is the answer. -/
theorem exists_reported_iff {report : Report} {answer : Except TransferError Ack} :
    (∃ told, reported report answer = .ok told) ↔ answer = .ok .success := by
  rcases answer with _ | _ | _
  · simp [reported]
  · simp [reported]
  · simp [reported]

theorem eq_of_reported {report told : Report} {answer : Except TransferError Ack}
    (given : reported report answer = .ok told) : report = told := by
  rw [exists_reported_iff.mp ⟨told, given⟩] at given
  exact Except.ok.inj given

theorem result_conclude (outgoing : Outgoing) (sent : Sending) (inbound : Inbound) :
    (conclude outgoing sent inbound).result =
      reported ⟨outgoing.filename, sent.session.meter.overall sent.clock.now.1,
        sent.session.crc32, .success⟩ (readAck inbound sent.journal).1 := by
  rw [conclude]
  rcases readAck inbound sent.journal with ⟨_ | _ | _, rest, journal⟩
  · rfl
  · rfl
  · rfl

/-- A sender succeeds or is rejected only by an answer that tells so. -/
theorem read_of_conclude {outgoing : Outgoing} {sent : Sending} {inbound : Inbound} {ack : Ack}
    (tells : Tells ack (conclude outgoing sent inbound).result) :
    (readAck inbound sent.journal).1 = .ok ack := by
  have refused := readAck_ne_rejected inbound sent.journal
  rw [result_conclude] at tells
  generalize (readAck inbound sent.journal).1 = read at refused tells ⊢
  rcases read with error | _ | _
  · cases ack with
    | success => simp [Tells, reported] at tells
    | failure => exact absurd (congrArg Except.error (Except.error.inj tells)) refused
  · cases ack with
    | success => rfl
    | failure => simp [Tells, reported] at tells
  · cases ack with
    | success => simp [Tells, reported] at tells
    | failure => rfl

/-- What a sender concludes from an answer. -/
def conclusion : Ack → Except TransferError Unit
  | .success => .ok ()
  | .failure => .error .rejected

/-- A sender whose answer arrives concludes from it. -/
theorem conclude_of_answer (outgoing : Outgoing) (sent : Sending) {inbound : Inbound} {ack : Ack}
    (arrives : inbound.delivered = ack.toBytes) (ends : inbound.ending = .ended) :
    (conclude outgoing sent inbound).result.map (fun _ => ()) = conclusion ack := by
  rw [result_conclude, readAck_of_delivered sent.journal arrives ends]
  cases ack with
  | success => rfl
  | failure => rfl

/-- A sender to which nothing arrives is left without an answer. -/
theorem conclude_of_nothing (outgoing : Outgoing) (sent : Sending) {inbound : Inbound}
    (nothing : inbound.delivered = []) :
    (conclude outgoing sent inbound).result = .error .noAck := by
  rw [result_conclude, readAck_eq_verdict, nothing]
  split
  · rfl
  · rfl

theorem outbound_conclude (outgoing : Outgoing) (sent : Sending) (inbound : Inbound) :
    (conclude outgoing sent inbound).connection.outbound = sent.outbound := by
  rw [conclude]
  split
  · rfl
  · next ack rest journal read =>
      cases ack with
      | success => rfl
      | failure => rfl

/-- A sender that sent its frame waits for the answer. -/
theorem deliver_of_transmit {config : Config} {address : SocketAddress} {outgoing : Outgoing}
    {connection : Connection} {clock : Clock}
    (complete : (transmit config address outgoing connection.outbound clock).2 = none) :
    deliver config address outgoing connection clock =
      conclude outgoing (transmit config address outgoing connection.outbound clock).1
        connection.inbound := by
  rw [deliver]
  split
  · next failed => simp [failed] at complete
  · next passed => rw [passed]

/-- After its frame a sender writes nothing. -/
theorem outbound_deliver (config : Config) (address : SocketAddress) (outgoing : Outgoing)
    (connection : Connection) (clock : Clock) :
    (deliver config address outgoing connection clock).connection.outbound =
      (transmit config address outgoing connection.outbound clock).1.outbound := by
  rw [deliver]
  split
  · next failed => rw [failed]
  · next passed => rw [passed, outbound_conclude]

/-- What is known of a sender that read an answer. -/
theorem read_of_deliver {config : Config} {address : SocketAddress} {outgoing : Outgoing}
    {connection : Connection} {clock : Clock} {content : Bytes}
    (source : outgoing.source = .content content) (enough : outgoing.declared ≤ content.length)
    (answered : (deliver config address outgoing connection clock).result ≠ .error .noAck) :
    let sent := (transmit config address outgoing connection.outbound clock).1
    sent.outbound.written =
        connection.outbound.written ++ (outgoing.header ++ content.take outgoing.declared) ∧
      (deliver config address outgoing connection clock).result =
        (conclude outgoing sent connection.inbound).result := by
  obtain ⟨taken, written, -, whole⟩ :=
    transmit_spec config address connection.outbound clock source
  rw [deliver] at answered ⊢
  split at answered
  · next sent error failed =>
      have silent := transmit_failure source enough (congrArg Prod.snd failed)
      exact absurd (congrArg Except.error silent) answered
  · next sent passed =>
      rw [passed] at written whole ⊢
      rw [whole rfl] at written
      exact ⟨written, rfl⟩

end Sender

end FilePush
