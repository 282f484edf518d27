import FilePush.Proofs.Sender.Payload

/-!
# How sending a frame ends

A sender puts its header and the content of its file on the wire, from the front.  It stops where the
connection refuses to go on, where the file ends too early, or when all is sent.  Which of these it
was, what is on the wire and what the session has counted always fit together, and apart from where
a connection is lost none of it depends on the size of the buffer.
-/

namespace FilePush

namespace Sender

/-- How sending a frame ends, and what it leaves. -/
theorem sendFrame_ends (path : Path) {bufferSize : Nat} (some_buffer : 0 < bufferSize)
    (header : Bytes) (state : Sending) {content : Bytes} (source : state.source = .content content)
    (within : state.session.transferred ≤ state.session.declared) :
    ∃ sent count, (sendFrame path bufferSize header state).1.outbound = state.outbound.took sent ∧
      Ending state.outbound
        (shortage path state.session.declared (state.session.transferred + content.length))
        (header ++ content.take state.session.remaining) sent
        (sendFrame path bufferSize header state).2 ∧
      Counted bufferSize content (content.take state.session.remaining) (sent.drop header.length)
        state.session (sendFrame path bufferSize header state).1.session count := by
  rw [sendFrame]
  rcases state.outbound.writeAll_cases header with all | ⟨taken, cause, front, fewer, refuses, cut⟩
  · simp only [all]
    obtain ⟨sent, count, took, ending, counted⟩ := sendPayload_ends path some_buffer
      { state with outbound := state.outbound.took header } source within
    refine ⟨header ++ sent, count, took.trans (Outbound.took_append _ _ _), ending.after, ?_⟩
    rw [List.drop_left]
    exact counted
  · simp only [cut]
    have proper : taken ≠ header ++ content.take state.session.remaining := by
      rintro rfl
      rw [List.length_append] at fewer
      omega
    refine ⟨taken, 0, rfl, .cut (front.trans (List.prefix_append _ _)) proper refuses, ?_⟩
    rw [List.drop_of_length_le (Nat.le_of_lt fewer)]
    exact .nothing some_buffer fun _ => rfl

/-- Sending a frame does not pass a limit of the connection. -/
theorem bounded_sendFrame (path : Path) (bufferSize : Nat) (header : Bytes) {state : Sending}
    {limit : Nat} (bounded : state.outbound.Bounded limit) :
    (sendFrame path bufferSize header state).1.outbound.Bounded limit := by
  have after := bounded.writeAll header
  rw [sendFrame]
  split
  · next failed =>
      rw [failed] at after
      exact after
  · next passed =>
      rw [passed] at after
      exact bounded_sendPayload path bufferSize after

/-- What is known once the sending of a frame has ended, of which `sent` was put on the wire. -/
structure Accounted (path : Path) (bufferSize : Nat) (header content : Bytes) (declared : Nat)
    (outbound : Outbound) (sent : Bytes) (ended : Sending × Option TransferError) : Prop where
  /-- So much was put on the wire, and nothing else. -/
  written : ended.1.outbound.written = outbound.written ++ sent
  /-- It is a beginning of the header and of the declared part of the content. -/
  front : sent <+: header ++ content.take declared
  /-- Sending succeeds exactly if that is all there, on the wire and pushed out. -/
  succeeds_iff : ended.2 = none ↔
    sent = header ++ content.take declared ∧ declared ≤ content.length ∧
      outbound.flushFailure = none
  /-- The file is found too short exactly if it is, and all of it is on the wire. -/
  shrinks_iff : ended.2 = some (.file (.shrunk path declared content.length)) ↔
    sent = header ++ content ∧ content.length < declared
  /-- There is no answer exactly if some of it is not on the wire, or not pushed out. -/
  fails_iff : ended.2 = some .noAck ↔
    sent ≠ header ++ content.take declared ∨
      declared ≤ content.length ∧ outbound.flushFailure ≠ none
  /-- Sending ends in no other way. -/
  ends : ended.2 = none ∨ ended.2 = some (.file (.shrunk path declared content.length)) ∨
    ended.2 = some .noAck
  /-- What is not on the wire was refused. -/
  refused : sent ≠ header ++ content.take declared →
    outbound.Refuses (outbound.position + sent.length)
  /-- A connection that takes bytes wherever they are offered is sent all there is. -/
  whole : Taking outbound (header.length + min declared content.length) →
    sent = header ++ content.take declared
  /-- The session has counted no more of the payload than is on the wire. -/
  counted_le : ended.1.session.transferred ≤ sent.length - header.length
  /-- What it has not counted is less than a buffer. -/
  uncounted_lt : sent.length - header.length - ended.1.session.transferred < bufferSize
  /-- When sending succeeds, it has counted all of it. -/
  counted_all : ended.2 = none → ended.1.session.transferred = declared
  /-- Its checksum is that of what it has counted. -/
  checksum : ended.1.session.crc32 =
    Checksum.ofBytes (content.take ended.1.session.transferred)

/-- The ending of a frame and what was counted of it make up its account. -/
theorem accounted_of_ending {path : Path} {bufferSize : Nat} {header content sent : Bytes}
    {declared count sequence : Nat} {interval : Duration} {now : Instant} {outbound : Outbound}
    {ended : Sending × Option TransferError} (took : ended.1.outbound = outbound.took sent)
    (ending : Ending outbound (shortage path declared content.length)
      (header ++ content.take declared) sent ended.2)
    (counted : Counted bufferSize content (content.take declared) (sent.drop header.length)
      (Session.start sequence declared interval now) ended.1.session count) :
    Accounted path bufferSize header content declared outbound sent ended := by
  have total : ended.1.session.transferred = count := counted.transferred.trans (Nat.zero_add count)
  have on_wire := counted.le_sent
  have pending := counted.sent_lt
  rw [List.length_drop] at on_wire pending
  refine
    { written := by rw [took]; rfl
      front := ending.sent_prefix
      succeeds_iff := ?_
      shrinks_iff := ?_
      fails_iff := ?_
      ends := ?_
      refused := ending.refuses
      whole := fun taking => ending.sent_eq_of_taking ?_
      counted_le := by rwa [total]
      uncounted_lt := by
        rw [total]
        omega
      counted_all := fun success => ?_
      checksum := ?_ }
  · rw [ending.eq_none_iff, shortage_eq_none_iff]
  · rw [ending.eq_some_iff (by simp), shortage_eq_some_iff]
    constructor
    · rintro ⟨rfl, -, short⟩
      exact ⟨by rw [List.take_of_length_le (Nat.le_of_lt short)], short⟩
    · rintro ⟨rfl, short⟩
      exact ⟨by rw [List.take_of_length_le (Nat.le_of_lt short)], rfl, short⟩
  · rw [ending.eq_noAck_iff (shortage_ne_noAck _ _ _), shortage_eq_none_iff]
  · by_cases lost : ended.2 = some .noAck
    · exact .inr (.inr lost)
    · rw [(ending.eq_short_of_ne_noAck lost).2, shortage]
      split
      · exact .inr (.inl rfl)
      · exact .inl rfl
  · rwa [List.length_append, List.length_take]
  · obtain ⟨rfl, enough, -⟩ := ending.eq_none_iff.mp success
    rw [List.drop_left] at counted
    rw [total, counted.of_whole rfl, List.length_take]
    exact Nat.min_eq_left (shortage_eq_none_iff.mp enough)
  · rw [total, Session.crc32, counted.checksum]
    rfl

/--
Sending a frame with a fresh session ends with an account in which the error, the bytes on the wire,
the count and the checksum fit together, whatever the connection does.  The size of the buffer does
not matter to attempts that do not lose the connection, nor to any attempt if the connection has room
for a number of bytes and no more.
-/
theorem sendFrame_accounted (path : Path) (config : Config) (header content : Bytes)
    (declared sequence : Nat) (interval : Duration) (now : Instant) (outbound : Outbound)
    (clock : Clock) (journal : Journal) :
    let state : Sending :=
      ⟨outbound, .content content, .start sequence declared interval now, clock, journal⟩
    let ended := sendFrame path config.effectiveBufferSize header state
    (∃ sent, Accounted path config.effectiveBufferSize header content declared outbound sent ended) ∧
      ∀ other : Config,
        let again := sendFrame path other.effectiveBufferSize header state
        ended.2 ≠ some .noAck ∧ again.2 ≠ some .noAck ∨ (∃ room, Room outbound room) →
          again.2 = ended.2 ∧ again.1.outbound.written = ended.1.outbound.written := by
  intro state ended
  have ends (other : Config) :=
    sendFrame_ends path other.effectiveBufferSize_pos header state rfl (Nat.zero_le _)
  obtain ⟨sent, count, took, ending, counted⟩ := ends config
  constructor
  · rw [show state.session.transferred + content.length = content.length from Nat.zero_add _]
      at ending
    exact ⟨sent, accounted_of_ending took ending counted⟩
  · intro other again known
    obtain ⟨sent_again, _, took_again, ending_again, -⟩ := ends other
    have same : sent_again = sent := by
      rcases known with ⟨kept, also_kept⟩ | ⟨room, holds⟩
      · rw [(ending.eq_short_of_ne_noAck kept).1, (ending_again.eq_short_of_ne_noAck also_kept).1]
      · have bounded (size : Nat) : (sendFrame path size header state).1.outbound.Bounded
            (outbound.position + room) := bounded_sendFrame path size header holds.bounded
        rw [ending.sent_eq_take holds.taking (took ▸ bounded _).length_le,
          ending_again.sent_eq_take holds.taking (took_again ▸ bounded _).length_le]
    subst same
    exact ⟨ending_again.result_unique (shortage_ne_noAck _ _ _) ending,
      congrArg Outbound.written (took_again.trans took.symm)⟩

end Sender

end FilePush
