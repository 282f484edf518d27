import FilePush.Proofs.Frame.Ack
import FilePush.Proofs.Frame.Streaming

/-!
# Waiting for an answer

A sender waits until as many bytes have arrived as the longest answer has, or until the stream comes
to its ending, and judges what it has by then.  What arrives later plays no role, and neither does
the division into pieces.  If the connection fails before enough bytes have arrived, the sender gives
up what it has: a token then counts only if the NUL bytes after it make up for what it is shorter
than the longest answer.
-/

namespace FilePush

namespace Sender

section

variable {inbound : Inbound}

/-- Waiting leaves the stream where collecting the bytes of the longest answer leaves it. -/
theorem inbound_readAck (inbound : Inbound) (journal : Journal) :
    (readAck inbound journal).2.1 = (inbound.collect Ack.maxLength).2.2 := by
  rw [readAck]
  split
  · next collected => rw [collected]
  · next collected => rw [collected]
  · next collected =>
      rw [collected]
      split
      · rfl
      · rfl

/-- Waiting takes no more bytes than the longest answer has. -/
theorem unread_readAck (inbound : Inbound) (journal : Journal) :
    inbound.unread =
      min Ack.maxLength inbound.delivered.length + (readAck inbound journal).2.1.unread := by
  rw [inbound_readAck, ← List.length_take, ← inbound.collect_bytes]
  exact inbound.unread_collect Ack.maxLength

/-- A sender to which enough bytes arrive judges by them and leaves the stream where they end. -/
theorem readAck_of_long (journal : Journal) (long : Ack.maxLength ≤ inbound.delivered.length) :
    ∃ rest, inbound.Consumes rest (inbound.delivered.take Ack.maxLength) ∧
      readAck inbound journal =
        (verdict (inbound.delivered.take Ack.maxLength), rest, journal) := by
  obtain ⟨rest, collected⟩ := Inbound.collect_of_enough long
  exact ⟨rest, (Inbound.collect_consumes collected).2,
    readAck_of_collect journal collected (by simp)⟩

/-- What arrives after enough bytes is not looked at. -/
theorem readAck_append (later : List Arrival) (journal : Journal)
    (long : Ack.maxLength ≤ inbound.delivered.length) :
    readAck ⟨inbound.arrivals ++ later⟩ journal =
      ((readAck inbound journal).1, ⟨(readAck inbound journal).2.1.arrivals ++ later⟩,
        (readAck inbound journal).2.2) := by
  obtain ⟨rest, collected⟩ := Inbound.collect_of_enough long
  have collected_first := Inbound.collect_append later long
  rw [collected] at collected_first
  rw [readAck_of_collect journal collected_first (by simp),
    readAck_of_collect journal collected (by simp)]

/-- A sender judges by all that arrived, if the stream ends before enough bytes have. -/
theorem readAck_of_ended (journal : Journal) (short : inbound.delivered.length < Ack.maxLength)
    (ends : inbound.ending = .ended) :
    (readAck inbound journal).1 = verdict inbound.delivered := by
  rw [readAck_eq_verdict, if_pos (.inr ends), List.take_of_length_le (Nat.le_of_lt short)]

/-- A sender has no answer, if the connection fails before enough bytes have arrived. -/
theorem readAck_of_failed (journal : Journal) {error : IoError}
    (short : inbound.delivered.length < Ack.maxLength) (fails : inbound.ending = .failed error) :
    (readAck inbound journal).1 = .error .noAck := by
  rw [readAck_eq_verdict, if_neg]
  simp [fails, Nat.not_le.mpr short]

end

/--
A sender judges by the first ten bytes that arrive and takes no others from the stream; what comes
after them, the ending of the stream included, is left as it is.  If the stream ends before, the
sender judges by all that arrived, and nothing is no answer; if the connection fails before, there is
no answer.  Neither the result nor the number of bytes taken depends on the division into pieces.
-/
theorem readAck_judges_ten :
    (∀ (inbound : Inbound) (journal : Journal),
      let bytes := inbound.delivered
      let read := readAck inbound journal
      (10 ≤ bytes.length →
        read.1 = (Ack.parse (bytes.take 10)).mapError .protocol ∧
          inbound.Consumes read.2.1 (bytes.take 10) ∧ read.2.2 = journal) ∧
      (bytes.length < 10 → inbound.ending = .ended →
        (bytes = [] → read.1 = .error .noAck) ∧
          (bytes ≠ [] → read.1 = (Ack.parse bytes).mapError .protocol) ∧
          inbound.unread = bytes.length + read.2.1.unread) ∧
      (∀ error, bytes.length < 10 → inbound.ending = .failed error → read.1 = .error .noAck) ∧
      (inbound.ending = .ended ∨ ∃ error, inbound.ending = .failed error)) ∧
    (∀ bytes error, Ack.parse bytes = .error error → error = .unknownAck bytes) ∧
    (∀ (inbound : Inbound) (later : List Arrival) (journal : Journal),
      10 ≤ inbound.delivered.length →
        let read := readAck inbound journal
        readAck ⟨inbound.arrivals ++ later⟩ journal =
          (read.1, ⟨read.2.1.arrivals ++ later⟩, read.2.2)) ∧
    (∀ (left right : Inbound) (journal : Journal),
      10 ≤ left.delivered.length → left.delivered.take 10 = right.delivered.take 10 →
        (readAck left journal).1 = (readAck right journal).1) ∧
    ∀ (left right : Inbound) (journal : Journal),
      left.delivered = right.delivered → left.ending = right.ending →
        (readAck left journal).1 = (readAck right journal).1 ∧
          ∃ taken, left.unread = taken + (readAck left journal).2.1.unread ∧
            right.unread = taken + (readAck right journal).2.1.unread := by
  refine ⟨fun inbound journal => ⟨fun long => ?_, fun short ends => ⟨?_, fun something => ?_, ?_⟩,
      fun error short fails => readAck_of_failed journal short fails, inbound.ending_cases⟩,
    fun bytes error refused => Ack.eq_of_parse_eq_error refused,
    fun inbound later journal long => readAck_append later journal long,
    fun left right journal long same => ?_, fun left right journal same ending => ?_⟩
  · obtain ⟨rest, took, read⟩ := readAck_of_long journal long
    have something : inbound.delivered.take 10 ≠ [] := by
      rw [← List.length_pos_iff, List.length_take_of_le long]
      decide
    rw [read]
    exact ⟨verdict_eq_parse something, took, rfl⟩
  · rw [readAck_of_ended journal short ends]
    exact verdict_eq_noAck_iff.mpr
  · rw [readAck_of_ended journal short ends, verdict_eq_parse something]
  · have fewer : inbound.delivered.length ≤ Ack.maxLength := Nat.le_of_lt short
    rw [unread_readAck inbound journal, Nat.min_eq_right fewer]
  · have also_long : 10 ≤ right.delivered.length := by
      have lengths := congrArg List.length same
      rw [List.length_take, List.length_take] at lengths
      omega
    rw [readAck_eq_verdict, if_pos (.inl long), readAck_eq_verdict, if_pos (.inl also_long)]
    exact congrArg verdict same
  · refine ⟨by rw [readAck_eq_verdict, readAck_eq_verdict, same, ending], _,
      unread_readAck left journal, ?_⟩
    rw [same]
    exact unread_readAck right journal

/--
There is no answer exactly if nothing arrives before the stream ends or if the connection fails before
ten bytes have arrived.  A token with NUL bytes after it is heard if the stream then ends; if the
connection fails, it is heard only if the token and the NUL bytes together have ten bytes.
-/
theorem readAck_of_token (inbound : Inbound) (journal : Journal) :
    let bytes := inbound.delivered.take 10
    let result := (readAck inbound journal).1
    (result = .error .noAck ↔
      bytes = [] ∨ inbound.delivered.length < 10 ∧ ∃ error, inbound.ending = .failed error) ∧
    ∀ (ack : Ack) (nuls : Nat), bytes = Utf8.encode ack.token ++ List.replicate nuls 0 →
      (inbound.ending = .ended → result = .ok ack) ∧
        ∀ error, inbound.ending = .failed error →
          result = if 10 ≤ (Utf8.encode ack.token).length + nuls then .ok ack
            else .error .noAck := by
  intro bytes result
  have judged : result = if 10 ≤ inbound.delivered.length ∨ inbound.ending = .ended then
      verdict bytes else .error .noAck := readAck_eq_verdict inbound journal
  constructor
  · rw [judged]
    split
    · next heard =>
        have kept : ¬(inbound.delivered.length < 10 ∧ ∃ error, inbound.ending = .failed error) := by
          rintro ⟨short, error, fails⟩
          simp [fails, Nat.not_le.mpr short] at heard
        rw [verdict_eq_noAck_iff, or_iff_left kept]
    · next lost =>
        obtain ⟨short, unended⟩ := not_or.mp lost
        have fails := inbound.ending_cases.resolve_left unended
        exact iff_of_true rfl (.inr ⟨Nat.lt_of_not_le short, fails⟩)
  · intro ack nuls token
    have heard : verdict bytes = .ok ack :=
      verdict_eq_ok_iff.mpr (Ack.parse_eq_ok_iff.mpr ⟨nuls, token⟩)
    have lengths := congrArg List.length token
    rw [List.length_take, List.length_append, List.length_replicate] at lengths
    refine ⟨fun ends => ?_, fun error fails => ?_⟩
    · rw [judged, if_pos (.inr ends), heard]
    · have enough_iff : (10 ≤ inbound.delivered.length ∨ inbound.ending = .ended) ↔
          10 ≤ (Utf8.encode ack.token).length + nuls := by
        simp only [fails, reduceCtorEq, or_false]
        omega
      rw [judged, heard]
      exact if_congr enough_iff rfl rfl

/-- A rejection is lost if the connection fails right after it, and a success is not. -/
theorem rejection_lost_by_failure :
    let failure : Arrival := .failure (.other "connection reset")
    let rejected : Inbound := ⟨[.bytes Ack.failure.toBytes, failure]⟩
    let stored : Inbound := ⟨[.bytes Ack.success.toBytes, failure]⟩
    rejected.delivered.take 10 = Utf8.encode Ack.failure.token ++ List.replicate 1 0 ∧
      (readAck rejected .empty).1 = .error .noAck ∧ (readAck stored .empty).1 = .ok .success := by
  intro failure rejected stored
  refine ⟨by decide, ?_, ?_⟩
  · rw [readAck_eq_verdict]
    decide
  · rw [readAck_eq_verdict]
    decide

end Sender

end FilePush
