import FilePush.Proofs.Frame.Cuts

/-!
# Headers in streams

Reading a header from a stream gives what decoding the delivered bytes gives, and takes the same bytes
from the stream.  Where the delivered bytes hold only part of a header, a reader takes all of them and
comes to the ending of the stream: it reports the field that is cut short if the stream ends there, and
the failure if the stream fails.  Hence nothing depends on how the bytes are divided into pieces.
-/

namespace FilePush

/-- What a reader reports that comes to an ending before a field is complete. -/
def Stop.report (ending : Stop) (cut : ProtocolError) : TransferError :=
  match ending with
  | .failed error => .io error
  | .full | .ended => .protocol cut

namespace Inbound

/-- A reader that collects bytes takes no other byte, wherever it stops. -/
theorem unread_collect (inbound : Inbound) (wanted : Nat) :
    inbound.unread =
      (inbound.collect wanted).1.length + (inbound.collect wanted).2.2.unread := by
  fun_induction collect inbound wanted with
  | case1 => simp
  | case2 inbound wanted _ later given => simpa using unread_of_read_nothing given rfl
  | case3 inbound wanted _ error later given => simpa using unread_of_read_nothing given rfl
  | case4 inbound wanted _ chunk later given more stop last collected induction =>
      rw [collected] at induction
      rw [(read_data_consumes given).unread, induction, List.length_append, Nat.add_assoc]

/-- A reader that wants more than is delivered takes all of it and comes to the ending. -/
theorem collect_of_short {wanted : Nat} {inbound : Inbound}
    (short : inbound.delivered.length < wanted) :
    ∃ rest, inbound.collect wanted = (inbound.delivered, inbound.ending, rest) ∧
      inbound.unread = inbound.delivered.length + rest.unread := by
  have bytes := inbound.collect_bytes wanted
  have stop := inbound.collect_stop wanted
  have unread := inbound.unread_collect wanted
  rw [List.take_of_length_le (Nat.le_of_lt short)] at bytes
  rw [if_neg (Nat.not_le.mpr short)] at stop
  rw [bytes] at unread
  exact ⟨_, Prod.ext bytes (Prod.ext stop rfl), unread⟩

end Inbound

namespace Header

/-- A field is read from a stream exactly if it can be taken from what the stream delivers. -/
theorem readField_cases (field : String) (width : Nat) (inbound : Inbound) :
    (∃ rest,
      takeField field width inbound.delivered =
          .error (.truncated field width inbound.delivered.length) ∧
        readField field width inbound =
          (.error (inbound.ending.report (.truncated field width inbound.delivered.length)),
            rest) ∧
        inbound.unread = inbound.delivered.length + rest.unread) ∨
    width ≤ inbound.delivered.length ∧ ∃ rest,
      takeField field width inbound.delivered = .ok (inbound.delivered.take width) ∧
        readField field width inbound = (.ok (inbound.delivered.take width), rest) ∧
        inbound.delivered.drop width = rest.delivered ∧ inbound.ending = rest.ending ∧
        inbound.unread = width + rest.unread := by
  by_cases enough : width ≤ inbound.delivered.length
  · obtain ⟨rest, read⟩ := readField_of_enough field enough
    obtain ⟨length, consumed⟩ := readField_eq_ok read
    refine .inr ⟨enough, rest, takeField_of_enough field enough, read, ?_, consumed.ending.symm,
      length ▸ consumed.unread⟩
    have parts := List.take_append_drop width inbound.delivered
    exact List.append_cancel_left (parts.trans consumed.delivered)
  · obtain ⟨rest, collected, unread⟩ := Inbound.collect_of_short (Nat.lt_of_not_le enough)
    refine .inl ⟨rest, takeField_of_short field (Nat.lt_of_not_le enough), ?_, unread⟩
    rw [readField, collected]
    cases ending : inbound.ending with
    | full => exact absurd ending inbound.ending_ne_full
    | ended => rfl
    | failed error => rfl

/-- What reading gives, by what decoding gives and by the ending of the stream. -/
def streamed (ending : Stop) : Except ProtocolError (Header × Nat) → Except TransferError Header
  | .ok (header, _) => .ok header
  | .error (.truncated field expected got) =>
      .error (ending.report (.truncated field expected got))
  | .error error => .error (.protocol error)

/-- How many bytes reading takes, by what decoding gives. -/
def takenBytes (delivered : Bytes) : Except ProtocolError (Header × Nat) → Nat
  | .ok (_, consumed) => consumed
  | .error (.nameTooLong _ _) => lengthWidth
  | .error _ => delivered.length

/-- Reading from a stream is decoding what it delivers. -/
theorem readFrom_eq_streamed (inbound : Inbound) (limit : Nat) :
    let decoded := decode inbound.delivered limit
    (readFrom inbound limit).1 = streamed inbound.ending decoded ∧
      inbound.unread = takenBytes inbound.delivered decoded + (readFrom inbound limit).2.unread := by
  -- Each field is cut short in the stream and in the byte string, or taken from both.
  rcases readField_cases lengthField lengthWidth inbound with
    ⟨rest, took, read, unread⟩ |
    ⟨length_enough, afterLength, took, read, length_rest, length_ending, length_unread⟩
  · simp only [decode_eq, took, readFrom, read]
    exact ⟨rfl, unread⟩
  have after_length := congrArg List.length length_rest
  rw [List.length_drop] at after_length
  simp only [decode_eq, took, length_rest, length_ending, readFrom, read]
  split
  · exact ⟨rfl, length_unread⟩
  rcases readField_cases nameField (Bytes.ofBigEndian (inbound.delivered.take lengthWidth))
      afterLength with
    ⟨rest, took, read, unread⟩ |
    ⟨name_enough, afterName, took, read, name_rest, name_ending, name_unread⟩
  · simp only [took, read]
    refine ⟨rfl, ?_⟩
    simp only [takenBytes]
    omega
  have after_name := congrArg List.length name_rest
  rw [List.length_drop] at after_name
  simp only [took, name_rest, name_ending, read]
  rcases readField_cases sizeField sizeWidth afterName with
    ⟨rest, took, read, unread⟩ |
    ⟨size_enough, afterSize, took, read, size_rest, size_ending, size_unread⟩
  · simp only [took, read]
    refine ⟨rfl, ?_⟩
    simp only [takenBytes]
    omega
  · simp only [took, read]
    refine ⟨rfl, ?_⟩
    simp only [takenBytes, encodedLength, List.length_take]
    omega

/-- A byte string begins with a header, with a name that is too long, or with part of a header. -/
theorem decode_cases (bytes : Bytes) (limit : Nat) :
    (∃ header consumed, decode bytes limit = .ok (header, consumed)) ∨
      (∃ length, decode bytes limit = .error (.nameTooLong length limit)) ∨
      ∃ field expected got, decode bytes limit = .error (.truncated field expected got) := by
  rcases decode_spec bytes limit with
    ⟨-, -, refused⟩ | ⟨-, slot, -, cut⟩ | ⟨-, -, header, decoded⟩
  · exact .inr (.inl ⟨_, refused⟩)
  · exact .inr (.inr ⟨_, _, _, cut⟩)
  · exact .inl ⟨_, _, decoded⟩

/--
Reading a header from a stream gives what decoding the delivered bytes gives and takes as many bytes;
a header that is cut short is reported by the ending of the stream, and then all of the bytes were
taken.  What is read and how many bytes are taken depends on the delivered bytes and the ending only.
-/
theorem readFrom_agrees (limit : Nat) :
    (∀ inbound : Inbound,
      let bytes := inbound.delivered
      let read := readFrom inbound limit
      ((∃ header consumed, decode bytes limit = .ok (header, consumed)) ∨
        (∃ length, decode bytes limit = .error (.nameTooLong length limit)) ∨
        ∃ field expected got, decode bytes limit = .error (.truncated field expected got)) ∧
      (∀ header consumed, decode bytes limit = .ok (header, consumed) →
        read.1 = .ok header ∧ inbound.unread = consumed + read.2.unread ∧
          inbound.Consumes read.2 (bytes.take consumed)) ∧
      (∀ length most, decode bytes limit = .error (.nameTooLong length most) →
        read.1 = .error (.protocol (.nameTooLong length most)) ∧
          inbound.unread = 2 + read.2.unread) ∧
      ∀ field expected got, decode bytes limit = .error (.truncated field expected got) →
        inbound.unread = bytes.length + read.2.unread ∧
        (inbound.ending = .ended →
          read.1 = .error (.protocol (.truncated field expected got))) ∧
        (∀ error, inbound.ending = .failed error → read.1 = .error (.io error)) ∧
        inbound.ending ≠ .full) ∧
    ∀ left right : Inbound, left.delivered = right.delivered → left.ending = right.ending →
      (readFrom left limit).1 = (readFrom right limit).1 ∧
        ∃ taken, left.unread = taken + (readFrom left limit).2.unread ∧
          right.unread = taken + (readFrom right limit).2.unread := by
  refine ⟨fun inbound => ?_, fun left right bytes ending => ?_⟩
  · obtain ⟨result, unread⟩ := readFrom_eq_streamed inbound limit
    refine ⟨decode_cases _ _, fun header consumed decoded => ?_, fun length most decoded => ?_,
      fun field expected got decoded => ?_⟩
    · rw [decoded] at result unread
      obtain ⟨front, encoded, -, taken⟩ := readFrom_eq_ok (Prod.ext result rfl)
      have front_taken := encoded.symm.trans (encode_of_decode decoded).2.2.2
      exact ⟨result, unread, Except.ok.inj front_taken ▸ taken⟩
    · rw [decoded] at result unread
      exact ⟨result, unread⟩
    · rw [decoded] at result unread
      refine ⟨unread, fun ended => ?_, fun error failed => ?_, inbound.ending_ne_full⟩
      · rw [ended] at result
        exact result
      · rw [failed] at result
        exact result
  · obtain ⟨left_result, left_unread⟩ := readFrom_eq_streamed left limit
    obtain ⟨right_result, right_unread⟩ := readFrom_eq_streamed right limit
    rw [bytes] at left_result left_unread
    rw [ending] at left_result
    exact ⟨left_result.trans right_result.symm, _, left_unread, right_unread⟩

end Header

end FilePush
