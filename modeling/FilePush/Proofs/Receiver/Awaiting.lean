import FilePush.Proofs.Frame.Cuts
import FilePush.Receiver

/-!
# What a receiver waits for

A receiver that accepts the name of a frame waits for more until it has been sent all of the frame.
A connection on which only writes to a receiver that no longer waits can fail therefore takes all of
such a frame.
-/

namespace FilePush

namespace Header

/-- The beginning of a frame is decoded as far as it goes. -/
theorem decode_take {header : Header} {bytes : Bytes} {limit : Nat} (content : Bytes)
    (encoded : header.encode = .ok bytes) (within : header.filename.length ≤ limit)
    (place : Nat) :
    decode ((bytes ++ content).take place) limit = .ok (header, bytes.length) ∨
      ∃ field expected got, got < expected ∧
        decode ((bytes ++ content).take place) limit =
          .error (.truncated field expected got) := by
  have whole := decode_of_encode content encoded within
  rw [← List.take_append_drop place (bytes ++ content)] at whole
  rcases decode_spec ((bytes ++ content).take place) limit with
    ⟨-, -, refused⟩ | ⟨-, slot, -, cut⟩ | ⟨-, -, first, decoded⟩
  · -- A refusal would not be changed by the rest of the frame.
    rw [refused_append _ refused] at whole
    cases whole
  · obtain ⟨-, -, -, -, -, missing⟩ := firstCut_of_decode cut
    exact .inr ⟨_, _, _, missing, cut⟩
  · rw [decode_append _ decoded] at whole
    exact .inl (decoded.trans whole)

end Header

namespace Receiver

/-- A receiver that accepts a name waits until it has been sent all of the frame. -/
theorem awaited_pos {header : Header} {bytes content : Bytes} {limit place : Nat} {name : String}
    (encoded : header.encode = .ok bytes) (within : header.filename.length ≤ limit)
    (accepted : Name.storage header.filename = .ok name)
    (declares : header.fileSize.toNat = content.length)
    (early : place < (bytes ++ content).length) :
    0 < awaited limit ((bytes ++ content).take place) := by
  have sent : ((bytes ++ content).take place).length = place :=
    List.length_take_of_le (Nat.le_of_lt early)
  rw [awaited]
  rcases Header.decode_take content encoded within place with
    decoded | ⟨field, expected, got, missing, decoded⟩
  · simp only [decoded, accepted, sent, declares]
    rw [List.length_append] at early
    omega
  · simp only [decoded]
    omega

end Receiver

end FilePush
