import FilePush.Frame.Header
import FilePush.Proofs.Stream.Consumption
import Mathlib.Data.List.Induction

/-!
# Headers at the front of a stream

A header that is read from a stream is the one that was written there: reading consumes exactly the
bytes of the header, it succeeds whenever they arrive and the name is not too long, and no two
headers begin the same stream.
-/

namespace FilePush

namespace Bytes

theorem ofBigEndian_lt (bytes : Bytes) : ofBigEndian bytes < capacity bytes.length := by
  induction bytes using List.reverseRecOn with
  | nil => decide
  | append_singleton front byte induction =>
      rw [ofBigEndian_append_singleton, List.length_append, List.length_singleton, capacity_succ]
      have small := byte.toNat_lt
      omega

/-- Writing the value of a byte string gives the byte string back. -/
theorem bigEndian_ofBigEndian (bytes : Bytes) :
    bigEndian bytes.length (ofBigEndian bytes) = bytes := by
  induction bytes using List.reverseRecOn with
  | nil => rfl
  | append_singleton front byte induction =>
      have small := byte.toNat_lt
      have high : (ofBigEndian front * 256 + byte.toNat) / 256 = ofBigEndian front := by omega
      have low : (ofBigEndian front * 256 + byte.toNat) % 256 = byte.toNat := by omega
      rw [ofBigEndian_append_singleton, List.length_append, List.length_singleton, bigEndian, high,
        low, induction, UInt8.ofNat_toNat]

end Bytes

namespace Header

theorem encode_eq_ok_iff {header : Header} {bytes : Bytes} :
    header.encode = .ok bytes ↔
      header.filename.length ≤ nameLimit ∧
        bytes = Bytes.bigEndian lengthWidth header.filename.length ++ header.filename ++
          Bytes.bigEndian sizeWidth header.fileSize.toNat := by
  rw [encode]
  split
  · next short =>
      have word : (UInt16.ofNat header.filename.length).toNat = header.filename.length :=
        UInt16.toNat_ofNat_of_lt' (Nat.lt_succ_of_le short)
      simp [short, encodeLength, encodeSize, word, eq_comm]
  · next long => simp [long]

theorem length_of_encode {header : Header} {bytes : Bytes} (encoded : header.encode = .ok bytes) :
    bytes.length = header.encodedLength := by
  obtain ⟨-, rfl⟩ := encode_eq_ok_iff.mp encoded
  simp [encodedLength, Nat.add_assoc]

/-- A header and its boundary are determined by any stream that begins with it. -/
theorem encode_append_injective {left right : Header} {front front' back back' : Bytes}
    (left_encoded : left.encode = .ok front) (right_encoded : right.encode = .ok front')
    (same : front ++ back = front' ++ back') : left = right ∧ back = back' := by
  obtain ⟨left_short, rfl⟩ := encode_eq_ok_iff.mp left_encoded
  obtain ⟨right_short, rfl⟩ := encode_eq_ok_iff.mp right_encoded
  simp only [List.append_assoc] at same
  obtain ⟨lengths, after_length⟩ := List.append_inj same (by simp)
  have name_lengths : left.filename.length = right.filename.length := by
    have values := congrArg Bytes.ofBigEndian lengths
    rwa [Bytes.ofBigEndian_bigEndian _ _ (Nat.lt_succ_of_le left_short),
      Bytes.ofBigEndian_bigEndian _ _ (Nat.lt_succ_of_le right_short)] at values
  obtain ⟨names, after_name⟩ := List.append_inj after_length name_lengths
  obtain ⟨sizes, rests⟩ := List.append_inj after_name (by simp)
  have size_values : left.fileSize.toNat = right.fileSize.toNat := by
    have values := congrArg Bytes.ofBigEndian sizes
    rwa [Bytes.ofBigEndian_bigEndian _ _ left.fileSize.toNat_lt,
      Bytes.ofBigEndian_bigEndian _ _ right.fileSize.toNat_lt] at values
  cases left
  cases right
  simp only [mk.injEq]
  exact ⟨⟨names, UInt64.toNat_inj.mp size_values⟩, rests⟩

theorem readField_eq_ok {field : String} {width : Nat} {inbound rest : Inbound} {bytes : Bytes}
    (read : readField field width inbound = (.ok bytes, rest)) :
    bytes.length = width ∧ Inbound.Consumes inbound rest bytes := by
  rw [readField] at read
  split at read
  · next collected =>
      simp only [Prod.mk.injEq, Except.ok.injEq] at read
      obtain ⟨rfl, rfl⟩ := read
      exact Inbound.collect_consumes collected
  · simp at read
  · simp at read

theorem readField_of_enough (field : String) {width : Nat} {inbound : Inbound}
    (enough : width ≤ inbound.delivered.length) :
    ∃ rest, readField field width inbound = (.ok (inbound.delivered.take width), rest) := by
  obtain ⟨rest, collected⟩ := Inbound.collect_of_enough enough
  exact ⟨rest, by rw [readField, collected]⟩

/-- The three fields of a header, one after another, are what it is written as. -/
theorem encode_of_fields {lengthBytes filename sizeBytes : Bytes}
    (length_width : lengthBytes.length = lengthWidth)
    (name_width : filename.length = Bytes.ofBigEndian lengthBytes)
    (size_width : sizeBytes.length = sizeWidth) :
    encode ⟨filename, UInt64.ofNat (Bytes.ofBigEndian sizeBytes)⟩ =
      .ok (lengthBytes ++ filename ++ sizeBytes) := by
  have length_fits := Bytes.ofBigEndian_lt lengthBytes
  have size_fits := Bytes.ofBigEndian_lt sizeBytes
  rw [length_width] at length_fits
  rw [size_width] at size_fits
  rw [encode_eq_ok_iff]
  refine ⟨?_, ?_⟩
  · rw [name_width]
    exact Nat.le_of_lt_succ length_fits
  · rw [name_width, UInt64.toNat_ofNat_of_lt' size_fits, ← length_width,
      Bytes.bigEndian_ofBigEndian, ← size_width, Bytes.bigEndian_ofBigEndian]

/-- Reading a header consumes the bytes that it is written as. -/
theorem readFrom_eq_ok {inbound rest : Inbound} {limit : Nat} {header : Header}
    (read : readFrom inbound limit = (.ok header, rest)) :
    ∃ bytes, header.encode = .ok bytes ∧ header.filename.length ≤ limit ∧
      Inbound.Consumes inbound rest bytes := by
  rw [readFrom] at read
  split at read
  · simp at read
  · next lengthBytes afterLength length_read =>
      obtain ⟨length_width, length_consumed⟩ := readField_eq_ok length_read
      simp only at read
      split at read
      · simp at read
      · next within =>
          split at read
          · simp at read
          · next filename afterName name_read =>
              obtain ⟨name_width, name_consumed⟩ := readField_eq_ok name_read
              split at read
              · simp at read
              · next sizeBytes afterSize size_read =>
                  obtain ⟨size_width, size_consumed⟩ := readField_eq_ok size_read
                  simp only [Prod.mk.injEq, Except.ok.injEq] at read
                  obtain ⟨rfl, rfl⟩ := read
                  refine ⟨lengthBytes ++ filename ++ sizeBytes,
                    encode_of_fields length_width name_width size_width, ?_,
                    (length_consumed.trans name_consumed).trans size_consumed⟩
                  rw [name_width]
                  exact Nat.le_of_not_lt within

/-- A header that arrives is read, whatever comes after it. -/
theorem readFrom_of_encode {inbound : Inbound} {limit : Nat} {header : Header}
    {bytes payload : Bytes} (encoded : header.encode = .ok bytes)
    (within : header.filename.length ≤ limit) (arrives : inbound.delivered = bytes ++ payload) :
    ∃ rest, readFrom inbound limit = (.ok header, rest) := by
  obtain ⟨short, rfl⟩ := encode_eq_ok_iff.mp encoded
  rw [List.append_assoc, List.append_assoc] at arrives
  obtain ⟨afterLength, length_read⟩ :=
    readField_of_enough lengthField (show lengthWidth ≤ inbound.delivered.length by simp [arrives])
  have length_consumed := (readField_eq_ok length_read).2
  rw [arrives, List.take_left' (by simp)] at length_read length_consumed
  have after_length := List.append_cancel_left (arrives.symm.trans length_consumed.delivered)
  obtain ⟨afterName, name_read⟩ :=
    readField_of_enough nameField
      (show header.filename.length ≤ afterLength.delivered.length by simp [← after_length])
  have name_consumed := (readField_eq_ok name_read).2
  rw [← after_length, List.take_left' rfl] at name_read name_consumed
  have after_name := List.append_cancel_left (after_length.trans name_consumed.delivered)
  obtain ⟨afterSize, size_read⟩ :=
    readField_of_enough sizeField
      (show sizeWidth ≤ afterName.delivered.length by simp [← after_name])
  rw [← after_name, List.take_left' (by simp)] at size_read
  refine ⟨afterSize, ?_⟩
  have length_value := Bytes.ofBigEndian_bigEndian lengthWidth header.filename.length
    (Nat.lt_succ_of_le short)
  have size_value := Bytes.ofBigEndian_bigEndian sizeWidth header.fileSize.toNat
    header.fileSize.toNat_lt
  simp only [readFrom, length_read, length_value, if_neg (Nat.not_lt.mpr within), name_read,
    size_read, size_value, UInt64.ofNat_toNat]

end Header

end FilePush
