import FilePush.Proofs.Frame.Header

/-!
# Headers in byte strings

Decoding takes a header from the front of a byte string exactly if the front is what the header is
written as and the name is not too long.  Writing and decoding therefore undo each other, whatever
comes after the header, and only a name whose length does not fit in two bytes cannot be written.
-/

namespace FilePush

namespace Header

theorem takeField_eq_ok {field : String} {width : Nat} {bytes taken : Bytes}
    (took : takeField field width bytes = .ok taken) :
    width ≤ bytes.length ∧ taken = bytes.take width := by
  rw [takeField] at took
  split at took
  · next enough => exact ⟨enough, (Except.ok.inj took).symm⟩
  · simp at took

theorem takeField_of_enough (field : String) {width : Nat} {bytes : Bytes}
    (enough : width ≤ bytes.length) : takeField field width bytes = .ok (bytes.take width) :=
  if_pos enough

theorem takeField_of_short (field : String) {width : Nat} {bytes : Bytes}
    (short : bytes.length < width) :
    takeField field width bytes = .error (.truncated field width bytes.length) :=
  if_neg (Nat.not_le.mpr short)

/-- A field is taken from the front of a byte string, whatever comes after it. -/
theorem takeField_append (field : String) {width : Nat} {front : Bytes} (back : Bytes)
    (fills : front.length = width) : takeField field width (front ++ back) = .ok front := by
  rw [takeField_of_enough field (by rw [List.length_append]; omega), List.take_left' fills]

/-- Decoding takes the three fields one after another, as reading from a stream does. -/
theorem decode_eq (bytes : Bytes) (limit : Nat) :
    decode bytes limit =
      match takeField lengthField lengthWidth bytes with
      | .error error => .error error
      | .ok lengthBytes =>
          let length := Bytes.ofBigEndian lengthBytes
          if limit < length then .error (.nameTooLong length limit)
          else
            match takeField nameField length (bytes.drop lengthWidth) with
            | .error error => .error error
            | .ok filename =>
                match takeField sizeField sizeWidth ((bytes.drop lengthWidth).drop length) with
                | .error error => .error error
                | .ok sizeBytes =>
                    let header : Header := ⟨filename, UInt64.ofNat (Bytes.ofBigEndian sizeBytes)⟩
                    .ok (header, header.encodedLength) := by
  simp only [decode, decodeLength, decodeSize, bind, Except.bind]
  cases took : takeField lengthField lengthWidth bytes with
  | error error => rfl
  | ok lengthBytes =>
      -- Two bytes always fit in the word that the length is kept in.
      have fits := Bytes.ofBigEndian_lt lengthBytes
      obtain ⟨enough, rfl⟩ := takeField_eq_ok took
      rw [List.length_take_of_le enough] at fits
      have word : (UInt16.ofNat (Bytes.ofBigEndian (bytes.take lengthWidth))).toNat =
          Bytes.ofBigEndian (bytes.take lengthWidth) := UInt16.toNat_ofNat_of_lt' fits
      simp only [Except.map, word]
      split
      · rfl
      · cases takeField nameField (Bytes.ofBigEndian (bytes.take lengthWidth))
            (bytes.drop lengthWidth) with
        | error error => rfl
        | ok filename =>
            cases takeField sizeField sizeWidth ((bytes.drop lengthWidth).drop
                (Bytes.ofBigEndian (bytes.take lengthWidth))) with
            | error error => rfl
            | ok sizeBytes => rfl

/-- A header that is decoded stands at the front of the byte string as it is written. -/
theorem encode_of_decode {bytes : Bytes} {limit consumed : Nat} {header : Header}
    (decoded : decode bytes limit = .ok (header, consumed)) :
    header.filename.length ≤ limit ∧ consumed = header.encodedLength ∧
      consumed ≤ bytes.length ∧ header.encode = .ok (bytes.take consumed) := by
  rw [decode_eq] at decoded
  split at decoded
  · simp at decoded
  · next lengthBytes length_taken =>
      obtain ⟨length_enough, rfl⟩ := takeField_eq_ok length_taken
      simp only at decoded
      split at decoded
      · simp at decoded
      · next within =>
          split at decoded
          · simp at decoded
          · next filename name_taken =>
              obtain ⟨name_enough, rfl⟩ := takeField_eq_ok name_taken
              split at decoded
              · simp at decoded
              · next sizeBytes size_taken =>
                  obtain ⟨size_enough, rfl⟩ := takeField_eq_ok size_taken
                  simp only [Except.ok.injEq, Prod.mk.injEq] at decoded
                  obtain ⟨rfl, rfl⟩ := decoded
                  have name_width := List.length_take_of_le name_enough
                  have encoded := encode_of_fields (List.length_take_of_le length_enough)
                    name_width (List.length_take_of_le size_enough)
                  rw [List.length_drop] at name_enough size_enough
                  rw [List.length_drop] at size_enough
                  refine ⟨?_, rfl, ?_, ?_⟩
                  · rw [name_width]
                    exact Nat.le_of_not_lt within
                  · rw [encodedLength, name_width]
                    omega
                  · rw [encoded, encodedLength, name_width, List.append_assoc,
                      ← List.take_add, ← List.take_add, Nat.add_assoc]

/-- A header that was written is decoded, whatever comes after it. -/
theorem decode_of_encode {header : Header} {front : Bytes} {limit : Nat} (payload : Bytes)
    (encoded : header.encode = .ok front) (within : header.filename.length ≤ limit) :
    decode (front ++ payload) limit = .ok (header, front.length) := by
  have consumed := length_of_encode encoded
  obtain ⟨short, rfl⟩ := encode_eq_ok_iff.mp encoded
  have length_value := Bytes.ofBigEndian_bigEndian lengthWidth header.filename.length
    (Nat.lt_succ_of_le short)
  have size_value := Bytes.ofBigEndian_bigEndian sizeWidth header.fileSize.toNat
    header.fileSize.toNat_lt
  have length_width := Bytes.length_bigEndian lengthWidth header.filename.length
  have size_width := Bytes.length_bigEndian sizeWidth header.fileSize.toNat
  rw [consumed, decode_eq, List.append_assoc, List.append_assoc,
    takeField_append lengthField _ length_width]
  simp only [length_value, if_neg (Nat.not_lt.mpr within)]
  rw [List.drop_left' length_width, takeField_append nameField _ rfl]
  simp only
  rw [List.drop_left' rfl, takeField_append sizeField _ size_width]
  simp only [size_value, UInt64.ofNat_toNat]

/-- A header cannot be written exactly if its name is too long, and then its length is told. -/
theorem encode_eq_error_iff {header : Header} {error : ProtocolError} :
    header.encode = .error error ↔
      nameLimit < header.filename.length ∧
        error = .nameTooLong header.filename.length nameLimit := by
  rw [encode]
  split
  · next short => simp [Nat.not_lt.mpr short]
  · next long => simp [Nat.lt_of_not_le long, eq_comm]

/--
A header is decoded from a byte string exactly if it stands at the front as it is written; it can be
written exactly if its name has at most 65535 bytes.  Hence writing and decoding undo each other, and
a stream begins with one header only.
-/
theorem decode_exact :
    (∀ (bytes : Bytes) (limit : Nat) (header : Header) (consumed : Nat),
      decode bytes limit = .ok (header, consumed) ↔
        header.filename.length ≤ limit ∧ consumed = header.encodedLength ∧
          consumed ≤ bytes.length ∧ header.encode = .ok (bytes.take consumed)) ∧
    (∀ (header : Header) (error : ProtocolError),
      header.encode = .error error ↔
        65535 < header.filename.length ∧ error = .nameTooLong header.filename.length 65535) ∧
    (∀ (header : Header) (front payload : Bytes) (limit : Nat),
      header.encode = .ok front → header.filename.length ≤ limit →
        decode (front ++ payload) limit = .ok (header, front.length)) ∧
    (∀ (bytes : Bytes) (limit : Nat) (header : Header) (consumed : Nat),
      decode bytes limit = .ok (header, consumed) →
        header.encode = .ok (bytes.take consumed)) ∧
    (∀ (left right : Header) (front front' stream : Bytes),
      left.encode = .ok front → right.encode = .ok front' →
        front <+: stream → front' <+: stream → left = right) := by
  refine ⟨fun bytes limit header consumed => ⟨encode_of_decode, ?_⟩,
    fun header error => encode_eq_error_iff,
    fun header front payload limit encoded within => decode_of_encode payload encoded within,
    fun bytes limit header consumed decoded => (encode_of_decode decoded).2.2.2, ?_⟩
  · rintro ⟨within, -, enough, encoded⟩
    have decoded := decode_of_encode (bytes.drop consumed) encoded within
    rwa [List.take_append_drop, List.length_take_of_le enough] at decoded
  · rintro left right front front' stream encoded encoded' ⟨back, rfl⟩ ⟨back', same⟩
    exact (encode_append_injective encoded encoded' same.symm).1

-- The payload after a header is left alone.
example : decode [0, 1, 97, 0, 0, 0, 0, 0, 0, 0, 2, 120] 1 = .ok (⟨[97], 2⟩, 11) := by rfl

end Header

end FilePush
