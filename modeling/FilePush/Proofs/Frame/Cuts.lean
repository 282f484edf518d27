import FilePush.Proofs.Frame.Decoding

/-!
# Headers that are cut short

The first two bytes tell how long a header is.  If the name they announce is too long, no further
byte matters; otherwise decoding succeeds exactly if as many bytes are there, and before that it
reports the first field that is not wholly there.  More bytes therefore never change a header that
was decoded or a name that was refused, and they complete a header that was cut short as soon as
there are enough of them.
-/

namespace FilePush

namespace Header

/-- The length of the name, as the first bytes of a header tell it. -/
def announced (bytes : Bytes) : Nat := Bytes.ofBigEndian (bytes.take lengthWidth)

/-- Where a field of a header stands. -/
structure Slot where
  /-- What the field is called in errors. -/
  name : String
  /-- The number of bytes before it. -/
  offset : Nat
  /-- The number of bytes that it takes. -/
  width : Nat

/-- The fields of a header, in order, if its name has so many bytes. -/
def slots (length : Nat) : List Slot :=
  [⟨lengthField, 0, lengthWidth⟩, ⟨nameField, lengthWidth, length⟩,
    ⟨sizeField, lengthWidth + length, sizeWidth⟩]

/-- The first field of a header that is not wholly among the bytes that are there. -/
def firstCut? (bytes : Bytes) : Option Slot :=
  (slots (announced bytes)).find? fun slot => bytes.length < slot.offset + slot.width

variable {bytes : Bytes} {limit : Nat}

/-- The fields are looked at in order, and so are their ends. -/
theorem firstCut?_eq (bytes : Bytes) :
    firstCut? bytes =
      if bytes.length < lengthWidth then some ⟨lengthField, 0, lengthWidth⟩
      else if bytes.length < lengthWidth + announced bytes then
        some ⟨nameField, lengthWidth, announced bytes⟩
      else if bytes.length < lengthWidth + announced bytes + sizeWidth then
        some ⟨sizeField, lengthWidth + announced bytes, sizeWidth⟩
      else none := by
  simp only [firstCut?, slots, List.find?_cons, List.find?_nil, Nat.zero_add]
  by_cases length_cut : bytes.length < lengthWidth
  · simp [length_cut]
  · by_cases name_cut : bytes.length < lengthWidth + announced bytes
    · simp [length_cut, name_cut]
    · by_cases size_cut : bytes.length < lengthWidth + announced bytes + sizeWidth
      · simp [length_cut, name_cut, size_cut]
      · simp [length_cut, name_cut, size_cut]

/-- Part of the first field that is cut, or nothing of it, is there. -/
theorem cut_of_firstCut? {slot : Slot} (cut : firstCut? bytes = some slot) :
    slot.offset ≤ bytes.length ∧ bytes.length < slot.offset + slot.width ∧
      slot.offset + slot.width ≤ lengthWidth + announced bytes + sizeWidth := by
  rw [firstCut?_eq] at cut
  split at cut
  · next length_cut =>
      cases cut
      simp only [Nat.zero_add]
      omega
  · next length_there =>
      split at cut
      · next name_cut =>
          cases cut
          exact ⟨Nat.le_of_not_lt length_there, name_cut, Nat.le_add_right _ _⟩
      · next name_there =>
          split at cut
          · next size_cut =>
              cases cut
              exact ⟨Nat.le_of_not_lt name_there, size_cut, Nat.le_refl _⟩
          · cases cut

/-- The name is as long as announced, whatever comes after the first two bytes. -/
theorem announced_append (more : Bytes) (enough : lengthWidth ≤ bytes.length) :
    announced (bytes ++ more) = announced bytes := by
  rw [announced, List.take_append_of_le_length enough, announced]

/-- Decoding refuses a name, reports the first field that is cut, or gives a whole header. -/
theorem decode_spec (bytes : Bytes) (limit : Nat) :
    (lengthWidth ≤ bytes.length ∧ limit < announced bytes ∧
      decode bytes limit = .error (.nameTooLong (announced bytes) limit)) ∨
    ((lengthWidth ≤ bytes.length → announced bytes ≤ limit) ∧ ∃ slot,
      firstCut? bytes = some slot ∧
        decode bytes limit =
          .error (.truncated slot.name slot.width (bytes.length - slot.offset))) ∨
    (announced bytes ≤ limit ∧ lengthWidth + announced bytes + sizeWidth ≤ bytes.length ∧
      ∃ header, decode bytes limit =
        .ok (header, lengthWidth + announced bytes + sizeWidth)) := by
  have after_length : (bytes.drop lengthWidth).length = bytes.length - lengthWidth :=
    List.length_drop
  have after_name : ((bytes.drop lengthWidth).drop (announced bytes)).length =
      bytes.length - (lengthWidth + announced bytes) := by
    rw [List.length_drop, after_length, Nat.sub_sub]
  rw [firstCut?_eq, decode_eq]
  by_cases length_cut : bytes.length < lengthWidth
  · rw [if_pos length_cut, takeField_of_short _ length_cut]
    exact .inr (.inl ⟨fun there => absurd there (Nat.not_le.mpr length_cut), _, rfl, rfl⟩)
  have length_there := Nat.le_of_not_lt length_cut
  rw [if_neg length_cut, takeField_of_enough _ length_there]
  have told : Bytes.ofBigEndian (bytes.take lengthWidth) = announced bytes := rfl
  simp only [told]
  by_cases long : limit < announced bytes
  · exact .inl ⟨length_there, long, if_pos long⟩
  have within := Nat.le_of_not_lt long
  rw [if_neg long]
  by_cases name_cut : bytes.length < lengthWidth + announced bytes
  · rw [if_pos name_cut, takeField_of_short _ (by omega), after_length]
    exact .inr (.inl ⟨fun _ => within, _, rfl, rfl⟩)
  rw [if_neg name_cut, takeField_of_enough _ (by omega)]
  by_cases size_cut : bytes.length < lengthWidth + announced bytes + sizeWidth
  · rw [if_pos size_cut, takeField_of_short _ (by omega), after_name]
    exact .inr (.inl ⟨fun _ => within, _, rfl, rfl⟩)
  · have name_length : ((bytes.drop lengthWidth).take (announced bytes)).length =
        announced bytes := List.length_take_of_le (by omega)
    rw [takeField_of_enough _ (by omega)]
    simp only [encodedLength, name_length]
    exact .inr (.inr ⟨within, Nat.le_of_not_lt size_cut, _, rfl⟩)

theorem decode_eq_nameTooLong_iff {length most : Nat} :
    decode bytes limit = .error (.nameTooLong length most) ↔
      lengthWidth ≤ bytes.length ∧ limit < announced bytes ∧
        length = announced bytes ∧ most = limit := by
  rcases decode_spec bytes limit with
    ⟨there, long, decoded⟩ | ⟨within, slot, -, decoded⟩ | ⟨within, -, header, decoded⟩
  · simp [decoded, there, long, eq_comm]
  · simp only [decoded, Except.error.injEq, reduceCtorEq, false_iff]
    rintro ⟨there, long, -⟩
    exact absurd (within there) (Nat.not_le.mpr long)
  · simp only [decoded, reduceCtorEq, false_iff]
    rintro ⟨-, long, -⟩
    exact absurd within (Nat.not_le.mpr long)

/-- The field that is reported is the first that is cut, with the bytes of it that are there. -/
theorem firstCut_of_decode {field : String} {expected got : Nat}
    (decoded : decode bytes limit = .error (.truncated field expected got)) :
    ∃ slot, firstCut? bytes = some slot ∧ field = slot.name ∧ expected = slot.width ∧
      slot.offset + got = bytes.length ∧ got < expected := by
  rcases decode_spec bytes limit with
    ⟨-, -, refused⟩ | ⟨-, slot, cut, reported⟩ | ⟨-, -, header, whole⟩
  · simp [refused] at decoded
  · simp only [reported, Except.error.injEq, ProtocolError.truncated.injEq] at decoded
    obtain ⟨rfl, rfl, rfl⟩ := decoded
    obtain ⟨reached, short, -⟩ := cut_of_firstCut? cut
    exact ⟨slot, cut, rfl, rfl, by omega, by omega⟩
  · simp [whole] at decoded

/-- A header is cut short exactly if too few bytes are there and its name is not too long. -/
theorem exists_truncated_iff :
    (∃ field expected got, decode bytes limit = .error (.truncated field expected got)) ↔
      (lengthWidth ≤ bytes.length → announced bytes ≤ limit) ∧
        bytes.length < lengthWidth + announced bytes + sizeWidth := by
  rcases decode_spec bytes limit with
    ⟨there, long, refused⟩ | ⟨within, slot, cut, reported⟩ | ⟨within, enough, header, whole⟩
  · refine iff_of_false (by simp [refused]) ?_
    rintro ⟨within, -⟩
    exact absurd (within there) (Nat.not_le.mpr long)
  · obtain ⟨-, short, inside⟩ := cut_of_firstCut? cut
    exact iff_of_true ⟨_, _, _, reported⟩ ⟨within, by omega⟩
  · refine iff_of_false (by simp [whole]) ?_
    rintro ⟨-, short⟩
    exact absurd enough (Nat.not_le.mpr short)

/-- A header that is wholly there is decoded, unless its name is too long. -/
theorem exists_decoded_of_enough (within : announced bytes ≤ limit)
    (enough : lengthWidth + announced bytes + sizeWidth ≤ bytes.length) :
    ∃ header, decode bytes limit =
      .ok (header, lengthWidth + announced bytes + sizeWidth) := by
  rcases decode_spec bytes limit with
    ⟨-, long, -⟩ | ⟨-, slot, cut, -⟩ | ⟨-, -, whole⟩
  · exact absurd within (Nat.not_le.mpr long)
  · obtain ⟨-, short, inside⟩ := cut_of_firstCut? cut
    omega
  · exact whole

/-- What comes after a header that was decoded plays no role. -/
theorem decode_append {header : Header} {consumed : Nat} (more : Bytes)
    (decoded : decode bytes limit = .ok (header, consumed)) :
    decode (bytes ++ more) limit = .ok (header, consumed) := by
  obtain ⟨within, -, enough, encoded⟩ := encode_of_decode decoded
  have decoded_more := decode_of_encode (bytes.drop consumed ++ more) encoded within
  rwa [← List.append_assoc, List.take_append_drop, List.length_take_of_le enough] at decoded_more

/-- What comes after a name that was refused plays no role either. -/
theorem refused_append {told most : Nat} (more : Bytes)
    (refused : decode bytes limit = .error (.nameTooLong told most)) :
    decode (bytes ++ more) limit = .error (.nameTooLong told most) := by
  obtain ⟨there, long, rfl, rfl⟩ := decode_eq_nameTooLong_iff.mp refused
  have same := announced_append more there
  refine decode_eq_nameTooLong_iff.mpr ⟨?_, same ▸ long, same.symm, rfl⟩
  rw [List.length_append]
  exact Nat.le_add_right_of_le there

/--
A name is refused exactly if its length is there and exceeds the limit, and a header is cut short
exactly if its length is not there, or is within the limit and more is announced than is there.  The
first field that is not wholly there is then reported, with its width and the bytes of it that are
there.  More bytes change neither a header nor a refusal, and they complete a header whose length is
there exactly if they are as many as are missing.
-/
theorem decode_errors_exact (bytes : Bytes) (limit : Nat) :
    let width := announced bytes
    (∀ told most, decode bytes limit = .error (.nameTooLong told most) ↔
      2 ≤ bytes.length ∧ limit < width ∧ told = width ∧ most = limit) ∧
    ((∃ field expected got, decode bytes limit = .error (.truncated field expected got)) ↔
      bytes.length < 2 ∨ width ≤ limit ∧ bytes.length < width + 10) ∧
    (∀ field expected got, decode bytes limit = .error (.truncated field expected got) →
      ∃ slot, firstCut? bytes = some slot ∧ field = slot.name ∧ expected = slot.width ∧
        slot.offset + got = bytes.length ∧ got < expected) ∧
    (∀ more header consumed, decode bytes limit = .ok (header, consumed) →
      decode (bytes ++ more) limit = .ok (header, consumed)) ∧
    (∀ more told most, decode bytes limit = .error (.nameTooLong told most) →
      decode (bytes ++ more) limit = .error (.nameTooLong told most)) ∧
    ((∃ field expected got, decode bytes limit = .error (.truncated field expected got)) →
      2 ≤ bytes.length → ∀ more : Bytes,
        (width + 10 - bytes.length ≤ more.length →
          ∃ header, decode (bytes ++ more) limit = .ok (header, width + 10)) ∧
        (more.length < width + 10 - bytes.length →
          ∃ field expected got,
            decode (bytes ++ more) limit = .error (.truncated field expected got))) := by
  intro width
  have size : lengthWidth + width + sizeWidth = width + 10 := by
    rw [Nat.add_comm lengthWidth, Nat.add_assoc, lengthWidth, sizeWidth]
  have cut_iff : (∃ field expected got,
      decode bytes limit = .error (.truncated field expected got)) ↔
        (2 ≤ bytes.length → width ≤ limit) ∧ bytes.length < width + 10 :=
    size ▸ exists_truncated_iff
  have same (more : Bytes) (there : 2 ≤ bytes.length) : announced (bytes ++ more) = width :=
    announced_append more there
  refine ⟨fun told most => decode_eq_nameTooLong_iff, cut_iff.trans ?_,
    fun field expected got decoded => firstCut_of_decode decoded,
    fun more header consumed decoded => decode_append more decoded,
    fun more told most refused => refused_append more refused,
    fun cut there more => ⟨fun enough => ?_, fun fewer => ?_⟩⟩
  · omega
  · have within := (cut_iff.mp cut).1 there
    rw [← size, ← same more there]
    apply exists_decoded_of_enough
    · rwa [same more there]
    · rw [same more there, size, List.length_append]
      omega
  · have within := (cut_iff.mp cut).1 there
    refine exists_truncated_iff.mpr ?_
    rw [same more there, size, List.length_append]
    exact ⟨fun _ => within, by omega⟩

-- The name is the first field that is not wholly there: one byte of three.
example : decode [0, 3, 97] 5 = .error (.truncated "filename" 3 1) := by rfl

end Header

end FilePush
