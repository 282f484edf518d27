import FilePush.Proofs.Receiver.Payload

/-!
# Accounting for a payload

A receiver counts the bytes that it takes from the stream, on a full device too: as long as no write
reports a failure, what is no longer unread has been counted.  `Writes` follows a receiver from chunk
to chunk and tells what each write reported; one of them reports a failure exactly if receiving ends
by a failure of the file.
-/

namespace FilePush

namespace Receiver

/-- A receiver that goes on from a state comes to write a chunk, and is told the result. -/
inductive Writes (bufferSize : Nat) : Receiving → Bytes → Option IoError → Prop
  /-- The chunk is the next one. -/
  | next {state : Receiving} {chunk : Bytes} {later : Inbound}
      (incomplete : ¬state.session.isComplete)
      (read : state.inbound.read (state.session.nextChunkLength bufferSize) = (.data chunk, later)) :
      Writes bufferSize state chunk (state.file.write state.tree chunk).2.2
  /-- The chunk comes after one that was written. -/
  | later {state : Receiving} {first chunk : Bytes} {later : Inbound} {file : OpenFile}
      {tree : FileTree} {result : Option IoError}
      (incomplete : ¬state.session.isComplete)
      (read : state.inbound.read (state.session.nextChunkLength bufferSize) = (.data first, later))
      (written : state.file.write state.tree first = (file, tree, none))
      (onward : Writes bufferSize ({ state with inbound := later, file, tree }.record first) chunk
        result) :
      Writes bufferSize state chunk result

variable {bufferSize : Nat} {state : Receiving}

/-- A receiver that comes to write a chunk reads one first. -/
theorem Writes.reads {chunk : Bytes} {result : Option IoError}
    (writes : Writes bufferSize state chunk result) :
    ¬state.session.isComplete ∧ ∃ first later,
      state.inbound.read (state.session.nextChunkLength bufferSize) = (.data first, later) := by
  cases writes with
  | next incomplete read => exact ⟨incomplete, _, _, read⟩
  | later incomplete read => exact ⟨incomplete, _, _, read⟩

/-- A failure that is reported after a chunk was written is reported of a later chunk. -/
theorem Writes.onward {first chunk : Bytes} {later : Inbound} {file : OpenFile} {tree : FileTree}
    {error : IoError} (writes : Writes bufferSize state chunk (some error))
    (read : state.inbound.read (state.session.nextChunkLength bufferSize) = (.data first, later))
    (written : state.file.write state.tree first = (file, tree, none)) :
    Writes bufferSize ({ state with inbound := later, file, tree }.record first) chunk
      (some error) := by
  generalize reported : some error = result at writes ⊢
  cases writes with
  | next _ read' =>
      simp only [read, Prod.mk.injEq, Reading.data.injEq] at read'
      obtain ⟨rfl, -⟩ := read'
      simp [written] at reported
  | later _ read' written' onward =>
      simp only [read, Prod.mk.injEq, Reading.data.injEq] at read'
      obtain ⟨rfl, rfl⟩ := read'
      simp only [written, Prod.mk.injEq, and_true] at written'
      obtain ⟨rfl, rfl⟩ := written'
      exact onward

/-- Receiving ends by a failure of the file exactly if a write reports one. -/
theorem receivePayload_eq_ioError_iff :
    (receivePayload bufferSize state).2 = some .ioError ↔
      ∃ chunk error, Writes bufferSize state chunk (some error) := by
  fun_induction receivePayload bufferSize state with
  | case1 state complete =>
      refine iff_of_false (by simp) ?_
      rintro ⟨chunk, error, writes⟩
      exact writes.reads.1 complete
  | case2 state incomplete later given notice =>
      refine iff_of_false (by simp) ?_
      rintro ⟨chunk, error, writes⟩
      obtain ⟨-, first, rest, read⟩ := writes.reads
      simp [given] at read
  | case3 state incomplete error later given =>
      refine iff_of_false (by simp) ?_
      rintro ⟨chunk, error, writes⟩
      obtain ⟨-, first, rest, read⟩ := writes.reads
      simp [given] at read
  | case4 state incomplete chunk later given file tree error written =>
      refine iff_of_true rfl ⟨chunk, error, ?_⟩
      have writes := Writes.next incomplete given
      rwa [written] at writes
  | case5 state incomplete chunk later given file tree written induction =>
      rw [induction]
      constructor
      · rintro ⟨other, error, writes⟩
        exact ⟨other, error, .later incomplete given written writes⟩
      · rintro ⟨other, error, writes⟩
        exact ⟨other, error, writes.onward given written⟩

/-- The number of bytes that were taken from the stream is counted, unless a write reports a failure. -/
theorem unread_receivePayload (written : (receivePayload bufferSize state).2 ≠ some .ioError) :
    state.inbound.unread + state.session.transferred =
      (receivePayload bufferSize state).1.inbound.unread +
        (receivePayload bufferSize state).1.session.transferred := by
  fun_induction receivePayload bufferSize state with
  | case1 => rfl
  | case2 state incomplete later given notice =>
      rw [Inbound.unread_of_read_nothing given rfl]
      rfl
  | case3 state incomplete error later given =>
      rw [Inbound.unread_of_read_nothing given rfl]
      rfl
  | case4 => simp at written
  | case5 state incomplete chunk later given file tree _ induction =>
      have unread := (Inbound.read_data_consumes given).unread
      rw [← induction written, Receiving.session_record, Session.transferred_record, unread,
        Nat.add_comm chunk.length, Nat.add_assoc, Nat.add_comm chunk.length]
      rfl

theorem declared_receivePayload :
    (receivePayload bufferSize state).1.session.declared = state.session.declared := by
  fun_induction receivePayload bufferSize state with
  | case1 => rfl
  | case2 => rfl
  | case3 => rfl
  | case4 => rfl
  | case5 state _ chunk _ _ _ _ _ induction =>
      rw [induction, Receiving.session_record, Session.declared_record]

/-- A connection that fails leaves bytes missing. -/
theorem isComplete_of_connectionError
    (failed : (receivePayload bufferSize state).2 = some .connectionError) :
    ¬(receivePayload bufferSize state).1.session.isComplete := by
  fun_induction receivePayload bufferSize state with
  | case1 => simp at failed
  | case2 => simp at failed
  | case3 _ incomplete => exact incomplete
  | case4 => simp at failed
  | case5 _ _ _ _ _ _ _ _ induction => exact induction failed

end Receiver

end FilePush
