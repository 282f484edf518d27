import FilePush.Proofs.FileTree.Entries
import FilePush.Proofs.Stream.Consumption
import FilePush.Receiver

/-!
# Receiving a payload

A receiver whose device has space receives the first bytes that are delivered, as many as are still
missing, and adds exactly these to the unfinished file.  How the bytes are divided into pieces and
how large the buffer is does not matter.
-/

namespace FilePush

namespace Receiver

/-- A receiver in the state `before` added `payload` to its file and is in the state `after`. -/
structure Received (before after : Receiving) (payload : Bytes) : Prop where
  /-- The file is open as before. -/
  file : after.file = before.file
  /-- The size to reach is as before. -/
  declared : after.session.declared = before.session.declared
  /-- The payload was counted. -/
  transferred : after.session.transferred = before.session.transferred + payload.length
  /-- The payload stands at the end of the file, and nothing else changed. -/
  tree : ∀ place,
    after.tree.get? place = (before.tree.append before.file.location payload).get? place
  /-- No other byte was taken from the stream. -/
  unread : before.inbound.unread = payload.length + after.inbound.unread

/-- The outcome that an ending of the stream forces on a receiver that still misses bytes. -/
def lossOf : Stop → Option Outcome
  | .failed _ => some .connectionError
  | .full | .ended => none

theorem Received.of_nothing {before after : Receiving} (file : after.file = before.file)
    (session : after.session = before.session) (tree : after.tree = before.tree)
    (unread : after.inbound.unread = before.inbound.unread) : Received before after [] where
  file := file
  declared := by rw [session]
  transferred := by rw [session]; rfl
  tree := fun place => by rw [tree, FileTree.get?_append_nil]
  unread := by rw [unread]; simp

/-- Receiving goes on after a chunk as from a state in which the chunk has been received. -/
theorem Received.after_chunk {before next after : Receiving} {chunk payload : Bytes}
    (first : Received before next chunk) (rest : Received next after payload) :
    Received before after (chunk ++ payload) where
  file := rest.file.trans first.file
  declared := rest.declared.trans first.declared
  transferred := by
    rw [rest.transferred, first.transferred, List.length_append, Nat.add_assoc]
  tree := fun place => by
    rw [rest.tree, first.file, FileTree.get?_append_congr (first.tree place),
      FileTree.get?_append_append]
  unread := by rw [first.unread, rest.unread, List.length_append, Nat.add_assoc]

theorem received_record {state : Receiving} {later : Inbound} {chunk : Bytes}
    (consumed : state.inbound.Consumes later chunk) :
    Received state
      ({ state with
          inbound := later, tree := state.tree.append state.file.location chunk }.record chunk)
      chunk where
  file := rfl
  declared := Session.declared_record _ _ _
  transferred := Session.transferred_record _ _ _
  tree := fun _ => rfl
  unread := consumed.unread

/--
A receiver whose device has space receives the next bytes up to the size declared; it loses the
connection only if the stream fails before.
-/
theorem receivePayload_spec {bufferSize : Nat} (some_buffer : 0 < bufferSize) (state : Receiving)
    (within : state.session.transferred ≤ state.session.declared)
    (clean : state.file.unreported = none)
    (space : state.tree.get? state.file.location ≠ some .full) :
    Received state (receivePayload bufferSize state).1
        (state.inbound.delivered.take state.session.remaining) ∧
      (receivePayload bufferSize state).2 =
        if state.session.remaining ≤ state.inbound.delivered.length then none
        else lossOf state.inbound.ending := by
  fun_induction receivePayload bufferSize state with
  | case1 state complete =>
      have none_left := Session.remaining_of_isComplete complete
      simp only [none_left, List.take_zero, Nat.zero_le, if_true, and_true]
      exact Received.of_nothing rfl rfl rfl rfl
  | case2 state incomplete later given notice =>
      have some_left := Session.remaining_pos within incomplete
      obtain ⟨nothing, ending⟩ := Inbound.read_ended (Nat.lt_min.mpr ⟨some_left, some_buffer⟩) given
      have same := (Inbound.unread_of_read_nothing given rfl).symm
      simp only [nothing, List.take_nil, List.length_nil, Nat.le_zero, ending, lossOf,
        ite_self, and_true]
      exact Received.of_nothing rfl rfl rfl same
  | case3 state incomplete error later given =>
      have some_left := Session.remaining_pos within incomplete
      obtain ⟨nothing, ending⟩ := Inbound.read_failed given
      have same := (Inbound.unread_of_read_nothing given rfl).symm
      simp only [nothing, List.take_nil, List.length_nil, Nat.le_zero, ending, lossOf,
        if_neg (Nat.ne_of_gt some_left), and_true]
      exact Received.of_nothing rfl rfl rfl same
  | case4 state incomplete chunk later given file tree error written =>
      simp [OpenFile.write, clean, space] at written
  | case5 state incomplete chunk later given file tree written induction =>
      simp only [OpenFile.write, clean, space, if_false, Prod.mk.injEq, and_true] at written
      obtain ⟨rfl, rfl⟩ := written
      have consumed := Inbound.read_data_consumes given
      have fits : chunk.length ≤ state.session.remaining :=
        Nat.le_trans (Inbound.read_data given).2 (Nat.min_le_left _ _)
      have first := received_record consumed
      obtain ⟨rest, failure⟩ := induction (Session.transferred_record_le _ within fits) clean
        (by
          rw [first.file, first.tree, Ne, FileTree.get?_append_eq_iff (by simp)]
          exact space)
      rw [Receiving.session_record, Session.remaining_record] at rest failure
      constructor
      · rw [consumed.delivered, List.take_append, List.take_of_length_le fits]
        exact first.after_chunk rest
      · rw [failure, consumed.delivered, List.length_append]
        show (if _ ≤ later.delivered.length then none else lossOf later.ending) = _
        rw [consumed.ending]
        congr 1
        rw [Nat.sub_le_iff_le_add, Nat.add_comm]

/-- Receiving fails only by the connection or by the file. -/
theorem receivePayload_failure {bufferSize : Nat} {state : Receiving} {outcome : Outcome}
    (failure : (receivePayload bufferSize state).2 = some outcome) :
    outcome = .connectionError ∨ outcome = .ioError := by
  fun_induction receivePayload bufferSize state with
  | case1 => simp at failure
  | case2 => simp at failure
  | case3 => exact .inl (Option.some.inj failure).symm
  | case4 => exact .inr (Option.some.inj failure).symm
  | case5 _ _ _ _ _ _ _ _ induction => exact induction failure

/-- A failure of the device that is not reported yet stays so unless another chunk comes. -/
theorem receivePayload_of_unreported {bufferSize : Nat} {state : Receiving} {error : IoError}
    (failed : state.file.unreported = some error)
    (quiet : (receivePayload bufferSize state).2 = none) :
    (receivePayload bufferSize state).1.file.unreported = some error := by
  fun_induction receivePayload bufferSize state with
  | case1 => exact failed
  | case2 => exact failed
  | case3 => simp at quiet
  | case4 => simp at quiet
  | case5 state _ chunk _ _ _ _ written =>
      simp [OpenFile.write, failed] at written

/-- A receiver whose device is full changes nothing. -/
theorem tree_receivePayload_of_full {bufferSize : Nat} {state : Receiving}
    (full : state.tree.get? state.file.location = some .full) :
    (receivePayload bufferSize state).1.tree = state.tree := by
  fun_induction receivePayload bufferSize state with
  | case1 => rfl
  | case2 => rfl
  | case3 => rfl
  | case4 state incomplete chunk later given file tree error written =>
      have unchanged := @OpenFile.tree_write_of_full state.file state.tree chunk full
      rwa [written] at unchanged
  | case5 state incomplete chunk later given file tree written induction =>
      have unchanged := @OpenFile.tree_write_of_full state.file state.tree chunk full
      have place := OpenFile.location_write state.file state.tree chunk
      rw [written] at unchanged place
      subst unchanged
      exact induction (place ▸ full)

/-- A receiver whose device is full ends without a failure only if it receives nothing. -/
theorem receivePayload_of_full {bufferSize : Nat} {state : Receiving}
    (clean : state.file.unreported = none)
    (full : state.tree.get? state.file.location = some .full)
    (quiet : (receivePayload bufferSize state).2 = none)
    (flushed : (receivePayload bufferSize state).1.file.unreported = none) :
    (receivePayload bufferSize state).1.session = state.session := by
  fun_induction receivePayload bufferSize state with
  | case1 => rfl
  | case2 => rfl
  | case3 => simp at quiet
  | case4 => simp at quiet
  | case5 state _ chunk later _ file tree written =>
      simp only [OpenFile.write, clean, full, if_true] at written
      split at written
      · simp at written
      · simp only [Prod.mk.injEq, and_true] at written
        obtain ⟨rfl, rfl⟩ := written
        have failed := @receivePayload_of_unreported _ _ .noSpace rfl quiet
        rw [failed] at flushed
        cases flushed

end Receiver

end FilePush
