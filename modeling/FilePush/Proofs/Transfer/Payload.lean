import FilePush.Proofs.Receiver.Dependence
import FilePush.Proofs.Sampling.Sending
import FilePush.Proofs.Transfer.Loop

/-!
# Transfers of payloads

Receiving a payload and sending one are the same loop in different surroundings: a receiver reads
from its connection and writes to its unfinished file, a sender reads from its file and writes to
its connection.  They differ in what they make of the way in which the loop ends.  Both are
therefore steady, up to the greatest size that a header can declare and with any buffer.
-/

namespace FilePush

open Transfer (Surroundings run)

namespace Receiver

/-- What surrounds a receiver. -/
def surroundings : Surroundings Receiving where
  read state wanted :=
    match state.inbound.read wanted with
    | (.data chunk, inbound) => (.ok chunk, { state with inbound })
    | (.ended, inbound) => (.ok [], { state with inbound })
    | (.failed error, inbound) => (.error error, { state with inbound })
  write state chunk :=
    let (file, tree, failure) := state.file.write state.tree chunk
    ({ state with file, tree }, failure)
  now state := (state.clock.now.1, { state with clock := state.clock.now.2 })
  report state session sample :=
    { state with journal := state.journal.noteFor session.sequence (.speeds sample) }
  length_read := by
    intro state later wanted chunk given
    rcases read : state.inbound.read wanted with ⟨data | _ | error, inbound⟩
    · simp only [read, Prod.mk.injEq, Except.ok.injEq] at given
      exact given.1 ▸ (Inbound.read_data read).2
    · simp only [read, Prod.mk.injEq, Except.ok.injEq] at given
      exact given.1 ▸ Nat.zero_le _
    · simp [read] at given

/-- What comes of asking a connection for bytes. -/
theorem turn_surroundings (state : Receiving) (wanted : Nat) :
    surroundings.turn state wanted =
      match state.inbound.read wanted with
      | (.ended, inbound) => (.halted .ended, { state with inbound })
      | (.failed error, inbound) => (.halted (.failed error), { state with inbound })
      | (.data chunk, inbound) =>
          match state.file.write state.tree chunk with
          | (file, tree, some error) =>
              (.halted (.unwritten chunk error), { state with inbound, file, tree })
          | (file, tree, none) =>
              (.moved chunk state.clock.now.1,
                { state with inbound, file, tree, clock := state.clock.now.2 }) := by
  rcases read : state.inbound.read wanted with ⟨chunk | _ | error, inbound⟩
  · have nonempty := List.length_pos_iff.mp (Inbound.read_data read).1
    simp only [Surroundings.turn, surroundings, read, if_neg nonempty]
    rcases written : state.file.write state.tree chunk with ⟨file, tree, _ | error⟩ <;> rfl
  · simp only [Surroundings.turn, surroundings, read, if_pos]
  · simp only [Surroundings.turn, surroundings, read]

/-- Noting a chunk is the same as telling of the sample that the session gave. -/
theorem tell_surroundings (state : Receiving) (session : Session) (chunk : Bytes) :
    let noted := session.record chunk state.clock.now.1
    { surroundings.tell { state with clock := state.clock.now.2 } noted with session := noted.2 } =
      { state with session }.record chunk := by
  rcases recorded : session.record chunk state.clock.now.1 with ⟨_ | sample, later⟩ <;>
    simp [Receiving.record, Surroundings.tell, surroundings, recorded]

/-- What a receiver makes of a transfer. -/
def concludePayload (course : Transfer.Course Receiving) : Receiving × Option Outcome :=
  let state := { course.world with session := course.session }
  match course.halt? with
  | none => (state, none)
  | some .ended => (state.note (.endedEarly state.session.transferred state.session.declared), none)
  | some (.failed error) => (state.note (.receiveFailed error), some .connectionError)
  | some (.unwritten _ error) => (state.note (.writeFailed error), some .ioError)

/-- One round of receiving is one round of a transfer. -/
theorem receivePayload_eq_turn (bufferSize : Nat) (session : Session) (state : Receiving) :
    receivePayload bufferSize { state with session } =
      if session.isComplete then concludePayload ⟨[], session, state, none⟩
      else
        match surroundings.turn state (session.nextChunkLength bufferSize) with
        | (.halted halt, later) => concludePayload ⟨[], session, later, some halt⟩
        | (.moved chunk now, later) =>
            let noted := session.record chunk now
            receivePayload bufferSize
              { surroundings.tell later noted with session := noted.2 } := by
  rw [receivePayload_eq, turn_surroundings]
  refine ite_congr rfl (fun _ => rfl) fun _ => ?_
  rcases read : state.inbound.read (session.nextChunkLength bufferSize) with
    ⟨chunk | _ | error, inbound⟩
  · rcases written : state.file.write state.tree chunk with ⟨file, tree, _ | error⟩
    · have told := tell_surroundings { state with inbound, file, tree } session chunk
      simp only [written]
      exact congrArg (receivePayload bufferSize) told.symm
    · simp only [written]
      rfl
  · rfl
  · rfl

/-- Receiving a payload is a transfer. -/
theorem receivePayload_eq_run (bufferSize : Nat) (session : Session) (state : Receiving) :
    receivePayload bufferSize { state with session } =
      concludePayload (run surroundings bufferSize session state) := by
  fun_induction run surroundings bufferSize session state with
  | case1 session state complete => rw [receivePayload_eq_turn, if_pos complete]
  | case2 session state incomplete wanted halt later given =>
      rw [receivePayload_eq_turn, if_neg incomplete, given]
      rfl
  | case3 session state incomplete wanted chunk now later given noted induction =>
      rw [receivePayload_eq_turn, if_neg incomplete, given]
      exact induction

end Receiver

namespace Sender

/-- What surrounds a sender. -/
def surroundings : Surroundings Sending where
  read state wanted :=
    match state.source.read wanted with
    | .error error => (.error error, state)
    | .ok (chunk, source) => (.ok chunk, { state with source })
  write state chunk :=
    let (outbound, failure) := state.outbound.writeAll chunk
    ({ state with outbound }, failure)
  now state := (state.clock.now.1, { state with clock := state.clock.now.2 })
  report state session sample :=
    { state with
      journal := state.journal.note (.progress session.transferred session.declared sample) }
  length_read := by
    intro state later wanted chunk given
    rcases read : state.source.read wanted with error | ⟨data, source⟩
    · simp [read] at given
    · simp only [read, Prod.mk.injEq, Except.ok.injEq] at given
      exact given.1 ▸ Source.length_read read

/-- What comes of asking a file for bytes. -/
theorem turn_surroundings (state : Sending) (wanted : Nat) :
    surroundings.turn state wanted =
      match state.source.read wanted with
      | .error error => (.halted (.failed error), state)
      | .ok (chunk, source) =>
          if chunk = [] then (.halted .ended, { state with source })
          else
            match state.outbound.writeAll chunk with
            | (outbound, some error) =>
                (.halted (.unwritten chunk error), { state with outbound, source })
            | (outbound, none) =>
                (.moved chunk state.clock.now.1,
                  { state with outbound, source, clock := state.clock.now.2 }) := by
  rcases read : state.source.read wanted with error | ⟨chunk, source⟩
  · simp only [Surroundings.turn, surroundings, read]
  · simp only [Surroundings.turn, surroundings, read]
    refine ite_congr rfl (fun _ => rfl) fun _ => ?_
    rcases written : state.outbound.writeAll chunk with ⟨outbound, _ | error⟩ <;> rfl

/-- Noting a chunk is the same as telling of the sample that the session gave. -/
theorem tell_surroundings (state : Sending) (session : Session) (chunk : Bytes) :
    let noted := session.record chunk state.clock.now.1
    { surroundings.tell { state with clock := state.clock.now.2 } noted with session := noted.2 } =
      { state with session }.record chunk := by
  rcases recorded : session.record chunk state.clock.now.1 with ⟨_ | sample, later⟩ <;>
    simp [Sending.record, Surroundings.tell, surroundings, recorded]

/-- What a sender makes of a transfer. -/
def concludePayload (path : Path) (course : Transfer.Course Sending) :
    Sending × Option TransferError :=
  let state := { course.world with session := course.session }
  match course.halt? with
  | none =>
      match state.outbound.flush with
      | some error => state.disconnect error
      | none => (state, none)
  | some .ended =>
      (state, some (.file (.shrunk path state.session.declared state.session.transferred)))
  | some (.failed error) => (state, some (.file (.unreadable path error)))
  | some (.unwritten _ error) => state.disconnect error

/-- One round of sending is one round of a transfer. -/
theorem sendPayload_eq_turn (path : Path) (bufferSize : Nat) (session : Session)
    (state : Sending) :
    sendPayload path bufferSize { state with session } =
      if session.isComplete then concludePayload path ⟨[], session, state, none⟩
      else
        match surroundings.turn state (session.nextChunkLength bufferSize) with
        | (.halted halt, later) => concludePayload path ⟨[], session, later, some halt⟩
        | (.moved chunk now, later) =>
            let noted := session.record chunk now
            sendPayload path bufferSize
              { surroundings.tell later noted with session := noted.2 } := by
  rw [sendPayload_eq, turn_surroundings]
  refine ite_congr rfl (fun _ => rfl) fun _ => ?_
  rcases read : state.source.read (session.nextChunkLength bufferSize) with
    error | ⟨chunk, source⟩
  · rfl
  · by_cases empty : chunk = []
    · simp only [if_pos empty]
      rfl
    · simp only [if_neg empty]
      rcases written : state.outbound.writeAll chunk with ⟨outbound, _ | error⟩
      · have told := tell_surroundings { state with outbound, source } session chunk
        exact congrArg (sendPayload path bufferSize) told.symm
      · rfl

/-- Sending a payload is a transfer. -/
theorem sendPayload_eq_run (path : Path) (bufferSize : Nat) (session : Session)
    (state : Sending) :
    sendPayload path bufferSize { state with session } =
      concludePayload path (run surroundings bufferSize session state) := by
  fun_induction run surroundings bufferSize session state with
  | case1 session state complete => rw [sendPayload_eq_turn, if_pos complete]
  | case2 session state incomplete wanted halt later given =>
      rw [sendPayload_eq_turn, if_neg incomplete, given]
      rfl
  | case3 session state incomplete wanted chunk now later given noted induction =>
      rw [sendPayload_eq_turn, if_neg incomplete, given]
      exact induction

end Sender

namespace Transfer

/--
Whatever they read from and write to, transfers of a declared size are steady, and receiving a
payload is such a transfer, as is sending one once the header has been written.
-/
theorem payloads_steady (config : Config) (sequence : Nat) (declared : UInt64)
    (interval : Duration) (start : Instant) :
    let bufferSize := config.effectiveBufferSize
    let session := Session.start sequence declared.toNat interval start
    (∀ (World : Type) (around : Surroundings World) (world : World),
      Steady around bufferSize session declared (run around bufferSize session world)) ∧
    (∀ state : Receiver.Receiving,
      Receiver.receivePayload bufferSize { state with session } =
        Receiver.concludePayload (run Receiver.surroundings bufferSize session state)) ∧
    ∀ (path : Path) (header : Bytes) (state : Sender.Sending),
      Sender.sendFrame path bufferSize header { state with session } =
        match state.outbound.writeAll header with
        | (outbound, some error) => { state with outbound, session }.disconnect error
        | (outbound, none) =>
            Sender.concludePayload path
              (run Sender.surroundings bufferSize session { state with outbound }) := by
  intro bufferSize session
  refine ⟨fun World around world => ?_, fun state => ?_, fun path header state => ?_⟩
  · exact steady_run around bufferSize session world
      (.start sequence declared.toNat interval start) config.effectiveBufferSize_pos
  · exact Receiver.receivePayload_eq_run bufferSize session state
  · rw [Sender.sendFrame]
    rcases written : state.outbound.writeAll header with ⟨outbound, _ | error⟩
    · exact Sender.sendPayload_eq_run path bufferSize session { state with outbound }
    · rfl

end Transfer

end FilePush
