import FilePush.Proofs.Receiver.Persisting

/-!
# What an answer promises

A transfer succeeds only if all of the declared bytes arrived, and then they are stored, unless the
device of the unfinished file was full and nothing was declared.  The answer tells success if and
only if the transfer succeeded.
-/

namespace FilePush

namespace Receiver

section Receive

variable {config : Config} {directory : Location} {sequence : Nat} {connection : Connection}
  {tree created : FileTree} {clock : Clock} {name : String} {size : Nat} {journal : Journal}

theorem settle_eq_success {session : Session} {failure : Option Outcome}
    {persisted : Except FileError Unit} (lost : ∀ outcome, failure = some outcome →
      outcome = .connectionError ∨ outcome = .ioError)
    (success : (settle session failure persisted).outcome = .success) :
    failure = none ∧ persisted = .ok () ∧ session.isComplete := by
  cases failure with
  | some outcome =>
      have same : outcome = .success := success
      rcases lost outcome rfl with other | other
      · simp [same] at other
      · simp [same] at other
  | none =>
      cases persisted with
      | error error => simp [settle, Session.fail] at success
      | ok =>
          refine ⟨rfl, rfl, ?_⟩
          simp only [settle, Session.finish] at success
          split at success
          · assumption
          · simp at success

/-- An unfinished file that was created is empty, or its device is full. -/
theorem get?_createStaging (creates :
      createStaging config directory (Name.staging sequence) tree = .ok created) :
    created.get? (directory ++ [Utf8.encode (Name.staging sequence)]) =
      if tree.get? (directory ++ [Utf8.encode (Name.staging sequence)]) = some .full
      then some .full else some (.file []) := by
  rw [FileTree.get?_create (createStaging_eq_ok creates).2]
  split
  · next empty => rw [if_neg empty.2]
  · next full =>
      simp only [true_and, not_not] at full
      rw [if_pos full, full]

/-- A transfer that succeeds has stored all of the declared bytes. -/
theorem stored_of_success
    (creates : createStaging config directory (Name.staging sequence) tree = .ok created)
    (success : (receive config directory (Name.staging sequence) name size sequence connection
      created clock journal).outcome = .success) :
    size ≤ connection.inbound.delivered.length ∧
      (0 < size ∨
          tree.get? (directory ++ [Utf8.encode (Name.staging sequence)]) ≠ some .full →
        (receive config directory (Name.staging sequence) name size sequence connection created
          clock journal).tree.get? (directory ++ [Utf8.encode name]) =
            some (.file (connection.inbound.delivered.take size))) := by
  rw [outcome_receive] at success
  obtain ⟨quiet, persists, complete⟩ :=
    settle_eq_success (fun _ failure => receivePayload_failure failure) success
  obtain ⟨flushed, renames⟩ := persist_eq_ok (Prod.ext rfl persists)
  have place := get?_createStaging creates
  split at place
  · next full =>
      have unchanged := receivePayload_of_full rfl place quiet flushed
      have nothing : 0 = size := by
        rw [show (ended config directory (Name.staging sequence) size sequence connection created
          clock journal).1.session = _ from unchanged] at complete
        exact of_decide_eq_true complete
      refine ⟨by omega, fun usable => ?_⟩
      rcases usable with some_declared | space
      · omega
      · exact absurd full space
  · obtain ⟨received, -⟩ := ended_spec config connection clock size journal place
    have transferred := received.transferred
    have declared := received.declared
    simp only [Session.isComplete, decide_eq_true_eq] at complete
    rw [complete, declared] at transferred
    have all : size = 0 + (connection.inbound.delivered.take size).length := transferred
    rw [List.length_take] at all
    refine ⟨by omega, fun _ => ?_⟩
    rw [tree_receive, persisted, FileTree.get?_rename renames, if_pos rfl, received.tree]
    exact FileTree.get?_append_self place

/-- The four ways in which receiving a payload ends. -/
theorem outcome_receive_cases (config : Config) (directory : Location) (staging name : String)
    (size sequence : Nat) (connection : Connection) (tree : FileTree) (clock : Clock)
    (journal : Journal) :
    let served :=
      receive config directory staging name size sequence connection tree clock journal
    served.outcome = .success ∨ served.outcome = .sizeMismatch ∨ served.outcome = .ioError ∨
      served.outcome = .connectionError := by
  simp only [outcome_receive]
  cases failure :
      (ended config directory staging size sequence connection tree clock journal).2 with
  | some outcome =>
      rcases receivePayload_failure failure with rfl | rfl
      · exact .inr (.inr (.inr rfl))
      · exact .inr (.inr (.inl rfl))
  | none =>
      cases (persisted config directory staging name size sequence connection tree clock
          journal).2 with
      | error error => exact .inr (.inr (.inl rfl))
      | ok =>
          simp only [settle, Session.finish]
          split
          · exact .inl rfl
          · exact .inr (.inl rfl)

end Receive

variable {config : Config} {directory : Location} {sequence : Nat} {connection : Connection}
  {tree : FileTree} {clock : Clock}

/-- A transfer succeeds only if a frame arrives whole, and then its payload is stored. -/
theorem frame_of_success
    (success : (serve config directory sequence connection tree clock).outcome = .success) :
    ∃ header headerBytes payload name, Header.encode header = .ok headerBytes ∧
      connection.inbound.delivered = headerBytes ++ payload ∧
      Name.storage header.filename = .ok name ∧ header.fileSize.toNat ≤ payload.length ∧
      (0 < header.fileSize.toNat ∨
          tree.get? (directory ++ [Utf8.encode (Name.staging sequence)]) ≠ some .full →
        (serve config directory sequence connection tree clock).tree.get?
            (directory ++ [Utf8.encode name]) =
          some (.file (payload.take header.fileSize.toNat))) := by
  cases serve_course config directory sequence connection tree clock with
  | headerFailed _ outcome => simp [outcome] at success
  | nameRefused _ _ outcome => simp [outcome] at success
  | notCreated _ _ _ outcome => simp [outcome] at success
  | received read accepted creates goes =>
      obtain ⟨headerBytes, encoded, -, consumed⟩ := Header.readFrom_eq_ok read
      rw [goes] at success ⊢
      obtain ⟨arrived, stored⟩ := stored_of_success creates success
      exact ⟨_, headerBytes, _, _, encoded, consumed.delivered, accepted, arrived, stored⟩

theorem ack_eq_success_iff (outcome : Outcome) :
    Ack.ofSuccess outcome.isSuccess = .success ↔ outcome = .success := by
  cases outcome <;> decide

/-- What a connection is answered, if anything. -/
theorem answer_of_outcome (config : Config) (directory : Location) (sequence : Nat)
    (connection : Connection) (tree : FileTree) (clock : Clock) :
    let served := serve config directory sequence connection tree clock
    served.connection.outbound.written = connection.outbound.written ∨
      ∃ ack taken, taken <+: Ack.toBytes ack ∧
        served.connection.outbound.written = connection.outbound.written ++ taken ∧
        (ack = .success → served.outcome = .success) ∧
        (ack = .failure → served.outcome = .sizeMismatch ∨ served.outcome = .ioError) := by
  intro served
  cases serve_course config directory sequence connection tree clock with
  | headerFailed _ _ _ left => exact .inl (by rw [show served.connection = _ from left])
  | nameRefused _ _ _ _ left => exact .inl (by rw [show served.connection = _ from left])
  | notCreated _ _ _ _ _ left => exact .inl (by rw [show served.connection = _ from left])
  | @received header rest name created journal read accepted creates goes =>
      have outcomes := outcome_receive_cases config directory (Name.staging sequence) name
        header.fileSize.toNat sequence { connection with inbound := rest } created clock journal
      simp only [← goes] at outcomes
      by_cases lost : served.outcome = .connectionError
      · rw [show served = _ from goes] at lost ⊢
        exact .inl (congrArg Outbound.written ((outbound_answer _ _ _ _).trans (if_pos lost)))
      · obtain ⟨taken, front, written, -⟩ :=
          answered_receive (congrArg Served.outcome goes).symm lost
        rw [← goes] at written
        refine .inr ⟨_, taken, front, written, (ack_eq_success_iff _).mp, fun failure => ?_⟩
        rcases outcomes with success | mismatch | failed | severed
        · rw [show served.outcome = _ from success] at failure
          cases failure
        · exact .inl mismatch
        · exact .inr failed
        · exact absurd severed lost

end Receiver

end FilePush
