import FilePush.Proofs.Receiver.Accounting
import FilePush.Proofs.Receiver.Staged

/-!
# Answers are truthful

A transfer succeeds exactly if all of the declared bytes were obtained, no operation on the unfinished
file reported a failure, and the file was given its name.  The answer follows the outcome: nothing but
a beginning of the one token is sent after a success, nothing but a beginning of the other after a
failure that is answered, and nothing at all where no payload was received or the connection failed.
-/

namespace FilePush

namespace Receiver

variable {config : Config} {directory : Location} {sequence : Nat} {connection : Connection}
  {tree : FileTree}

namespace Staged

variable (staged : Staged config directory sequence connection tree) (clock : Clock)

include staged

/-- The bytes that were counted are the ones that were taken, unless a write reports a failure. -/
theorem transferred_after (quiet : (staged.ended clock).2 ≠ some .ioError) :
    staged.rest.unread =
      (staged.after clock).session.transferred + (staged.after clock).inbound.unread := by
  have counted := unread_receivePayload quiet
  have nothing : (staged.before clock).session.transferred = 0 := rfl
  rw [nothing, Nat.add_zero] at counted
  exact counted.trans (Nat.add_comm _ _)

theorem isComplete_after_iff :
    (staged.after clock).session.isComplete ↔
      (staged.after clock).session.transferred = staged.size := by
  have declared : (staged.after clock).session.declared = staged.size := declared_receivePayload
  simp only [Session.isComplete, declared, decide_eq_true_eq]

/-- A transfer succeeds if the payload is complete, nothing failed and the file has its name. -/
theorem outcome_eq_success_iff :
    (serve config directory sequence connection tree clock).outcome = .success ↔
      (staged.ended clock).2 = none ∧ (staged.persisted clock).2 = .ok () ∧
        (staged.after clock).session.isComplete := by
  rw [staged.outcome_serve]
  constructor
  · exact settle_eq_success fun _ failure => receivePayload_failure failure
  · rintro ⟨quiet, named, complete⟩
    simp only [quiet, named, settle, Session.finish, complete, if_true]

/--
A transfer succeeds exactly if as many bytes as declared were taken from the stream, no write and not
the wait for the file reported a failure, and the file was given its name.
-/
theorem succeeds_iff :
    (serve config directory sequence connection tree clock).outcome = .success ↔
      staged.rest.unread = staged.size + (staged.after clock).inbound.unread ∧
        (∀ chunk error,
          ¬Writes config.effectiveBufferSize (staged.before clock) chunk (some error)) ∧
        (staged.after clock).file.flush.2 = none ∧
        ∃ left, staged.published clock = .ok left := by
  have unreported : (∀ chunk error,
      ¬Writes config.effectiveBufferSize (staged.before clock) chunk (some error)) ↔
      (staged.ended clock).2 ≠ some .ioError := by
    rw [Ne, ended, receivePayload_eq_ioError_iff]
    push Not
    rfl
  rw [staged.outcome_eq_success_iff clock, isComplete_after_iff, unreported]
  constructor
  · rintro ⟨quiet, named, complete⟩
    have counted := staged.transferred_after clock (by simp [quiet])
    rw [complete] at counted
    rcases staged.persisted_cases clock with ⟨flushed, left, publishes, -⟩ | ⟨-, error, kept⟩
    · exact ⟨counted, by simp [quiet], flushed, left, publishes⟩
    · simp [kept] at named
  · rintro ⟨taken, quiet, flushed, left, publishes⟩
    have counted := staged.transferred_after clock quiet
    have complete : (staged.after clock).session.transferred = staged.size := by omega
    refine ⟨?_, ?_, complete⟩
    · cases failure : (staged.ended clock).2 with
      | none => rfl
      | some outcome =>
          rcases receivePayload_failure failure with rfl | rfl
          · have missing := isComplete_of_connectionError failure
            exact absurd ((staged.isComplete_after_iff clock).mpr complete) missing
          · exact absurd failure quiet
    · rcases staged.persisted_cases clock with ⟨-, left, -, named⟩ | ⟨failed, -⟩
      · rw [named]
      · rcases failed with unflushed | ⟨error, unpublished⟩
        · exact absurd flushed unflushed
        · simp [publishes] at unpublished

/-- A transfer that succeeds has stored all of the declared bytes, or a full device that took none. -/
theorem stored_of_success
    (success : (serve config directory sequence connection tree clock).outcome = .success) :
    staged.payload.length = staged.size ∧
      ((serve config directory sequence connection tree clock).tree.get? staged.destination =
          some (.file staged.payload) ∨
        staged.size = 0 ∧ tree.get? staged.unfinished = some .full ∧
          (serve config directory sequence connection tree clock).tree.get? staged.destination =
            some .full ∧
          (serve config directory sequence connection tree clock).tree.get? staged.unfinished =
            none) := by
  obtain ⟨-, named, -⟩ := (staged.outcome_eq_success_iff clock).mp success
  rw [staged.serve_eq clock] at success
  obtain ⟨arrived, entry⟩ := Receiver.stored_of_success staged.creates success
  refine ⟨List.length_take_of_le arrived, ?_⟩
  by_cases usable : 0 < staged.size ∨ tree.get? staged.unfinished ≠ some .full
  · rw [staged.serve_eq clock]
    exact .inl (entry usable)
  · simp only [not_or, Nat.not_lt, Nat.le_zero, not_not] at usable
    obtain ⟨nothing, full⟩ := usable
    rcases staged.persisted_cases clock with ⟨-, left, publishes, moved⟩ | ⟨-, error, kept⟩
    · rw [staged.tree_serve, moved, staged.get?_published clock publishes,
        staged.get?_published clock publishes, if_pos rfl,
        if_neg staged.destination_ne_unfinished.symm, if_pos rfl, stored, if_pos full]
      exact .inr ⟨nothing, full, rfl, rfl⟩
    · simp [kept] at named

/-- What is sent when a payload was received and the connection did not fail. -/
theorem answered_serve {outcome : Outcome}
    (ends : (serve config directory sequence connection tree clock).outcome = outcome)
    (kept : outcome ≠ .connectionError) :
    Answered connection.outbound
      (serve config directory sequence connection tree clock).connection.outbound
      (Ack.ofSuccess outcome.isSuccess).toBytes := by
  rw [staged.serve_eq clock] at ends ⊢
  exact answered_receive ends kept

end Staged

/--
A transfer succeeds exactly if a payload was received of which as many bytes as declared were taken,
no operation on the unfinished file reported a failure and the file was given its name.  Then the file
holds those bytes.  What is sent is a beginning of the token that tells the outcome; nothing is sent if
no unfinished file was created or the connection failed.
-/
theorem serve_truthful (config : Config) (directory : Location) (sequence : Nat)
    (connection : Connection) (tree : FileTree) (clock : Clock) :
    let served := serve config directory sequence connection tree clock
    (served.outcome = .success ↔
      ∃ staged : Staged config directory sequence connection tree,
        staged.rest.unread = staged.size + served.connection.inbound.unread ∧
        (∀ chunk error,
          ¬Writes config.effectiveBufferSize (staged.before clock) chunk (some error)) ∧
        (staged.after clock).file.flush.2 = none ∧
        ∃ left, staged.published clock = .ok left) ∧
    (served.outcome = .success →
      ∀ staged : Staged config directory sequence connection tree,
        staged.payload.length = staged.size ∧
        (served.tree.get? staged.destination = some (.file staged.payload) ∨
          staged.size = 0 ∧ tree.get? staged.unfinished = some .full ∧
            served.tree.get? staged.destination = some .full ∧
            served.tree.get? staged.unfinished = none) ∧
        Answered connection.outbound served.connection.outbound (Utf8.encode "all right" ++ [0])) ∧
    (served.outcome = .connectionError → served.connection.outbound = connection.outbound) ∧
    (∀ (header : Header) (rest : Inbound) (name : String) (error : IoError),
      Header.readFrom connection.inbound config.maxFilenameLength = (.ok header, rest) →
        Name.storage header.filename = .ok name →
        createStaging config directory (Name.staging sequence) tree = .error error →
          served.outcome = .ioError ∧ served.connection.outbound = connection.outbound) ∧
    (served.outcome = .sizeMismatch ∨
        served.outcome = .ioError ∧ Nonempty (Staged config directory sequence connection tree) →
      Answered connection.outbound served.connection.outbound (Utf8.encode "all bad" ++ [0])) ∧
    (served.outcome = .success ∨ served.outcome = .sizeMismatch ∨ served.outcome = .ioError ∨
      served.outcome = .connectionError) := by
  intro served
  rcases staged_or_unstaged config directory sequence connection tree with ⟨⟨staged⟩⟩ | unstaged
  · refine ⟨⟨fun success => ?_, ?_⟩, fun success other => ?_, fun lost => ?_,
      fun _ _ _ _ => serve_notCreated clock, fun failed => ?_, staged.outcome_serve_cases clock⟩
    · rw [show served.connection.inbound = _ from staged.inbound_serve clock]
      exact ⟨staged, (staged.succeeds_iff clock).mp success⟩
    · rintro ⟨other, events⟩
      rw [show served.connection.inbound = _ from other.inbound_serve clock] at events
      exact (other.succeeds_iff clock).mpr events
    · obtain ⟨complete, stored⟩ := other.stored_of_success clock success
      exact ⟨complete, stored, staged.answered_serve clock success (by decide)⟩
    · exact (staged.outbound_serve clock).trans (if_pos lost)
    · rcases failed with mismatch | ⟨failed, -⟩
      · exact staged.answered_serve clock mismatch (by decide)
      · exact staged.answered_serve clock failed (by decide)
  · obtain ⟨-, unanswered, outcome⟩ := unstaged.serve clock
    have ends : served.outcome = .connectionError ∨ served.outcome = .ioError := outcome
    refine ⟨⟨fun success => ?_, fun ⟨staged, _⟩ => (unstaged.not_staged staged).elim⟩,
      fun _ staged => (unstaged.not_staged staged).elim, fun _ => unanswered,
      fun _ _ _ _ => serve_notCreated clock, fun failed => ?_, ?_⟩
    · simp [success] at ends
    · rcases failed with mismatch | ⟨-, ⟨staged⟩⟩
      · simp [mismatch] at ends
      · exact (unstaged.not_staged staged).elim
    · rcases ends with lost | failed
      · exact .inr (.inr (.inr lost))
      · exact .inr (.inr (.inl failed))

end Receiver

end FilePush
