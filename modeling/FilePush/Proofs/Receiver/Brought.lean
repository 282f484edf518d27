import FilePush.Proofs.Receiver.Answering

/-!
# The files that connections bring

A connection brings at most one file, to be stored under one name.  When its payload has ended, the
unfinished file holds what the connection brought.  Where the device of the unfinished file has no
space, that device stands in for the file.
-/

namespace FilePush

namespace Receiver

/-- The header of a connection arrives, its name is accepted, and so much of the payload follows. -/
def Brings (config : Config) (connection : Connection) (name : String) (content : Bytes) : Prop :=
  ∃ header headerBytes payload, Header.encode header = .ok headerBytes ∧
    header.filename.length ≤ config.maxFilenameLength ∧
    connection.inbound.delivered = headerBytes ++ payload ∧
    Name.storage header.filename = .ok name ∧ content = payload.take header.fileSize.toNat

variable {config : Config} {directory : Location} {sequence : Nat} {connection : Connection}
  {tree created : FileTree} {clock : Clock} {name : String} {size : Nat} {journal : Journal}

/-- A connection brings one file only. -/
theorem Brings.unique {left right : String} {leftContent rightContent : Bytes}
    (first : Brings config connection left leftContent)
    (second : Brings config connection right rightContent) :
    left = right ∧ leftContent = rightContent := by
  obtain ⟨header, headerBytes, payload, encoded, -, arrives, accepted, rfl⟩ := first
  obtain ⟨other, otherBytes, otherPayload, other_encoded, -, other_arrives, other_accepted, rfl⟩ :=
    second
  obtain ⟨rfl, rfl⟩ :=
    Header.encode_append_injective encoded other_encoded (arrives.symm.trans other_arrives)
  exact ⟨Except.ok.inj (accepted.symm.trans other_accepted), rfl⟩

theorem brings_of_read {header : Header} {rest : Inbound}
    (read : Header.readFrom connection.inbound config.maxFilenameLength = (.ok header, rest))
    (accepted : Name.storage header.filename = .ok name) :
    Brings config connection name (rest.delivered.take header.fileSize.toNat) := by
  obtain ⟨headerBytes, encoded, within, consumed⟩ := Header.readFrom_eq_ok read
  exact ⟨header, headerBytes, _, encoded, within, consumed.delivered, accepted, rfl⟩

/-- What a receiver has in the unfinished file when the payload has ended; nothing else changed. -/
theorem get?_ended (config : Config) (connection : Connection) (clock : Clock) (size : Nat)
    (journal : Journal)
    (creates : createStaging config directory (Name.staging sequence) tree = .ok created)
    (place : Location) :
    (ended config directory (Name.staging sequence) size sequence connection created clock
        journal).1.tree.get? place =
      if place = directory ++ [Utf8.encode (Name.staging sequence)] then
        if tree.get? (directory ++ [Utf8.encode (Name.staging sequence)]) = some .full then
          some .full
        else some (.file (connection.inbound.delivered.take size))
      else created.get? place := by
  have stands := get?_createStaging creates
  split at stands
  · next full =>
      rw [ended, tree_receivePayload_of_full stands, if_pos full]
      split
      · next here => exact here ▸ stands
      · rfl
  · next space =>
      obtain ⟨received, -⟩ := ended_spec config connection clock size journal stands
      rw [received.tree, if_neg space]
      split
      · next here =>
          rw [here]
          exact FileTree.get?_append_self stands
      · next elsewhere => exact FileTree.get?_append_of_ne elsewhere

/-- A transfer ends by the number of bytes received only if the file received its name. -/
theorem persisted_of_counted {session : Session} {failure : Option Outcome}
    {persisted : Except FileError Unit} (lost : ∀ outcome, failure = some outcome →
      outcome = .connectionError ∨ outcome = .ioError)
    (counted : (settle session failure persisted).outcome = .success ∨
      (settle session failure persisted).outcome = .sizeMismatch) :
    persisted = .ok () := by
  cases persisted with
  | ok => rfl
  | error error =>
      cases failure with
      | none => simp [settle, Session.fail] at counted
      | some outcome =>
          rcases lost outcome rfl with rfl | rfl
          · simp [settle, Session.fail] at counted
          · simp [settle, Session.fail] at counted

end Receiver

end FilePush
