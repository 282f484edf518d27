import FilePush.Proofs.Frame.Header
import FilePush.Proofs.Name.Staging
import FilePush.Proofs.Receiver.Course
import FilePush.Proofs.Receiver.Payload

/-!
# Naming the unfinished file

A receiver creates its unfinished file, fills it and gives it its name.  Here is what each of these
does to the uploads directory when it succeeds, and what the outcome of the transfer then is.
-/

namespace FilePush

namespace Receiver

/-- What a connection took of an answer: all of it, unless writing fails, and always a beginning. -/
def Answered (before after : Outbound) (answer : Bytes) : Prop :=
  ∃ taken, taken <+: answer ∧ after.written = before.written ++ taken ∧
    ((before.writeAll answer).2 = none → taken = answer)

theorem written_sendAck (outbound : Outbound) (ack : Ack) :
    (sendAck outbound ack).1.written = (outbound.writeAll ack.toBytes).1.written := by
  rw [sendAck]
  split
  · next sent => rw [sent]
  · next sent =>
      rw [sent]
      split
      · rfl
      · rw [Outbound.shutDown]
        split <;> rfl

theorem answered_sendAck (outbound : Outbound) (ack : Ack) :
    Answered outbound (sendAck outbound ack).1 ack.toBytes := by
  obtain ⟨taken, front, written, complete⟩ := outbound.written_writeAll ack.toBytes
  exact ⟨taken, front, (written_sendAck outbound ack).trans written, complete.mp⟩

/-- A connection is answered by the outcome, unless the outcome is that the connection failed. -/
theorem answered_receive {config : Config} {directory : Location} {staging name : String}
    {size sequence : Nat} {connection : Connection} {tree : FileTree} {clock : Clock}
    {journal : Journal} {outcome : Outcome}
    (ends : (receive config directory staging name size sequence connection tree clock
      journal).outcome = outcome)
    (kept : outcome ≠ .connectionError) :
    Answered connection.outbound
      (receive config directory staging name size sequence connection tree clock
        journal).connection.outbound
      (Ack.ofSuccess outcome.isSuccess).toBytes := by
  rw [← ends] at kept ⊢
  rw [outbound_receive, if_neg kept]
  exact answered_sendAck connection.outbound _

/-- Different names stand for different entries of a directory. -/
theorem entry_injective {directory : Location} {left right : String}
    (same : directory ++ [Utf8.encode left] = directory ++ [Utf8.encode right]) : left = right := by
  have bytes := List.singleton_inj.mp (List.append_cancel_left same)
  exact Utf8.encode_injective bytes

/-- The unfinished file of a connection stands where no received file does. -/
theorem entry_ne_staging_of_isStorable {name : String} (directory : Location)
    (storable : Name.isStorable name) (sequence : Nat) :
    directory ++ [Utf8.encode name] ≠ directory ++ [Utf8.encode (Name.staging sequence)] :=
  fun same => Name.ne_staging_of_isStorable storable sequence (entry_injective same)

theorem entry_ne_staging {received : Bytes} {name : String} (directory : Location)
    (accepted : Name.storage received = .ok name) (sequence : Nat) :
    directory ++ [Utf8.encode name] ≠ directory ++ [Utf8.encode (Name.staging sequence)] := by
  obtain ⟨-, -, -, storable⟩ := Name.storage_eq_ok_iff.mp accepted
  exact entry_ne_staging_of_isStorable directory storable sequence

section Receive

variable {config : Config} {directory : Location} {sequence : Nat} {connection : Connection}
  {tree created : FileTree} {clock : Clock} {header : Header} {headerBytes payload : Bytes}
  {name : String} {size : Nat} {journal : Journal}

theorem createStaging_eq_ok {staging : String}
    (creates : createStaging config directory staging tree = .ok created) :
    (entryPath config staging).problem? = none ∧
      tree.create directory (Utf8.encode staging) = .ok created := by
  rw [createStaging] at creates
  split at creates
  · simp at creates
  · next reachable => exact ⟨reachable, creates⟩

theorem createStaging_of_plain (exists_directory : tree.get? directory = some .directory)
    (plain : tree.get? (directory ++ [Utf8.encode (Name.staging sequence)]) = none ∨
      ∃ content,
        tree.get? (directory ++ [Utf8.encode (Name.staging sequence)]) = some (.file content))
    (word : sequence < UInt64.size)
    (reachable : (entryPath config (Name.staging sequence)).problem? = none) :
    ∃ created, createStaging config directory (Name.staging sequence) tree = .ok created ∧
      ∀ place, created.get? place =
        if place = directory ++ [Utf8.encode (Name.staging sequence)] then some (.file [])
        else tree.get? place := by
  have free : tree.get? (directory ++ [Utf8.encode (Name.staging sequence)]) ≠ some .directory := by
    rcases plain with absent | ⟨content, stands⟩
    · simp [absent]
    · simp [stands]
  have space : tree.get? (directory ++ [Utf8.encode (Name.staging sequence)]) ≠ some .full := by
    rcases plain with absent | ⟨content, stands⟩
    · simp [absent]
    · simp [stands]
  obtain ⟨created, creates⟩ :=
    FileTree.exists_create exists_directory (Name.length_encode_staging_le word) free
  refine ⟨created, by simp only [createStaging, reachable, creates], fun place => ?_⟩
  rw [FileTree.get?_create creates]
  by_cases here : place = directory ++ [Utf8.encode (Name.staging sequence)]
  · rw [if_pos ⟨here, here ▸ space⟩, if_pos here]
  · rw [if_neg fun both => here both.1, if_neg here]

/-- A connection whose header arrives and is accepted comes to its payload. -/
theorem serve_eq_receive (clock : Clock) (encoded : header.encode = .ok headerBytes)
    (arrives : connection.inbound.delivered = headerBytes ++ payload)
    (within : header.filename.length ≤ config.maxFilenameLength)
    (accepted : Name.storage header.filename = .ok name)
    (creates : createStaging config directory (Name.staging sequence) tree = .ok created) :
    ∃ rest journal, connection.inbound.Consumes rest headerBytes ∧
      serve config directory sequence connection tree clock =
        receive config directory (Name.staging sequence) name header.fileSize.toNat sequence
          { connection with inbound := rest } created clock journal := by
  obtain ⟨rest, reads⟩ := Header.readFrom_of_encode encoded within arrives
  obtain ⟨bytes, encoded', -, consumed⟩ := Header.readFrom_eq_ok reads
  rw [encoded] at encoded'
  cases encoded'
  cases serve_course config directory sequence connection tree clock with
  | headerFailed read => simp [reads] at read
  | nameRefused read refused =>
      simp only [reads, Prod.mk.injEq, Except.ok.injEq] at read
      simp [← read.1, accepted] at refused
  | notCreated _ _ failed => simp [creates] at failed
  | received read accepted' creates' goes =>
      simp only [reads, Prod.mk.injEq, Except.ok.injEq] at read
      obtain ⟨rfl, rfl⟩ := read
      rw [accepted] at accepted'
      rw [creates] at creates'
      cases accepted'
      cases creates'
      exact ⟨rest, _, consumed, goes⟩

section Explicit

variable (config size connection clock journal)

/-- A receiver with space receives the payload and loses the connection only if it fails before. -/
theorem ended_spec (space :
      created.get? (directory ++ [Utf8.encode (Name.staging sequence)]) = some (.file [])) :
    let before := begun config directory (Name.staging sequence) size sequence created clock journal
      connection.inbound
    let after := ended config directory (Name.staging sequence) size sequence connection created
      clock journal
    Received before after.1 (connection.inbound.delivered.take size) ∧
      after.2 =
        if size ≤ connection.inbound.delivered.length then none
        else lossOf connection.inbound.ending :=
  receivePayload_spec config.effectiveBufferSize_pos _
    (Nat.zero_le _) rfl (by simp [begun, OpenFile.opened, space])

end Explicit

theorem publish_eq_ok {staging : String} {published : FileTree}
    (publishes : publish config directory staging name tree = .ok published) :
    (entryPath config name).problem? = none ∧
      tree.rename directory (Utf8.encode staging) (Utf8.encode name) = .ok published := by
  rw [publish] at publishes
  split at publishes
  · simp at publishes
  · next reachable => exact ⟨reachable, publishes⟩

theorem persist_eq_ok {file : OpenFile} {left : FileTree}
    (given : persist config directory (Name.staging sequence) name file tree = (left, .ok ())) :
    file.unreported = none ∧
      tree.rename directory (Utf8.encode (Name.staging sequence)) (Utf8.encode name) =
        .ok left := by
  rw [persist] at given
  split at given
  · simp at given
  · next flushed =>
      refine ⟨by simpa [OpenFile.flush] using congrArg Prod.snd flushed, ?_⟩
      split at given
      · next published =>
          rw [(publish_eq_ok published).2]
          simpa using given
      · simp at given

/-- A file whose name is free receives it. -/
theorem persist_of_free {file : OpenFile} {node : Node} (clean : file.unreported = none)
    (stands : tree.get? (directory ++ [Utf8.encode (Name.staging sequence)]) = some node)
    (short : (Utf8.encode name).length ≤ Path.componentLimit)
    (free : tree.get? (directory ++ [Utf8.encode name]) ≠ some .directory)
    (reachable : (entryPath config name).problem? = none) :
    ∃ left, persist config directory (Name.staging sequence) name file tree = (left, .ok ()) ∧
      ∀ place, left.get? place =
        if place = directory ++ [Utf8.encode name] then some node
        else if place = directory ++ [Utf8.encode (Name.staging sequence)] then none
        else tree.get? place := by
  obtain ⟨left, renamed⟩ := FileTree.exists_rename stands short free
  refine ⟨left, by simp only [persist, OpenFile.flush, clean, publish, reachable, renamed], ?_⟩
  intro place
  rw [FileTree.get?_rename renamed, stands]

/-- A file whose name belongs to a directory, or cannot be looked up, keeps the name that it has. -/
theorem persist_of_obstructed {file : OpenFile} {node : Node} (clean : file.unreported = none)
    (stands : tree.get? (directory ++ [Utf8.encode (Name.staging sequence)]) = some node)
    (short : (Utf8.encode name).length ≤ Path.componentLimit)
    (obstructed : tree.get? (directory ++ [Utf8.encode name]) = some .directory ∨
      (entryPath config name).problem? ≠ none) :
    ∃ error, persist config directory (Name.staging sequence) name file tree =
      (tree, .error error) := by
  cases reachable : (entryPath config name).problem? with
  | some problem =>
      exact ⟨_, by simp only [persist, OpenFile.flush, clean, publish, reachable]; rfl⟩
  | none =>
      have taken := obstructed.resolve_right (not_not.mpr reachable)
      refine ⟨.write (entryPath config name) .isADirectory, ?_⟩
      simp only [persist, OpenFile.flush, clean, publish, reachable, FileTree.rename, stands,
        if_neg (Nat.not_lt.mpr short), taken]

section Explicit

variable (config size connection clock journal)

/-- A payload is stored under a free name, and the unfinished file is gone. -/
theorem persisted_of_free
    (space : created.get? (directory ++ [Utf8.encode (Name.staging sequence)]) = some (.file []))
    (short : (Utf8.encode name).length ≤ Path.componentLimit)
    (free : created.get? (directory ++ [Utf8.encode name]) ≠ some .directory)
    (reachable : (entryPath config name).problem? = none) :
    ∃ left, persisted config directory (Name.staging sequence) name size sequence connection
        created clock journal = (left, .ok ()) ∧
      ∀ place, left.get? place =
        if place = directory ++ [Utf8.encode name] then
          some (.file (connection.inbound.delivered.take size))
        else if place = directory ++ [Utf8.encode (Name.staging sequence)] then none
        else created.get? place := by
  obtain ⟨received, -⟩ := ended_spec config connection clock size journal space
  have clean := congrArg OpenFile.unreported received.file
  have stands := (received.tree (directory ++ [Utf8.encode (Name.staging sequence)])).trans
    (FileTree.get?_append_self space)
  rw [List.nil_append] at stands
  have still_free := (received.tree (directory ++ [Utf8.encode name])).trans_ne
    (mt (FileTree.get?_append_eq_iff (by simp)).mp free)
  obtain ⟨left, persists, after⟩ := persist_of_free clean stands short still_free reachable
  refine ⟨left, persists, fun place => ?_⟩
  rw [after]
  by_cases target : place = directory ++ [Utf8.encode name]
  · rw [if_pos target, if_pos target]
  · by_cases source : place = directory ++ [Utf8.encode (Name.staging sequence)]
    · rw [if_neg target, if_neg target, if_pos source, if_pos source]
    · rw [if_neg target, if_neg target, if_neg source, if_neg source, received.tree]
      exact FileTree.get?_append_of_ne source

theorem outcome_of_persisted
    (space : created.get? (directory ++ [Utf8.encode (Name.staging sequence)]) = some (.file []))
    (stored : (persisted config directory (Name.staging sequence) name size sequence connection
      created clock journal).2 = .ok ()) :
    (receive config directory (Name.staging sequence) name size sequence connection created clock
        journal).outcome =
      if size ≤ connection.inbound.delivered.length then .success
      else if connection.inbound.ending = .ended then .sizeMismatch
      else .connectionError := by
  obtain ⟨received, failure⟩ := ended_spec config connection clock size journal space
  rw [outcome_receive, stored, failure]
  have declared := received.declared
  have transferred := received.transferred
  simp only [begun, Session.start, Session.transferred, Meter.startingAt, Nat.zero_add,
    List.length_take] at declared transferred
  by_cases complete : size ≤ connection.inbound.delivered.length
  · simp only [if_pos complete, settle, Session.finish, Session.isComplete, Session.transferred,
      declared, transferred, Nat.min_eq_left complete, decide_true, if_true]
  · rw [if_neg complete, if_neg complete]
    cases ending : connection.inbound.ending with
    | full => exact absurd ending connection.inbound.ending_ne_full
    | ended =>
        have missing : min size connection.inbound.delivered.length ≠ size := by omega
        simp [lossOf, settle, Session.finish, Session.isComplete, Session.transferred, declared,
          transferred, missing]
    | failed error => simp [lossOf, settle, Session.fail]

end Explicit

end Receive

end Receiver

end FilePush
