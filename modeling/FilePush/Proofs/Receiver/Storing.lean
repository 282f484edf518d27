import FilePush.Proofs.Receiver.LongPath
import FilePush.Proofs.Receiver.Persisting
import Mathlib

/-!
# What a connection leaves in the uploads directory

A connection whose header arrives stores the payload bytes that arrive after it, up to the declared
size, under the name that the header tells, also if they are too few.  Nothing else in the directory
changes, and the outcome says whether the payload was complete.  This needs paths that can be looked
up: below a directory that is spelled too long for that nothing is stored.
-/

namespace FilePush

namespace Receiver

variable {config : Config} {directory : Location} {sequence : Nat} {connection : Connection}
  {tree : FileTree} {clock : Clock} {header : Header} {headerBytes payload : Bytes} {name : String}

/--
A connection whose header arrives stores the payload bytes that arrive, up to the declared size,
takes no other bytes, and is answered by whether they are as many as declared.  If the unfinished
file cannot even be looked up, it fails, and nothing is stored or sent.
-/
theorem serve_stores (encoded : header.encode = .ok headerBytes)
    (arrives : connection.inbound.delivered = headerBytes ++ payload)
    (within : header.filename.length ≤ config.maxFilenameLength)
    (accepted : Name.storage header.filename = .ok name)
    (exists_directory : tree.get? directory = some .directory)
    (plain : tree.get? (directory ++ [Utf8.encode (Name.staging sequence)]) = none ∨
      ∃ content,
        tree.get? (directory ++ [Utf8.encode (Name.staging sequence)]) = some (.file content))
    (short : (Utf8.encode name).length ≤ Path.componentLimit)
    (free : tree.get? (directory ++ [Utf8.encode name]) ≠ some .directory)
    (word : sequence < UInt64.size) :
    let served := serve config directory sequence connection tree clock
    let size := header.fileSize.toNat
    let stored := payload.take size
    ((entryPath config (Name.staging sequence)).problem? = none →
      (entryPath config name).problem? = none →
        (∀ place, served.tree.get? place =
          if place = directory ++ [Utf8.encode name] then some (.file stored)
          else if place = directory ++ [Utf8.encode (Name.staging sequence)] then none
          else tree.get? place) ∧
        connection.inbound.unread =
          headerBytes.length + stored.length + served.connection.inbound.unread ∧
        (stored.length = size ∧ served.outcome = .success ∧
            Answered connection.outbound served.connection.outbound
              (Utf8.encode "all right" ++ [0]) ∨
          stored.length < size ∧ connection.inbound.ending = .ended ∧
            served.outcome = .sizeMismatch ∧
            Answered connection.outbound served.connection.outbound
              (Utf8.encode "all bad" ++ [0]) ∨
          stored.length < size ∧ (∃ error, connection.inbound.ending = .failed error) ∧
            served.outcome = .connectionError ∧
            served.connection.outbound = connection.outbound)) ∧
    ((entryPath config (Name.staging sequence)).problem? ≠ none →
      served.outcome = .ioError ∧ served.tree = tree ∧
        served.connection.outbound = connection.outbound) := by
  refine ⟨fun staging_reachable name_reachable => ?_,
    serve_of_unreachable directory tree clock encoded arrives within accepted⟩
  obtain ⟨created, creates, created_get⟩ :=
    createStaging_of_plain exists_directory plain word staging_reachable
  obtain ⟨rest, journal, consumed, goes⟩ :=
    serve_eq_receive clock encoded arrives within accepted creates
  have left : rest.delivered = payload :=
    (List.append_cancel_left (arrives.symm.trans consumed.delivered)).symm
  have space := (created_get _).trans (if_pos rfl)
  have apart := entry_ne_staging directory accepted sequence
  have still_free := ((created_get _).trans (if_neg apart)).trans_ne free
  obtain ⟨after, persists, after_get⟩ :=
    persisted_of_free config { connection with inbound := rest } clock header.fileSize.toNat
      journal space short still_free name_reachable
  have outcome :=
    outcome_of_persisted config { connection with inbound := rest } clock header.fileSize.toNat
      journal space (congrArg Prod.snd persists)
  have unread :=
    (ended_spec config { connection with inbound := rest } clock header.fileSize.toNat journal
      space).1.unread
  simp only [left, consumed.ending] at after_get outcome unread
  rw [goes]
  let served := receive config directory (Name.staging sequence) name header.fileSize.toNat sequence
    { connection with inbound := rest } created clock journal
  have stored_length : (payload.take header.fileSize.toNat).length =
      min header.fileSize.toNat payload.length := List.length_take
  refine ⟨fun place => ?_, ?_, ?_⟩
  · rw [show served.tree = after from congrArg Prod.fst persists, after_get, created_get]
    by_cases source : place = directory ++ [Utf8.encode (Name.staging sequence)]
    · simp only [if_pos source]
    · simp only [if_neg source]
  · rw [consumed.unread, Nat.add_assoc]
    exact congrArg _ unread
  · by_cases complete : header.fileSize.toNat ≤ payload.length
    · have success : served.outcome = .success := outcome.trans (if_pos complete)
      exact .inl ⟨by omega, success, answered_receive success (by decide)⟩
    · have missing : (payload.take header.fileSize.toNat).length < header.fileSize.toNat := by omega
      have lost := outcome.trans (if_neg complete)
      cases ending : connection.inbound.ending with
      | full => exact absurd ending connection.inbound.ending_ne_full
      | ended =>
          have mismatch : served.outcome = .sizeMismatch := lost.trans (if_pos ending)
          exact .inr (.inl ⟨missing, rfl, mismatch, answered_receive mismatch (by decide)⟩)
      | failed error =>
          have failed : served.outcome = .connectionError :=
            lost.trans (if_neg (by simp [ending]))
          refine .inr (.inr ⟨missing, ⟨error, rfl⟩, failed, ?_⟩)
          exact (outbound_answer _ _ _ _).trans (if_pos failed)

theorem serve_stores_front_of_payload :
    let uploads := Utf8.encode Config.defaultUploadsDirectory
    let pieces : List Arrival :=
      [.bytes [0, 1], .pause, .bytes [97, 0, 0, 0, 0, 0, 0, 0, 2, 120], .bytes [121, 122]]
    let served := serve .standard [uploads] 0 ⟨⟨pieces⟩, .reliable⟩ ⟨[([uploads], .directory)]⟩
      (.ofReadings fun _ => 0)
    served.tree.get? [uploads, Utf8.encode "a"] = some (.file [120, 121]) ∧
      served.connection.inbound.unread = 1 ∧ served.outcome = .success := by
  intro uploads pieces served
  obtain ⟨after, unread, outcome⟩ :=
    (@serve_stores .standard [uploads] 0 ⟨⟨pieces⟩, .reliable⟩ ⟨[([uploads], .directory)]⟩
      (.ofReadings fun _ => 0) ⟨[97], 2⟩ [0, 1, 97, 0, 0, 0, 0, 0, 0, 0, 2] [120, 121, 122] "a" rfl
      (by decide) (by decide) (by cbv) (by decide) (.inl (by decide)) (by decide) (by decide)
      (by decide)).1 (by decide) (by decide)
  refine ⟨(after _).trans (if_pos rfl), ?_, ?_⟩
  · have all : (⟨pieces⟩ : Inbound).unread = 14 := by decide
    have taken : 14 = 11 + 2 + served.connection.inbound.unread := all.symm.trans unread
    omega
  · rcases outcome with ⟨-, success, -⟩ | ⟨missing, -⟩ | ⟨missing, -⟩
    · exact success
    · exact absurd missing (by decide)
    · exact absurd missing (by decide)

/-- A complete upload fails if the uploads directory is spelled with so many slashes. -/
theorem serve_below_long_path :
    let config : Config := .withUploadsDirectory .standard (slashed 4090)
    let tree : FileTree := ⟨[([[0x78]], .directory)]⟩
    let connection : Connection :=
      ⟨⟨[.bytes [0, 1, 97, 0, 0, 0, 0, 0, 0, 0, 1, 120]]⟩, .reliable⟩
    let served := serve config [[0x78]] 0 connection tree (.ofReadings fun _ => 0)
    makeUploadsDirectory tree [] config.uploadsDirectory = (tree, .ok [[0x78]]) ∧
      (⟨[97], 1⟩ : Header).encode = .ok [0, 1, 97, 0, 0, 0, 0, 0, 0, 0, 1] ∧
      connection.inbound.delivered = [0, 1, 97, 0, 0, 0, 0, 0, 0, 0, 1] ++ [120] ∧
      Name.storage [97] = .ok "a" ∧
      tree.get? [[0x78]] = some .directory ∧
      tree.get? [[0x78], Utf8.encode (Name.staging 0)] = none ∧
      tree.get? [[0x78], Utf8.encode "a"] = none ∧
      served.outcome = .ioError ∧
      served.tree.get? [[0x78], Utf8.encode "a"] = none ∧
      served.connection.outbound.written = [] := by
  intro config tree connection served
  have arrives : connection.inbound.delivered = [0, 1, 97, 0, 0, 0, 0, 0, 0, 0, 1] ++ [120] := by
    decide
  have accepted : Name.storage [97] = .ok "a" := by cbv
  have unreachable : (entryPath config (Name.staging 0)).problem? ≠ none := by
    refine problem?_join_of_long (by decide) ?_
    rw [show config.uploadsDirectory = slashed 4090 from rfl, length_slashed]
    decide
  obtain ⟨outcome, unchanged, unanswered⟩ :=
    serve_of_unreachable [[0x78]] tree (.ofReadings fun _ => 0)
      (show (⟨[97], 1⟩ : Header).encode = _ from rfl) arrives (by decide) accepted unreachable
  refine ⟨makeUploadsDirectory_slashed (by decide), rfl, arrives, accepted, by decide, by decide,
    by decide, outcome, ?_, ?_⟩
  · rw [unchanged]
    decide
  · rw [unanswered]
    rfl

end Receiver

end FilePush
