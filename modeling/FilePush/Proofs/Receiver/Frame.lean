import FilePush.Proofs.Receiver.Persisting

/-!
# What becomes of a frame

A receiver that is sent a frame and nothing else stores its payload under a free name, keeps it in
the unfinished file if the name belongs to a directory or cannot be looked up, and does nothing at
all if the name is not accepted.
-/

namespace FilePush

namespace Receiver

variable {config : Config} {directory : Location} {sequence : Nat} {connection : Connection}
  {tree : FileTree} {clock : Clock} {header : Header} {headerBytes content : Bytes} {name : String}

/-- A header that is read from a beginning of a frame is the header of the frame. -/
theorem header_of_read {read : Header} {rest : Inbound}
    (encoded : header.encode = .ok headerBytes)
    (arrives : connection.inbound.delivered <+: headerBytes ++ content)
    (reads : Header.readFrom connection.inbound config.maxFilenameLength = (.ok read, rest)) :
    read = header ∧ header.filename.length ≤ config.maxFilenameLength := by
  obtain ⟨bytes, read_encoded, within, consumed⟩ := Header.readFrom_eq_ok reads
  obtain ⟨missing, whole⟩ := arrives
  rw [consumed.delivered, List.append_assoc] at whole
  obtain ⟨rfl, -⟩ := Header.encode_append_injective read_encoded encoded whole
  exact ⟨rfl, within⟩

/-- A frame whose name is not accepted changes nothing and is not answered. -/
theorem serve_refused (encoded : header.encode = .ok headerBytes)
    (arrives : connection.inbound.delivered <+: headerBytes ++ content)
    (refuses : config.maxFilenameLength < header.filename.length ∨
      ∃ error, Name.storage header.filename = .error error) :
    (serve config directory sequence connection tree clock).tree = tree ∧
      (serve config directory sequence connection tree clock).connection.outbound =
        connection.outbound := by
  have unreadable {read : Header} {rest : Inbound} {name : String}
      (reads : Header.readFrom connection.inbound config.maxFilenameLength = (.ok read, rest))
      (accepted : Name.storage read.filename = .ok name) : False := by
    obtain ⟨rfl, within⟩ := header_of_read encoded arrives reads
    rcases refuses with long | ⟨error, refused⟩
    · omega
    · simp [accepted] at refused
  cases serve_course config directory sequence connection tree clock with
  | headerFailed _ _ unchanged left => exact ⟨unchanged, by rw [left]⟩
  | nameRefused _ _ _ unchanged left => exact ⟨unchanged, by rw [left]⟩
  | notCreated reads accepted => exact (unreadable reads accepted).elim
  | received reads accepted => exact (unreadable reads accepted).elim

section Accepted

variable (encoded : header.encode = .ok headerBytes)
  (arrives : connection.inbound.delivered = headerBytes ++ content)
  (within : header.filename.length ≤ config.maxFilenameLength)
  (accepted : Name.storage header.filename = .ok name)
  (declares : header.fileSize.toNat = content.length)
  (exists_directory : tree.get? directory = some .directory)
  (clear : tree.get? (directory ++ [Utf8.encode (Name.staging sequence)]) = none)
  (word : sequence < UInt64.size)
  (staging_reachable : (entryPath config (Name.staging sequence)).problem? = none)

include encoded arrives within accepted declares exists_directory clear word staging_reachable

/-- A frame whose name is accepted comes to its payload, with an empty unfinished file. -/
theorem serve_comes_to_payload (clock : Clock) :
    ∃ rest created journal, rest.delivered = content ∧
      serve config directory sequence connection tree clock =
        receive config directory (Name.staging sequence) name content.length sequence
          { connection with inbound := rest } created clock journal ∧
      ∀ place, created.get? place =
        if place = directory ++ [Utf8.encode (Name.staging sequence)] then some (.file [])
        else tree.get? place := by
  obtain ⟨created, creates, created_get⟩ :=
    createStaging_of_plain exists_directory (.inl clear) word staging_reachable
  obtain ⟨rest, journal, consumed, goes⟩ :=
    serve_eq_receive clock encoded arrives within accepted creates
  rw [declares] at goes
  exact ⟨rest, created, journal,
    List.append_cancel_left (consumed.delivered.symm.trans arrives), goes, created_get⟩

variable (short : (Utf8.encode name).length ≤ Path.componentLimit)

include short

/-- A frame whose name is free is stored. -/
theorem serve_frame (name_reachable : (entryPath config name).problem? = none)
    (free : tree.get? (directory ++ [Utf8.encode name]) ≠ some .directory) (clock : Clock) :
    let served := serve config directory sequence connection tree clock
    (∀ place, served.tree.get? place =
      if place = directory ++ [Utf8.encode name] then some (.file content)
      else tree.get? place) ∧
    Answered connection.outbound served.connection.outbound Ack.success.toBytes := by
  obtain ⟨rest, created, journal, left, goes, created_get⟩ :=
    serve_comes_to_payload encoded arrives within accepted declares exists_directory clear word
      staging_reachable clock
  have space := (created_get _).trans (if_pos rfl)
  have apart := entry_ne_staging directory accepted sequence
  obtain ⟨after, persists, after_get⟩ :=
    persisted_of_free config { connection with inbound := rest } clock content.length journal space
      short (((created_get _).trans (if_neg apart)).trans_ne free) name_reachable
  have outcome :=
    outcome_of_persisted config { connection with inbound := rest } clock content.length journal
      space (congrArg Prod.snd persists)
  simp only [left, List.take_length, Nat.le_refl, if_true] at after_get outcome
  rw [goes]
  refine ⟨fun place => ?_, ?_⟩
  · rw [tree_receive, persists, after_get, created_get]
    by_cases target : place = directory ++ [Utf8.encode name]
    · rw [if_pos target, if_pos target]
    · rw [if_neg target, if_neg target]
      by_cases source : place = directory ++ [Utf8.encode (Name.staging sequence)]
      · rw [if_pos source, source, clear]
      · rw [if_neg source, if_neg source]
  · exact answered_receive outcome (by decide)

/-- A frame that cannot be given its name stays in the unfinished file. -/
theorem serve_displaced
    (obstructed : tree.get? (directory ++ [Utf8.encode name]) = some .directory ∨
      (entryPath config name).problem? ≠ none) (clock : Clock) :
    let served := serve config directory sequence connection tree clock
    (∀ place, served.tree.get? place =
      if place = directory ++ [Utf8.encode (Name.staging sequence)] then some (.file content)
      else tree.get? place) ∧
    Answered connection.outbound served.connection.outbound Ack.failure.toBytes := by
  obtain ⟨rest, created, journal, left, goes, created_get⟩ :=
    serve_comes_to_payload encoded arrives within accepted declares exists_directory clear word
      staging_reachable clock
  have space := (created_get _).trans (if_pos rfl)
  have apart := entry_ne_staging directory accepted sequence
  obtain ⟨received, quiet⟩ :=
    ended_spec config { connection with inbound := rest } clock content.length journal space
  simp only [left, List.take_length, Nat.le_refl, if_true] at received quiet
  have clean := congrArg OpenFile.unreported received.file
  have stands := (received.tree (directory ++ [Utf8.encode (Name.staging sequence)])).trans
    (FileTree.get?_append_self space)
  have still_obstructed := obstructed.imp_left fun taken =>
    (received.tree (directory ++ [Utf8.encode name])).trans
      ((FileTree.get?_append_eq_iff (by simp)).mpr
        (((created_get _).trans (if_neg apart)).trans taken))
  obtain ⟨error, persists⟩ := persist_of_obstructed clean stands short still_obstructed
  rw [goes]
  refine ⟨fun place => ?_, ?_⟩
  · rw [tree_receive, persisted, persists, received.tree]
    by_cases source : place = directory ++ [Utf8.encode (Name.staging sequence)]
    · rw [if_pos source, source]
      exact FileTree.get?_append_self space
    · rw [if_neg source]
      exact (FileTree.get?_append_of_ne source).trans ((created_get place).trans (if_neg source))
  · have outcome : (receive config directory (Name.staging sequence) name content.length sequence
        { connection with inbound := rest } created clock journal).outcome = .ioError := by
      rw [outcome_receive, quiet, persisted, persists]
      rfl
    exact answered_receive outcome (by decide)

end Accepted

end Receiver

end FilePush
