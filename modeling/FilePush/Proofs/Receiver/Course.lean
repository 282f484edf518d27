import FilePush.Receiver

/-!
# The course of a connection

Serving a connection goes one of four ways.  No header can be read, or its name is refused, or the
unfinished file cannot be created; otherwise the payload is received.  `serve_course` says which, so
that nothing else about `serve` has to unfold it.
-/

namespace FilePush

namespace Receiver

theorem outbound_answer (outcome : Outcome) (sequence : Nat) (outbound : Outbound)
    (journal : Journal) :
    (answer outcome sequence outbound journal).1 =
      if outcome = .connectionError then outbound
      else (sendAck outbound (Ack.ofSuccess outcome.isSuccess)).1 := by
  rw [answer]
  split
  · rfl
  · simp only
    split
    · next sent => rw [sent]
    · next sent => rw [sent]

section Receive

variable (config : Config) (directory : Location) (staging name : String) (size sequence : Nat)
  (connection : Connection) (tree : FileTree) (clock : Clock) (journal : Journal)

/-- The state in which a receiver starts to receive a payload. -/
def begun (inbound : Inbound) : Receiving :=
  { inbound
    tree
    file := OpenFile.opened (directory ++ [Utf8.encode staging])
    session := Session.start sequence size config.sampleInterval clock.now.1
    clock := clock.now.2
    journal }

/-- A receiver whose payload has ended, and the outcome if a failure ended it. -/
def ended : Receiving × Option Outcome :=
  receivePayload config.effectiveBufferSize
    (begun config directory staging size sequence tree clock journal connection.inbound)

/-- The files after a payload, and whether the file received its name. -/
def persisted : FileTree × Except FileError Unit :=
  let received := (ended config directory staging size sequence connection tree clock journal).1
  persist config directory staging name received.file received.tree

@[simp]
theorem tree_receive :
    (receive config directory staging name size sequence connection tree clock journal).tree =
      (persisted config directory staging name size sequence connection tree clock journal).1 :=
  rfl

theorem outcome_receive :
    (receive config directory staging name size sequence connection tree clock journal).outcome =
      (settle
        (ended config directory staging size sequence connection tree clock journal).1.session
        (ended config directory staging size sequence connection tree clock journal).2
        (persisted config directory staging name size sequence connection tree clock
          journal).2).outcome :=
  rfl

/-- A connection is answered by the outcome, unless the outcome is that the connection failed. -/
theorem outbound_receive :
    let served :=
      receive config directory staging name size sequence connection tree clock journal
    served.connection.outbound =
      if served.outcome = .connectionError then connection.outbound
      else (sendAck connection.outbound (Ack.ofSuccess served.outcome.isSuccess)).1 :=
  outbound_answer _ _ _ _

end Receive

/-- How serving a connection goes. -/
inductive Course (config : Config) (directory : Location) (sequence : Nat)
    (connection : Connection) (tree : FileTree) (clock : Clock) (served : Served) : Prop
  /-- No header could be read, and nothing else happens. -/
  | headerFailed {error : TransferError} {rest : Inbound}
      (read : Header.readFrom connection.inbound config.maxFilenameLength = (.error error, rest))
      (outcome : served.outcome = .connectionError) (unchanged : served.tree = tree)
      (left : served.connection = { connection with inbound := rest })
  /-- The name was refused, and nothing else happens. -/
  | nameRefused {header : Header} {rest : Inbound} {error : ProtocolError}
      (read : Header.readFrom connection.inbound config.maxFilenameLength = (.ok header, rest))
      (refused : Name.storage header.filename = .error error)
      (outcome : served.outcome = .connectionError) (unchanged : served.tree = tree)
      (left : served.connection = { connection with inbound := rest })
  /-- No unfinished file could be created, and nothing else happens. -/
  | notCreated {header : Header} {rest : Inbound} {name : String} {error : IoError}
      (read : Header.readFrom connection.inbound config.maxFilenameLength = (.ok header, rest))
      (accepted : Name.storage header.filename = .ok name)
      (failed : createStaging config directory (Name.staging sequence) tree = .error error)
      (outcome : served.outcome = .ioError) (unchanged : served.tree = tree)
      (left : served.connection = { connection with inbound := rest })
  /-- The payload is received into the unfinished file. -/
  | received {header : Header} {rest : Inbound} {name : String} {created : FileTree}
      {journal : Journal}
      (read : Header.readFrom connection.inbound config.maxFilenameLength = (.ok header, rest))
      (accepted : Name.storage header.filename = .ok name)
      (creates : createStaging config directory (Name.staging sequence) tree = .ok created)
      (goes : served =
        receive config directory (Name.staging sequence) name header.fileSize.toNat sequence
          { connection with inbound := rest } created clock journal)

theorem serve_course (config : Config) (directory : Location) (sequence : Nat)
    (connection : Connection) (tree : FileTree) (clock : Clock) :
    Course config directory sequence connection tree clock
      (serve config directory sequence connection tree clock) := by
  rw [serve]
  split
  · next read => exact .headerFailed read rfl rfl rfl
  · next header rest read =>
      simp only
      split
      · next refused => exact .nameRefused read refused rfl rfl rfl
      · next name accepted =>
          split
          · next failed => exact .notCreated read accepted failed rfl rfl rfl
          · next created creates => exact .received read accepted creates rfl

end Receiver

end FilePush
