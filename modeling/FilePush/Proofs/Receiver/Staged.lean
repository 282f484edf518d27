import FilePush.Proofs.FileTree.Folders
import FilePush.Proofs.Receiver.Brought

/-!
# Connections that come to their payload

A connection comes to its payload if its header arrives, its name is accepted and its unfinished file
can be created; otherwise it is over before any file is touched.  `Staged` gathers what is known of a
connection that comes to its payload.  Its unfinished file then receives the payload, and either is
given the name or stays where it is.
-/

namespace FilePush

namespace Receiver

/-- What was reported of a connection that comes to its payload. -/
def announced (sequence : Nat) (name : String) (size : Nat) : Journal :=
  ((Journal.empty.noteFor sequence .newConnection).noteFor sequence (.filename name)).noteFor
    sequence (.fileSize size)

/-- A connection that comes to its payload. -/
structure Staged (config : Config) (directory : Location) (sequence : Nat)
    (connection : Connection) (tree : FileTree) where
  /-- The header. -/
  header : Header
  /-- What is still to arrive after the header. -/
  rest : Inbound
  /-- The name to store the file under. -/
  name : String
  /-- The files once the unfinished file has been created. -/
  created : FileTree
  /-- The header arrives. -/
  read : Header.readFrom connection.inbound config.maxFilenameLength = (.ok header, rest)
  /-- The name is accepted. -/
  accepted : Name.storage header.filename = .ok name
  /-- The unfinished file can be created. -/
  creates : createStaging config directory (Name.staging sequence) tree = .ok created

/-- A connection that does not come to its payload. -/
inductive Unstaged (config : Config) (directory : Location) (sequence : Nat)
    (connection : Connection) (tree : FileTree) : Prop
  /-- The header does not arrive, or its name is too long. -/
  | headerFailed {error : TransferError} {rest : Inbound}
      (read : Header.readFrom connection.inbound config.maxFilenameLength = (.error error, rest))
  /-- The name is refused. -/
  | nameRefused {header : Header} {rest : Inbound} {error : ProtocolError}
      (read : Header.readFrom connection.inbound config.maxFilenameLength = (.ok header, rest))
      (refused : Name.storage header.filename = .error error)
  /-- The unfinished file cannot be created. -/
  | notCreated {header : Header} {rest : Inbound} {name : String} {error : IoError}
      (read : Header.readFrom connection.inbound config.maxFilenameLength = (.ok header, rest))
      (accepted : Name.storage header.filename = .ok name)
      (failed : createStaging config directory (Name.staging sequence) tree = .error error)

variable {config : Config} {directory : Location} {sequence : Nat} {connection : Connection}
  {tree : FileTree}

namespace Staged

section

variable (staged : Staged config directory sequence connection tree) (clock : Clock)

/-- The number of payload bytes declared. -/
def size : Nat := staged.header.fileSize.toNat

/-- The payload bytes that arrive, up to the declared size. -/
def payload : Bytes := staged.rest.delivered.take staged.size

/-- Where the unfinished file stands. -/
def unfinished (_ : Staged config directory sequence connection tree) : Location :=
  directory ++ [Utf8.encode (Name.staging sequence)]

/-- Where the file is to be stored. -/
def destination : Location := directory ++ [Utf8.encode staged.name]

/-- The receiver when it starts to receive the payload. -/
def before : Receiving :=
  begun config directory (Name.staging sequence) staged.size sequence staged.created clock
    (announced sequence staged.name staged.size) staged.rest

/-- The receiver when the payload has ended, and the outcome if a failure ended it. -/
def ended : Receiving × Option Outcome :=
  receivePayload config.effectiveBufferSize (staged.before clock)

/-- The receiver when the payload has ended. -/
def after : Receiving := (staged.ended clock).1

/-- The files after the payload, and whether the file received its name. -/
def persisted : FileTree × Except FileError Unit :=
  persist config directory (Name.staging sequence) staged.name (staged.after clock).file
    (staged.after clock).tree

/-- The files once the unfinished file has been given its name, if it can be given it. -/
def published : Except IoError FileTree :=
  publish config directory (Name.staging sequence) staged.name (staged.after clock).tree

/-- What the unfinished file holds when the payload has ended. -/
def stored : Node :=
  if tree.get? staged.unfinished = some .full then .full else .file staged.payload

theorem serve_eq :
    serve config directory sequence connection tree clock =
      receive config directory (Name.staging sequence) staged.name staged.size sequence
        { connection with inbound := staged.rest } staged.created clock
        (announced sequence staged.name staged.size) := by
  simp only [serve, staged.read, staged.accepted, staged.creates]
  rfl

theorem tree_serve :
    (serve config directory sequence connection tree clock).tree = (staged.persisted clock).1 := by
  rw [staged.serve_eq]
  rfl

theorem inbound_serve :
    (serve config directory sequence connection tree clock).connection.inbound =
      (staged.after clock).inbound := by
  rw [staged.serve_eq]
  rfl

theorem outcome_serve :
    (serve config directory sequence connection tree clock).outcome =
      (settle (staged.after clock).session (staged.ended clock).2
        (staged.persisted clock).2).outcome := by
  rw [staged.serve_eq]
  rfl

include staged in
/-- A connection that comes to its payload is answered by the outcome, unless the connection fails. -/
theorem outbound_serve :
    let served := serve config directory sequence connection tree clock
    served.connection.outbound =
      if served.outcome = .connectionError then connection.outbound
      else (sendAck connection.outbound (Ack.ofSuccess served.outcome.isSuccess)).1 := by
  rw [staged.serve_eq clock]
  exact outbound_receive _ _ _ _ _ _ _ _ _ _

include staged in
/-- The four ways in which a connection that comes to its payload ends. -/
theorem outcome_serve_cases :
    let served := serve config directory sequence connection tree clock
    served.outcome = .success ∨ served.outcome = .sizeMismatch ∨ served.outcome = .ioError ∨
      served.outcome = .connectionError := by
  rw [staged.serve_eq clock]
  exact outcome_receive_cases _ _ _ _ _ _ _ _ _ _

/-- A transfer ends by the number of bytes only if the file was given its name. -/
theorem named_of_counted
    (counted : (serve config directory sequence connection tree clock).outcome = .success ∨
      (serve config directory sequence connection tree clock).outcome = .sizeMismatch) :
    (staged.persisted clock).2 = .ok () := by
  rw [staged.outcome_serve clock] at counted
  exact persisted_of_counted (fun _ failure => receivePayload_failure failure) counted

theorem destination_ne_unfinished : staged.destination ≠ staged.unfinished :=
  entry_ne_staging directory staged.accepted sequence

/-- Until its file is given its name, a connection changes nothing but the unfinished file. -/
theorem get?_after (place : Location) :
    (staged.after clock).tree.get? place =
      if place = staged.unfinished then some staged.stored else tree.get? place := by
  refine (get?_ended config { connection with inbound := staged.rest } clock staged.size
    (announced sequence staged.name staged.size) staged.creates place).trans ?_
  rw [unfinished]
  by_cases here : place = directory ++ [Utf8.encode (Name.staging sequence)]
  · rw [if_pos here, if_pos here, stored, apply_ite some]
    rfl
  · rw [if_neg here, if_neg here, FileTree.get?_create (createStaging_eq_ok staged.creates).2,
      if_neg fun both => here both.1]

/-- A file that is given its name stands there and nowhere else. -/
theorem get?_published {left : FileTree} (publishes : staged.published clock = .ok left)
    (place : Location) :
    left.get? place =
      if place = staged.destination then some staged.stored
      else if place = staged.unfinished then none
      else tree.get? place := by
  have moved : left.get? place =
      if place = staged.destination then (staged.after clock).tree.get? staged.unfinished
      else if place = staged.unfinished then none
      else (staged.after clock).tree.get? place :=
    FileTree.get?_rename (publish_eq_ok publishes).2 place
  rw [moved, staged.get?_after, staged.get?_after, if_pos rfl]
  by_cases here : place = staged.unfinished
  · simp only [if_pos here]
  · simp only [if_neg here]

/-- No directory stands where the unfinished file is created. -/
theorem unfinished_free : tree.get? staged.unfinished ≠ some .directory :=
  (FileTree.create_eq_ok (createStaging_eq_ok staged.creates).2).2.2

/-- A file is given a name only if it is short and not the name of a directory. -/
theorem free_of_published {left : FileTree} (publishes : staged.published clock = .ok left) :
    (Utf8.encode staged.name).length ≤ Path.componentLimit ∧
      tree.get? staged.destination ≠ some .directory := by
  obtain ⟨-, -, short, free⟩ := FileTree.rename_eq_ok (publish_eq_ok publishes).2
  have before := staged.get?_after clock staged.destination
  rw [if_neg staged.destination_ne_unfinished] at before
  exact ⟨short, before.symm.trans_ne free⟩

/-- The unfinished file is given its name, or it stays and something is reported. -/
theorem persisted_cases :
    ((staged.after clock).file.flush.2 = none ∧
        ∃ left, staged.published clock = .ok left ∧ staged.persisted clock = (left, .ok ())) ∨
      (((staged.after clock).file.flush.2 ≠ none ∨
          ∃ error, staged.published clock = .error error) ∧
        ∃ error, staged.persisted clock = ((staged.after clock).tree, .error error)) := by
  simp only [persisted, persist, published]
  split
  · next flushed => exact .inr ⟨.inl (by simp [flushed]), _, rfl⟩
  · next flushed =>
      split
      · next left publishes => exact .inl ⟨by rw [flushed], left, publishes, rfl⟩
      · next error fails => exact .inr ⟨.inr ⟨error, fails⟩, _, rfl⟩

/-- What stands where, by whether the unfinished file was given its name. -/
theorem get?_serve (place : Location) :
    (serve config directory sequence connection tree clock).tree.get? place =
      match (staged.persisted clock).2 with
      | .ok () =>
          if place = staged.destination then some staged.stored
          else if place = staged.unfinished then none
          else tree.get? place
      | .error _ => if place = staged.unfinished then some staged.stored else tree.get? place := by
  rw [staged.tree_serve]
  rcases staged.persisted_cases clock with ⟨-, left, publishes, named⟩ | ⟨-, error, kept⟩
  · rw [named, staged.get?_published clock publishes]
  · rw [kept, staged.get?_after]

end

end Staged

/-- A connection comes to its payload or it does not. -/
theorem staged_or_unstaged (config : Config) (directory : Location) (sequence : Nat)
    (connection : Connection) (tree : FileTree) :
    Nonempty (Staged config directory sequence connection tree) ∨
      Unstaged config directory sequence connection tree := by
  rcases read : Header.readFrom connection.inbound config.maxFilenameLength with
    ⟨error | header, rest⟩
  · exact .inr (.headerFailed read)
  · cases accepted : Name.storage header.filename with
    | error error => exact .inr (.nameRefused read accepted)
    | ok name =>
        cases creates : createStaging config directory (Name.staging sequence) tree with
        | error error => exact .inr (.notCreated read accepted creates)
        | ok created => exact .inl ⟨⟨header, rest, name, created, read, accepted, creates⟩⟩

theorem Unstaged.not_staged (unstaged : Unstaged config directory sequence connection tree)
    (staged : Staged config directory sequence connection tree) : False := by
  cases unstaged with
  | headerFailed read => simp [staged.read] at read
  | nameRefused read refused =>
      simp only [staged.read, Prod.mk.injEq, Except.ok.injEq] at read
      simp [← read.1, staged.accepted] at refused
  | notCreated _ _ failed => simp [staged.creates] at failed

/-- A connection whose unfinished file cannot be created ends by a failure of the file. -/
theorem serve_notCreated {header : Header} {rest : Inbound} {name : String} {error : IoError}
    (clock : Clock)
    (read : Header.readFrom connection.inbound config.maxFilenameLength = (.ok header, rest))
    (accepted : Name.storage header.filename = .ok name)
    (failed : createStaging config directory (Name.staging sequence) tree = .error error) :
    let served := serve config directory sequence connection tree clock
    served.outcome = .ioError ∧ served.connection.outbound = connection.outbound := by
  simp only [serve, read, accepted, failed, and_self]

/-- A connection that does not come to its payload changes no file and is not answered. -/
theorem Unstaged.serve (unstaged : Unstaged config directory sequence connection tree)
    (clock : Clock) :
    let served := serve config directory sequence connection tree clock
    served.tree = tree ∧ served.connection.outbound = connection.outbound ∧
      (served.outcome = .connectionError ∨ served.outcome = .ioError) := by
  cases serve_course config directory sequence connection tree clock with
  | headerFailed _ outcome unchanged left => exact ⟨unchanged, by rw [left], .inl outcome⟩
  | nameRefused _ _ outcome unchanged left => exact ⟨unchanged, by rw [left], .inl outcome⟩
  | notCreated _ _ _ outcome unchanged left => exact ⟨unchanged, by rw [left], .inr outcome⟩
  | received read accepted creates =>
      exact (unstaged.not_staged ⟨_, _, _, _, read, accepted, creates⟩).elim

end Receiver

end FilePush
