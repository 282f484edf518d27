import FilePush.Proofs.Concurrency.Locality
import FilePush.Proofs.Receiver.Staged
import Mathlib.Logic.Function.Iterate

/-!
# A worker on its own

A worker that is not interrupted does what serving its connection does: it comes to the same
outcome, leaves the same files and leaves its connection in the same state.  If its connection comes
to its payload, it may try once to give its file the name, and what it then puts there is all that
was received.
-/

namespace FilePush

namespace Receiver

/-- The name that the file of a connection is to be stored under. -/
def Staged.target {config : Config} {directory : Location} {sequence : Nat}
    {connection : Connection} {tree : FileTree}
    (staged : Staged config directory sequence connection tree) : Target :=
  ⟨staged.name, isStorable_of_storage staged.accepted⟩

namespace Worker

variable {config : Config} {directory : Location} {sequence : Nat} {tree : FileTree}
  {outbound : Outbound} {clock : Clock}

/-- A worker and the files after a number of steps. -/
def proceed (config : Config) (directory : Location) (sequence : Nat) (count : Nat)
    (state : Worker × FileTree) : Worker × FileTree :=
  (fun before => before.1.step config directory sequence before.2)^[count] state

/-- The attempts of a worker to give its file a name in a number of steps. -/
def attempted (config : Config) (directory : Location) (sequence : Nat) :
    Nat → Worker × FileTree → List Attempt
  | 0, _ => []
  | count + 1, (worker, tree) =>
      (worker.attempt? config directory sequence tree).toList ++
        attempted config directory sequence count (worker.step config directory sequence tree)

theorem proceed_add (first second : Nat) (state : Worker × FileTree) :
    proceed config directory sequence (first + second) state =
      proceed config directory sequence second (proceed config directory sequence first state) := by
  rw [Nat.add_comm]
  exact Function.iterate_add_apply _ _ _ _

theorem attempted_add (first second : Nat) (state : Worker × FileTree) :
    attempted config directory sequence (first + second) state =
      attempted config directory sequence first state ++
        attempted config directory sequence second
          (proceed config directory sequence first state) := by
  induction first generalizing state with
  | zero => rw [Nat.zero_add]; rfl
  | succ first induction =>
      rw [Nat.succ_add, attempted, attempted, induction, List.append_assoc]
      rfl

/-- A worker that is not interrupted comes from one state to another with some attempts. -/
def Reaches (config : Config) (directory : Location) (sequence : Nat)
    (before after : Worker × FileTree) (attempts : List Attempt) : Prop :=
  ∃ count, proceed config directory sequence count before = after ∧
    attempted config directory sequence count before = attempts

theorem Reaches.refl (state : Worker × FileTree) :
    Reaches config directory sequence state state [] :=
  ⟨0, rfl, rfl⟩

theorem Reaches.trans {first second third : Worker × FileTree}
    {early late : List Attempt}
    (front : Reaches config directory sequence first second early)
    (back : Reaches config directory sequence second third late) :
    Reaches config directory sequence first third (early ++ late) := by
  obtain ⟨some, rfl, rfl⟩ := front
  obtain ⟨more, rfl, rfl⟩ := back
  exact ⟨some + more, proceed_add some more first, attempted_add some more first⟩

theorem Reaches.cons {worker : Worker} {second third : Worker × FileTree}
    {attempt? : Option Attempt} {attempts : List Attempt}
    (steps : worker.step config directory sequence tree = second)
    (tries : worker.attempt? config directory sequence tree = attempt?)
    (back : Reaches config directory sequence second third attempts) :
    Reaches config directory sequence (worker, tree) third (attempt?.toList ++ attempts) := by
  obtain ⟨more, rfl, rfl⟩ := back
  refine ⟨more + 1, by rw [← steps]; rfl, ?_⟩
  rw [attempted, tries, steps]

/-- One step without an attempt, and then the others. -/
theorem Reaches.head {worker : Worker} {second third : Worker × FileTree}
    {attempts : List Attempt}
    (steps : worker.step config directory sequence tree = second)
    (silent : worker.attempt? config directory sequence tree = none)
    (back : Reaches config directory sequence second third attempts) :
    Reaches config directory sequence (worker, tree) third attempts :=
  back.cons steps silent

section Field

variable {enter : Bytes → Phase} {width : Nat}

/-- What a worker that reads a field comes to. -/
def afterField (enter : Bytes → Phase) (outbound : Outbound) (clock : Clock) :
    Bytes × Stop × Inbound → Worker
  | (bytes, .full, rest) => ⟨enter bytes, ⟨rest, outbound⟩, clock⟩
  | (_, _, rest) => ⟨.done .connectionError, ⟨rest, outbound⟩, clock⟩

variable (reads : ∀ (got : Bytes) (connection : Connection), got.length < width →
  step config directory sequence ⟨enter got, connection, clock⟩ tree =
    (readOn ⟨enter got, connection, clock⟩ (width - got.length) fun chunk => enter (got ++ chunk),
      tree))
  (silent : ∀ (got : Bytes) (connection : Connection),
    attempt? config directory sequence ⟨enter got, connection, clock⟩ tree = none)

include reads silent

/-- A worker that reads a field collects its bytes. -/
theorem reaches_collect (outbound : Outbound) (inbound : Inbound) {missing : Nat} (got : Bytes)
    (rest : got.length + missing = width) :
    Reaches config directory sequence (⟨enter got, ⟨inbound, outbound⟩, clock⟩, tree)
      (afterField (fun bytes => enter (got ++ bytes)) outbound clock (inbound.collect missing),
        tree) [] := by
  fun_induction Inbound.collect inbound missing generalizing got with
  | case1 =>
      rw [afterField, List.append_nil]
      exact Reaches.refl _
  | case2 inbound missing some_missing later given =>
      refine Reaches.head (reads got _ (by omega)) (silent got _) ?_
      rw [readOn, show width - got.length = missing by omega, given]
      exact Reaches.refl _
  | case3 inbound missing some_missing error later given =>
      refine Reaches.head (reads got _ (by omega)) (silent got _) ?_
      rw [readOn, show width - got.length = missing by omega, given]
      exact Reaches.refl _
  | case4 inbound missing some_missing chunk later given more stop last collected induction =>
      refine Reaches.head (reads got _ (by omega)) (silent got _) ?_
      rw [readOn, show width - got.length = missing by omega, given]
      have fits := (Inbound.read_data given).2
      have onward := induction (got ++ chunk) (by
        rw [List.length_append]
        omega)
      rw [collected] at onward
      simp only [List.append_assoc] at onward
      cases stop with
      | full => exact onward
      | ended => exact onward
      | failed error => exact onward

theorem reaches_field {field : String} {inbound rest : Inbound} {bytes : Bytes}
    (read : Header.readField field width inbound = (.ok bytes, rest)) :
    Reaches config directory sequence (⟨enter [], ⟨inbound, outbound⟩, clock⟩, tree)
      (⟨enter bytes, ⟨rest, outbound⟩, clock⟩, tree) [] := by
  have collects := reaches_collect reads silent outbound inbound [] (Nat.zero_add width)
  rw [Header.readField] at read
  split at read
  · next collected =>
      rw [collected] at collects
      cases read
      exact collects
  · simp at read
  · simp at read

theorem reaches_field_error {field : String} {inbound rest : Inbound} {error : TransferError}
    (read : Header.readField field width inbound = (.error error, rest)) :
    Reaches config directory sequence (⟨enter [], ⟨inbound, outbound⟩, clock⟩, tree)
      (⟨.done .connectionError, ⟨rest, outbound⟩, clock⟩, tree) [] := by
  have collects := reaches_collect reads silent outbound inbound [] (Nat.zero_add width)
  rw [Header.readField] at read
  split at read
  · simp at read
  · next collected =>
      rw [collected] at collects
      cases read
      exact collects
  · next collected =>
      rw [collected] at collects
      cases read
      exact collects

end Field

theorem step_length (got : Bytes) (connection : Connection)
    (short : got.length < Header.lengthWidth) :
    step config directory sequence ⟨.length got, connection, clock⟩ tree =
      (readOn ⟨.length got, connection, clock⟩ (Header.lengthWidth - got.length) fun chunk =>
        .length (got ++ chunk), tree) :=
  if_pos short

theorem step_name {width : Nat} (got : Bytes) (connection : Connection)
    (short : got.length < width) :
    step config directory sequence ⟨.name width got, connection, clock⟩ tree =
      (readOn ⟨.name width got, connection, clock⟩ (width - got.length) fun chunk =>
        .name width (got ++ chunk), tree) :=
  if_pos short

theorem step_size {filename : Bytes} (got : Bytes) (connection : Connection)
    (short : got.length < Header.sizeWidth) :
    step config directory sequence ⟨.size filename got, connection, clock⟩ tree =
      (readOn ⟨.size filename got, connection, clock⟩ (Header.sizeWidth - got.length) fun chunk =>
        .size filename (got ++ chunk), tree) :=
  if_pos short

theorem step_length_read {got : Bytes} {connection : Connection}
    (whole : got.length = Header.lengthWidth)
    (within : Bytes.ofBigEndian got ≤ config.maxFilenameLength) :
    step config directory sequence ⟨.length got, connection, clock⟩ tree =
      (⟨.name (Bytes.ofBigEndian got) [], connection, clock⟩, tree) := by
  simp only [step, whole, Nat.lt_irrefl, if_false, if_neg (Nat.not_lt.mpr within)]
  rfl

theorem step_length_refused {got : Bytes} {connection : Connection}
    (whole : got.length = Header.lengthWidth)
    (long : config.maxFilenameLength < Bytes.ofBigEndian got) :
    step config directory sequence ⟨.length got, connection, clock⟩ tree =
      (⟨.done .connectionError, connection, clock⟩, tree) := by
  simp only [step, whole, Nat.lt_irrefl, if_false, if_pos long]
  rfl

theorem step_name_read {width : Nat} {got : Bytes} {connection : Connection}
    (whole : got.length = width) :
    step config directory sequence ⟨.name width got, connection, clock⟩ tree =
      (⟨.size got [], connection, clock⟩, tree) := by
  simp only [step, whole, Nat.lt_irrefl, if_false]
  rfl

theorem step_size_refused {filename got : Bytes} {connection : Connection} {error : ProtocolError}
    (whole : got.length = Header.sizeWidth) (refused : Name.storage filename = .error error) :
    step config directory sequence ⟨.size filename got, connection, clock⟩ tree =
      (⟨.done .connectionError, connection, clock⟩, tree) := by
  simp only [step, whole, Nat.lt_irrefl, if_false]
  split
  · rfl
  · next accepted => simp [refused] at accepted

theorem step_size_accepted {filename got : Bytes} {connection : Connection} {name : String}
    (whole : got.length = Header.sizeWidth) (accepted : Name.storage filename = .ok name) :
    step config directory sequence ⟨.size filename got, connection, clock⟩ tree =
      (⟨.opening ⟨name, isStorable_of_storage accepted⟩
        (UInt64.ofNat (Bytes.ofBigEndian got)).toNat, connection, clock⟩, tree) := by
  simp only [step, whole, Nat.lt_irrefl, if_false]
  split
  · next refused => simp [refused] at accepted
  · next other accepted' =>
      rw [accepted] at accepted'
      cases accepted'
      rfl

/-- A worker that cannot read a header ends there. -/
theorem reaches_header_error {inbound rest : Inbound} {error : TransferError}
    (read : Header.readFrom inbound config.maxFilenameLength = (.error error, rest)) :
    Reaches config directory sequence (start ⟨inbound, outbound⟩ clock, tree)
      (⟨.done .connectionError, ⟨rest, outbound⟩, clock⟩, tree) [] := by
  rw [Header.readFrom] at read
  split at read
  · next failed =>
      cases read
      exact reaches_field_error step_length (fun _ _ => rfl) failed
  · next lengthBytes afterLength length_read =>
      have whole := (Header.readField_eq_ok length_read).1
      refine (reaches_field step_length (fun _ _ => rfl) length_read).trans ?_
      simp only at read
      split at read
      · next long =>
          cases read
          exact Reaches.head (step_length_refused whole long) rfl (Reaches.refl _)
      · next within =>
          refine Reaches.head (step_length_read whole (Nat.le_of_not_lt within)) rfl ?_
          split at read
          · next failed =>
              cases read
              exact reaches_field_error step_name (fun _ _ => rfl) failed
          · next filename afterName name_read =>
              refine (reaches_field step_name (fun _ _ => rfl) name_read).trans ?_
              refine Reaches.head (step_name_read (Header.readField_eq_ok name_read).1) rfl ?_
              split at read
              · next failed =>
                  cases read
                  exact reaches_field_error step_size (fun _ _ => rfl) failed
              · simp at read

/-- A worker that reads a header comes to the end of it. -/
theorem reaches_header {inbound rest : Inbound} {header : Header}
    (read : Header.readFrom inbound config.maxFilenameLength = (.ok header, rest)) :
    ∃ got, got.length = Header.sizeWidth ∧
      UInt64.ofNat (Bytes.ofBigEndian got) = header.fileSize ∧
      Reaches config directory sequence (start ⟨inbound, outbound⟩ clock, tree)
        (⟨.size header.filename got, ⟨rest, outbound⟩, clock⟩, tree) [] := by
  rw [Header.readFrom] at read
  split at read
  · simp at read
  · next lengthBytes afterLength length_read =>
      simp only at read
      split at read
      · simp at read
      · next within =>
          split at read
          · simp at read
          · next filename afterName name_read =>
              split at read
              · simp at read
              · next sizeBytes afterSize size_read =>
                  cases read
                  refine ⟨sizeBytes, (Header.readField_eq_ok size_read).1, rfl, ?_⟩
                  refine (reaches_field step_length (fun _ _ => rfl) length_read).trans ?_
                  refine Reaches.head (step_length_read (Header.readField_eq_ok length_read).1
                    (Nat.le_of_not_lt within)) rfl ?_
                  refine (reaches_field step_name (fun _ _ => rfl) name_read).trans ?_
                  refine Reaches.head (step_name_read (Header.readField_eq_ok name_read).1) rfl ?_
                  exact reaches_field step_size (fun _ _ => rfl) size_read

theorem step_receiving {target : Target} {session : Session} {unreported : Option IoError}
    {inbound later : Inbound} {chunk : Bytes} (incomplete : ¬session.isComplete)
    (given : inbound.read (session.nextChunkLength config.effectiveBufferSize) =
      (.data chunk, later)) :
    step config directory sequence
        ⟨.receiving target session unreported, ⟨inbound, outbound⟩, clock⟩ tree =
      (⟨.storing target session unreported chunk, ⟨later, outbound⟩, clock⟩, tree) := by
  simp only [step, incomplete, given]
  rfl

theorem step_storing {target : Target} {session : Session} {file : OpenFile}
    {connection : Connection} (place : file.location = stagingAt directory sequence)
    (chunk : Bytes) :
    step config directory sequence
        ⟨.storing target session file.unreported chunk, connection, clock⟩ tree =
      match file.write tree chunk with
      | (file, tree, some _) =>
          (⟨.closing target session file.unreported (some .ioError), connection, clock⟩, tree)
      | (file, tree, none) =>
          (⟨.receiving target (session.record chunk clock.now.1).2 file.unreported, connection,
            clock.now.2⟩, tree) := by
  obtain ⟨location, unreported⟩ := file
  obtain rfl : location = stagingAt directory sequence := place
  rfl

theorem location_receivePayload {bufferSize : Nat} (state : Receiving) :
    (receivePayload bufferSize state).1.file.location = state.file.location := by
  fun_induction receivePayload bufferSize state with
  | case1 => rfl
  | case2 => rfl
  | case3 => rfl
  | case4 state incomplete chunk later given file tree error written =>
      have still := OpenFile.location_write state.file state.tree chunk
      rwa [written] at still
  | case5 state incomplete chunk later given file tree written induction =>
      have still := OpenFile.location_write state.file state.tree chunk
      rw [written] at still
      exact induction.trans still

/-- A worker receives a payload as a receiver does. -/
theorem reaches_payload (target : Target) (outbound : Outbound) (state : Receiving)
    (place : state.file.location = stagingAt directory sequence) :
    let after := receivePayload config.effectiveBufferSize state
    Reaches config directory sequence
      (⟨.receiving target state.session state.file.unreported, ⟨state.inbound, outbound⟩,
        state.clock⟩, state.tree)
      (⟨.closing target after.1.session after.1.file.unreported after.2,
        ⟨after.1.inbound, outbound⟩, after.1.clock⟩, after.1.tree) [] := by
  fun_induction receivePayload config.effectiveBufferSize state with
  | case1 state complete =>
      refine Reaches.head ?_ rfl (Reaches.refl _)
      simp only [step, complete, if_true]
      rfl
  | case2 state incomplete later given notice =>
      refine Reaches.head ?_ rfl (Reaches.refl _)
      simp only [step, incomplete, given]
      rfl
  | case3 state incomplete error later given =>
      refine Reaches.head ?_ rfl (Reaches.refl _)
      simp only [step, incomplete, given]
      rfl
  | case4 state incomplete chunk later given file tree error written =>
      refine Reaches.head (step_receiving incomplete given) rfl
        (Reaches.head (step_storing place chunk) rfl ?_)
      rw [written]
      exact Reaches.refl _
  | case5 state incomplete chunk later given file tree written induction =>
      refine Reaches.head (step_receiving incomplete given) rfl
        (Reaches.head (step_storing place chunk) rfl ?_)
      have still := OpenFile.location_write state.file state.tree chunk
      rw [written] at still ⊢
      exact induction (still.trans place)

/-- A connection that comes to its payload comes to the end of it without an attempt. -/
theorem reaches_closing {connection : Connection}
    (staged : Staged config directory sequence connection tree) (clock : Clock) :
    Reaches config directory sequence (start connection clock, tree)
      (⟨.closing staged.target (staged.after clock).session (staged.after clock).file.unreported
          (staged.ended clock).2,
        ⟨(staged.after clock).inbound, connection.outbound⟩, (staged.after clock).clock⟩,
        (staged.after clock).tree) [] := by
  obtain ⟨got, whole, size, reaches⟩ := reaches_header staged.read
  have accepts := @step_size_accepted config directory sequence tree clock staged.header.filename
    got ⟨staged.rest, connection.outbound⟩ staged.name whole staged.accepted
  rw [size] at accepts
  have opens : step config directory sequence
      ⟨.opening staged.target staged.size, ⟨staged.rest, connection.outbound⟩, clock⟩ tree =
      (⟨.receiving staged.target (staged.before clock).session
          (staged.before clock).file.unreported,
        ⟨(staged.before clock).inbound, connection.outbound⟩, (staged.before clock).clock⟩,
        (staged.before clock).tree) := by
    simp only [step, staged.creates]
    rfl
  refine reaches.trans (Reaches.head accepts rfl (Reaches.head opens rfl ?_))
  exact reaches_payload staged.target connection.outbound (staged.before clock) rfl

/--
A worker whose payload has ended closes its file, gives it its name and answers.  An attempt that
succeeds puts the unfinished file under the name.
-/
theorem reaches_answer (target : Target) (session : Session) (unreported : Option IoError)
    (failure : Option Outcome) (inbound : Inbound) :
    let persisted := persist config directory (Name.staging sequence) target
      ⟨stagingAt directory sequence, unreported⟩ tree
    let outcome := (settle session failure persisted.2).outcome
    ∃ attempts, Reaches config directory sequence
        (⟨.closing target session unreported failure, ⟨inbound, outbound⟩, clock⟩, tree)
        (⟨.done outcome, ⟨inbound, (answer outcome sequence outbound .empty).1⟩, clock⟩,
          persisted.1) attempts ∧
      ∀ place node, some (place, node) ∈ attempts ↔
        persisted.2 = .ok () ∧ place = entryAt directory target ∧
          tree.get? (stagingAt directory sequence) = some node := by
  cases unreported with
  | some error =>
      refine ⟨[], Reaches.head rfl rfl (Reaches.head rfl rfl (Reaches.refl _)), ?_⟩
      simp [persist, OpenFile.flush]
  | none =>
      have closes : step config directory sequence
          ⟨.closing target session none failure, ⟨inbound, outbound⟩, clock⟩ tree =
          (⟨.publishing target session failure, ⟨inbound, outbound⟩, clock⟩, tree) := rfl
      let publishing : Worker := ⟨.publishing target session failure, ⟨inbound, outbound⟩, clock⟩
      cases published : publish config directory (Name.staging sequence) target tree with
      | error error =>
          let path := entryPath config target
          let outcome := (settle session failure (.error (.write path error))).outcome
          have names : publishing.step config directory sequence tree =
              (publishing.turn (.answering outcome), tree) := by
            simp only [step, publishing, published]
            rfl
          have tries : publishing.attempt? config directory sequence tree = some none := by
            simp only [attempt?, publishing, published]
          simp only [persist, OpenFile.flush, published]
          refine ⟨[none], Reaches.head closes rfl (Reaches.cons names tries ?_), by simp⟩
          exact Reaches.head rfl rfl (Reaches.refl _)
      | ok after =>
          let outcome := (settle session failure (.ok ())).outcome
          let moved := (tree.get? (stagingAt directory sequence)).map fun node =>
            (entryAt directory target, node)
          have names : publishing.step config directory sequence tree =
              (publishing.turn (.answering outcome), after) := by
            simp only [step, publishing, published]
            rfl
          have tries : publishing.attempt? config directory sequence tree = some moved := by
            simp only [attempt?, publishing, published]
            rfl
          simp only [persist, OpenFile.flush, published]
          refine ⟨[moved], Reaches.head closes rfl (Reaches.cons names tries ?_), ?_⟩
          · exact Reaches.head rfl rfl (Reaches.refl _)
          · intro place node
            rw [List.mem_singleton, eq_comm, Option.map_eq_some_iff]
            simp [eq_comm, and_comm]

/-- A worker on its own serves a connection that comes to its payload. -/
theorem reaches_staged {connection : Connection}
    (staged : Staged config directory sequence connection tree) (clock : Clock) :
    let served := serve config directory sequence connection tree clock
    ∃ late attempts, Reaches config directory sequence (start connection clock, tree)
        (⟨.done served.outcome, served.connection, late⟩, served.tree) attempts ∧
      ∀ place node, some (place, node) ∈ attempts ↔ (staged.persisted clock).2 = .ok () ∧
        place = entryAt directory staged.target ∧ staged.stored = node := by
  intro served
  have file : ⟨stagingAt directory sequence, (staged.after clock).file.unreported⟩ =
      (staged.after clock).file := by
    have place : (staged.after clock).file.location = stagingAt directory sequence :=
      location_receivePayload (staged.before clock)
    rw [← place]
  have left : served.connection = ⟨(staged.after clock).inbound,
      (answer served.outcome sequence connection.outbound .empty).1⟩ := by
    rw [outbound_answer]
    exact congrArg₂ Connection.mk (staged.inbound_serve clock) (staged.outbound_serve clock)
  have stands : (staged.after clock).tree.get? (stagingAt directory sequence) =
      some staged.stored :=
    (staged.get?_after clock staged.unfinished).trans (if_pos rfl)
  obtain ⟨attempts, reaches, put⟩ := @reaches_answer config directory sequence
    (staged.after clock).tree connection.outbound (staged.after clock).clock staged.target
    (staged.after clock).session (staged.after clock).file.unreported (staged.ended clock).2
    (staged.after clock).inbound
  rw [file] at reaches put
  simp only [stands, Option.some.injEq] at put
  refine ⟨(staged.after clock).clock, attempts, ?_, put⟩
  rw [left, staged.tree_serve, staged.outcome_serve]
  exact (reaches_closing staged clock).trans reaches

/--
A worker on its own serves its connection.  What it puts under a name is what its connection brings
for that name, and it has done so if the outcome tells of the number of bytes received.
-/
theorem reaches_serve (config : Config) (directory : Location) (sequence : Nat)
    (connection : Connection) (tree : FileTree) (clock : Clock) :
    let served := serve config directory sequence connection tree clock
    ∃ late attempts, Reaches config directory sequence (start connection clock, tree)
        (⟨.done served.outcome, served.connection, late⟩, served.tree) attempts ∧
      (∀ moved, some moved ∈ attempts →
        ∃ staged : Staged config directory sequence connection tree,
          moved = (entryAt directory staged.target, staged.stored)) ∧
      (served.outcome = .success ∨ served.outcome = .sizeMismatch →
        ∃ staged : Staged config directory sequence connection tree,
          some (entryAt directory staged.target, staged.stored) ∈ attempts) := by
  intro served
  have uncounted {outcome : Outcome} (ends : served.outcome = outcome)
      (other : outcome ≠ .success ∧ outcome ≠ .sizeMismatch) :
      served.outcome = .success ∨ served.outcome = .sizeMismatch →
        ∃ staged : Staged config directory sequence connection tree,
          some (entryAt directory staged.target, staged.stored) ∈ [] := by
    rw [ends]
    rintro (success | mismatch)
    · exact absurd success other.1
    · exact absurd mismatch other.2
  cases serve_course config directory sequence connection tree clock with
  | headerFailed read outcome unchanged left =>
      refine ⟨clock, [], ?_, by simp, uncounted outcome (by decide)⟩
      rw [show served.outcome = _ from outcome, show served.connection = _ from left,
        show served.tree = _ from unchanged]
      exact reaches_header_error read
  | nameRefused read refused outcome unchanged left =>
      refine ⟨clock, [], ?_, by simp, uncounted outcome (by decide)⟩
      rw [show served.outcome = _ from outcome, show served.connection = _ from left,
        show served.tree = _ from unchanged]
      obtain ⟨got, whole, -, reaches⟩ := reaches_header read
      refine reaches.trans (Reaches.head ?_ rfl (Reaches.refl _))
      exact step_size_refused whole refused
  | notCreated read accepted failed outcome unchanged left =>
      refine ⟨clock, [], ?_, by simp, uncounted outcome (by decide)⟩
      rw [show served.outcome = _ from outcome, show served.connection = _ from left,
        show served.tree = _ from unchanged]
      obtain ⟨got, whole, -, reaches⟩ := reaches_header read
      refine reaches.trans (Reaches.head (step_size_accepted whole accepted) rfl
        (Reaches.head ?_ rfl (Reaches.refl _)))
      simp only [step, failed]
      rfl
  | @received header rest name created journal read accepted creates goes =>
      let staged : Staged config directory sequence connection tree :=
        ⟨header, rest, name, created, read, accepted, creates⟩
      obtain ⟨late, attempts, reaches, put⟩ := reaches_staged staged clock
      refine ⟨late, attempts, reaches, ?_, fun counted => ⟨staged, ?_⟩⟩
      · rintro ⟨place, node⟩ member
        obtain ⟨-, rfl, rfl⟩ := (put place node).mp member
        exact ⟨staged, rfl⟩
      · exact (put _ _).mpr ⟨staged.named_of_counted clock counted, rfl, rfl⟩

end Worker

end Receiver

end FilePush
