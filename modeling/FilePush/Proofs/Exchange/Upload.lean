import FilePush.Exchange
import FilePush.Proofs.Receiver.Awaiting
import FilePush.Proofs.Receiver.Frame
import FilePush.Proofs.Receiver.LongPath
import FilePush.Proofs.Sender.Frame

/-!
# An upload to a server

An upload over a network that loses nothing does to the uploads directory of a server what its name
says: the file appears whole under the last component of its path, or does not appear at all.  It is
kept away by a name that the server does not accept, by a directory that has the name, and by an
uploads directory whose path is so long that the paths below it cannot be looked up.
-/

namespace FilePush

/--
A channel to a receiver with the limit `limit` that carries `frame`: everything written arrives, and
a write fails only if the receiver does not wait for it.
-/
structure Channel.Dependable (channel : Channel) (limit : Nat) (frame : Bytes) : Prop where
  /-- Nothing was written before. -/
  sender_start : channel.senderOutbound.position = 0 ∧ channel.senderOutbound.written = []
  /-- Nothing was answered before. -/
  receiver_start : channel.receiverOutbound.position = 0 ∧ channel.receiverOutbound.written = []
  /-- The channel takes bytes of the frame as long as the receiver waits for more. -/
  takes : ∀ place, place < frame.length → 0 < Receiver.awaited limit (frame.take place) →
    ∃ more, channel.senderOutbound.reply place = .takes (more + 1)
  /-- A frame that the receiver waits for to its end is pushed out. -/
  flushes : (∀ place, place < frame.length → 0 < Receiver.awaited limit (frame.take place)) →
    channel.senderOutbound.flushFailure = none
  /-- The channel takes an answer. -/
  answers : ∀ place, place < Ack.maxLength →
    ∃ more, channel.receiverOutbound.reply place = .takes (more + 1)
  /-- What the sender wrote arrives. -/
  forward : ∀ bytes, (channel.forward bytes).delivered = bytes
  /-- What the receiver wrote arrives. -/
  backward : ∀ bytes, (channel.backward bytes).delivered = bytes
  /-- After an answer the stream ends. -/
  ends : ∀ bytes, bytes ≠ [] → (channel.backward bytes).ending = .ended

/-- An upload of a file to a server that accepts names of at most `limit` bytes. -/
structure Upload (limit : Nat) where
  /-- The sender's configuration. -/
  config : Config
  /-- The sender's files. -/
  files : FileTree
  /-- The sender's working directory. -/
  working : Location
  /-- The path of the file. -/
  path : Path
  /-- The path as text. -/
  text : String
  /-- The content of the file. -/
  content : Bytes
  /-- The address of the server. -/
  address : SocketAddress
  /-- The address of the sender. -/
  peer : SocketAddress
  /-- The sender's clock. -/
  clock : Clock
  /-- The channel to the server. -/
  channel : Channel
  /-- The path is that text. -/
  spelled : path.bytes = Utf8.encode text
  /-- The path leads to that file. -/
  opens : files.openForReading working path = .ok (.file content)
  /-- The size of a file is a word. -/
  word : content.length < UInt64.size
  /-- The channel carries the frame of the file. -/
  dependable : ∀ header,
    Header.encode ⟨Utf8.encode (Name.basename text), UInt64.ofNat content.length⟩ = .ok header →
    channel.Dependable limit (header ++ content)

namespace Upload

variable {limit : Nat}

/-- The name that the file travels under. -/
def name (upload : Upload limit) : String := Name.basename upload.text

/-- Make the upload; `none` if the server waits for a permit that it never gets. -/
def run (upload : Upload limit) (service : Service) :
    Option (Except TransferError Sender.Report × Service) :=
  uploadOver upload.channel upload.config upload.files upload.working upload.path upload.address
    upload.peer upload.clock service

/--
What is to come of an upload over the connection `number`, and what is then to stand where.  Without
an accepted name, or a path to its unfinished file, it is not answered and changes nothing.  If it
cannot be given its name, it is rejected, and its content stays in the unfinished file.
-/
def ideal (config : Config) (directory : Location) (number : Nat)
    (view : Location → Option Node) (upload : Upload config.maxFilenameLength) :
    Except TransferError Unit × (Location → Option Node) :=
  match Name.storage (Utf8.encode upload.name) with
  | .error _ => (.error .noAck, view)
  | .ok name =>
      if config.maxFilenameLength < (Utf8.encode upload.name).length then (.error .noAck, view)
      else if (Receiver.entryPath config (Name.staging number)).problem? ≠ none then
        (.error .noAck, view)
      else if view (directory ++ [Utf8.encode name]) = some .directory ∨
          (Receiver.entryPath config name).problem? ≠ none then
        (.error .rejected, Function.update view (directory ++ [Utf8.encode (Name.staging number)])
          (some (.file upload.content)))
      else
        (.ok (), Function.update view (directory ++ [Utf8.encode name])
          (some (.file upload.content)))

end Upload

/-- A server that waits for the connection `number`, whose unfinished file does not exist yet. -/
structure Service.Ready (service : Service) (config : Config) (directory : Location)
    (number : Nat) : Prop where
  /-- The configuration is as given. -/
  configured : service.config = config
  /-- The uploads directory stands where it is given. -/
  placed : service.directory = directory
  /-- No connection is being served. -/
  idle : service.loop = ⟨number, config.maxConnections, false, []⟩
  /-- The uploads directory exists. -/
  stands : service.tree.get? directory = some .directory
  /-- The unfinished files of this connection and of the later ones do not exist. -/
  clear : ∀ later, number ≤ later →
    service.tree.get? (directory ++ [Utf8.encode (Name.staging later)]) = none

/-- A server that waits for a connection serves the next one and waits again. -/
theorem Service.Ready.next {service : Service} {config : Config} {directory : Location}
    {number : Nat} (ready : service.Ready config directory number)
    (limited : config.maxConnections ≠ some 0) (peer : SocketAddress) (arriving : Connection) :
    let served :=
      Receiver.serve config directory number arriving service.tree service.clock
    ∃ journal, service.next (.connection peer arriving) =
      some ({ service with
        loop := ⟨number + 1, config.maxConnections, false, []⟩
        tree := served.tree
        clock := served.clock }, .served served, journal) := by
  obtain ⟨rfl, rfl, idle, -, -⟩ := ready
  rw [Service.next, idle]
  cases permits : service.config.maxConnections with
  | none =>
      exact ⟨_, by simp [AcceptLoop.step?, serveAccepted, AcceptLoop.release]; rfl⟩
  | some free =>
      cases free with
      | zero => exact absurd permits limited
      | succ free =>
          exact ⟨_, by simp [AcceptLoop.step?, serveAccepted, AcceptLoop.release]; rfl⟩

/-- A server whose directory has no unfinished file to come is ready after a connection. -/
theorem Service.Ready.advance {service : Service} {config : Config} {directory : Location}
    {number : Nat} (ready : service.Ready config directory number) {after : FileTree}
    (clock : Clock) (stands : after.get? directory = some .directory)
    (clear : ∀ later, number < later →
      after.get? (directory ++ [Utf8.encode (Name.staging later)]) = none) :
    ({ service with
        loop := ⟨number + 1, config.maxConnections, false, []⟩
        tree := after
        clock } : Service).Ready config directory (number + 1) where
  configured := ready.configured
  placed := ready.placed
  idle := rfl
  stands := stands
  clear := clear

/-- So it is if a single entry changed that is none of these unfinished files. -/
theorem Service.Ready.advance_entry {service : Service} {config : Config} {directory : Location}
    {number : Nat} (ready : service.Ready config directory number) {after : FileTree}
    (clock : Clock) {entry : Bytes} {node : Option Node}
    (changed : ∀ place, after.get? place =
      if place = directory ++ [entry] then node else service.tree.get? place)
    (apart : ∀ later, number < later →
      directory ++ [Utf8.encode (Name.staging later)] ≠ directory ++ [entry]) :
    ({ service with
        loop := ⟨number + 1, config.maxConnections, false, []⟩
        tree := after
        clock } : Service).Ready config directory (number + 1) := by
  refine ready.advance clock ?_ fun later follows => ?_
  · have above : directory ≠ directory ++ [entry] := by simp
    rw [changed, if_neg above]
    exact ready.stands
  · rw [changed, if_neg (apart later follows)]
    exact ready.clear later (Nat.le_of_lt follows)

namespace Upload

section Run

variable {config : Config} {directory : Location} {number : Nat} {service : Service}
  (upload : Upload config.maxFilenameLength) {header : Bytes}

/-- What the sender has ready. -/
def outgoing (header : Bytes) : Sender.Outgoing :=
  ⟨upload.path, upload.name, .content upload.content, upload.content.length, header⟩

/-- The sender when its frame has gone out, and why it failed if it did. -/
def transmission (header : Bytes) : Sender.Sending × Option TransferError :=
  Sender.transmit upload.config upload.address (upload.outgoing header)
    upload.channel.senderOutbound upload.clock

/-- The connection as the receiver sees it. -/
def arriving (header : Bytes) : Connection :=
  ⟨upload.channel.forward (upload.transmission header).1.outbound.written,
    upload.channel.receiverOutbound⟩

/-- The sender's result if the receiver wrote `answer`. -/
def resultOf (header answer : Bytes) : Except TransferError Sender.Report :=
  match (upload.transmission header).2 with
  | some error => .error error
  | none =>
      (Sender.conclude (upload.outgoing header) (upload.transmission header).1
        (upload.channel.backward answer)).result

variable (ready : service.Ready config directory number) (limited : config.maxConnections ≠ some 0)

include ready limited in
/-- An upload is the sender's frame, the receiver's work on it and the sender's conclusion. -/
theorem run_eq
    (encoded : Header.encode
      ⟨Utf8.encode upload.name, UInt64.ofNat upload.content.length⟩ = .ok header) :
    let served := Receiver.serve config directory number (upload.arriving header) service.tree
      service.clock
    upload.run service =
      some (upload.resultOf header served.connection.outbound.written,
        { service with
          loop := ⟨number + 1, config.maxConnections, false, []⟩
          tree := served.tree
          clock := served.clock }) := by
  obtain ⟨header', encoded', prepared⟩ := Sender.prepare_of_file upload.spelled upload.opens
  obtain ⟨journal, next⟩ := ready.next limited upload.peer (upload.arriving header)
  obtain rfl : header = header' := Except.ok.inj (encoded.symm.trans encoded')
  rw [run, uploadOver, prepared]
  change (service.next (.connection upload.peer (upload.arriving header))).bind _ = _
  rw [next]
  rfl

include upload in
/-- The name that an upload is stored under is short enough for a directory. -/
theorem length_storage_le {name : String}
    (accepted : Name.storage (Utf8.encode upload.name) = .ok name) :
    (Utf8.encode name).length ≤ Path.componentLimit := by
  rw [Upload.name, Name.storage_encode_basename] at accepted
  split at accepted
  · cases accepted
    exact Name.length_encode_basename_le upload.spelled upload.opens
  · simp at accepted

section Frame

variable (encoded : Header.encode ⟨Utf8.encode upload.name, UInt64.ofNat upload.content.length⟩ =
  .ok header)

include encoded

/-- What arrives is a beginning of the frame, and all of it unless the sender fails. -/
theorem arriving_prefix :
    (upload.arriving header).inbound.delivered <+: header ++ upload.content ∧
      ((upload.transmission header).2 = none →
        (upload.arriving header).inbound.delivered = header ++ upload.content) := by
  have dependable := upload.dependable header encoded
  obtain ⟨sent, written, front, whole⟩ := Sender.transmit_spec upload.config upload.address
    upload.channel.senderOutbound upload.clock (show (upload.outgoing header).source = _ from rfl)
  rw [dependable.sender_start.2, List.nil_append] at written
  have arrives : (upload.arriving header).inbound.delivered = sent :=
    (dependable.forward _).trans written
  have all : upload.content.take (upload.outgoing header).declared = upload.content :=
    List.take_length
  rw [all] at front whole
  rw [arrives]
  exact ⟨front, whole⟩

/-- A sender whose frame is waited for to its end sends all of it. -/
theorem transmission_of_accepted {name : String}
    (within : (Utf8.encode upload.name).length ≤ config.maxFilenameLength)
    (accepted : Name.storage (Utf8.encode upload.name) = .ok name) :
    (upload.transmission header).2 = none := by
  have dependable := upload.dependable header encoded
  have waits : ∀ place, place < (header ++ upload.content).length →
      0 < Receiver.awaited config.maxFilenameLength ((header ++ upload.content).take place) :=
    fun place early => Receiver.awaited_pos encoded within accepted
      (UInt64.toNat_ofNat_of_lt' upload.word) early
  refine Sender.transmit_of_taking rfl (Nat.le_refl _) (fun place after before => ?_)
    (dependable.flushes waits)
  have early : place < (header ++ upload.content).length := by
    rw [dependable.sender_start.1, Nat.zero_add] at before
    rwa [List.length_append]
  exact dependable.takes place early (waits place early)

/-- A sender that is not answered is left without an answer, however it learns of that. -/
theorem resultOf_nil : upload.resultOf header [] = .error .noAck := by
  have dependable := upload.dependable header encoded
  rw [resultOf]
  split
  · next error failure =>
      rw [Sender.transmit_failure (show (upload.outgoing header).source = _ from rfl)
        (Nat.le_refl _) failure]
  · exact Sender.conclude_of_nothing _ _ (dependable.backward [])

/-- A sender that is answered concludes from the answer. -/
theorem resultOf_toBytes (complete : (upload.transmission header).2 = none) (ack : Ack) :
    (upload.resultOf header ack.toBytes).map (fun _ => ()) = Sender.conclusion ack := by
  have dependable := upload.dependable header encoded
  rw [resultOf, complete]
  exact Sender.conclude_of_answer _ _ (dependable.backward _)
    (dependable.ends _ ack.toBytes_ne_nil)

/-- A receiver that answers over the channel has its answer taken. -/
theorem written_of_answered {after : Outbound} {ack : Ack}
    (answered : Receiver.Answered (upload.arriving header).outbound after ack.toBytes) :
    after.written = ack.toBytes := by
  have dependable := upload.dependable header encoded
  obtain ⟨taken, -, written, complete⟩ := answered
  have start := dependable.receiver_start.1
  have taking : ((upload.arriving header).outbound.writeAll ack.toBytes).2 = none := by
    refine congrArg Prod.snd (Outbound.writeAll_of_taking fun place after before =>
      dependable.answers place ?_)
    have short := ack.length_toBytes_le
    omega
  rw [written, complete taking]
  exact congrArg (· ++ ack.toBytes) dependable.receiver_start.2

end Frame

variable (encoded : Header.encode ⟨Utf8.encode upload.name, UInt64.ofNat upload.content.length⟩ =
  .ok header)

include ready limited encoded

/-- An upload that the receiver does not answer and that changes nothing. -/
theorem run_silent
    (unanswered : (Receiver.serve config directory number (upload.arriving header) service.tree
      service.clock).connection.outbound = (upload.arriving header).outbound)
    (unchanged : (Receiver.serve config directory number (upload.arriving header) service.tree
      service.clock).tree = service.tree) :
    ∃ after, upload.run service = some (.error .noAck, after) ∧
      after.Ready config directory (number + 1) ∧ after.tree = service.tree := by
  have runs := upload.run_eq ready limited encoded
  have silent : (upload.arriving header).outbound.written = [] :=
    (upload.dependable header encoded).receiver_start.2
  simp only [unanswered, silent, upload.resultOf_nil encoded, unchanged] at runs
  exact ⟨_, runs, ready.advance _ ready.stands fun later follows =>
    ready.clear later (Nat.le_of_lt follows), rfl⟩

/-- An upload under a name that is not accepted changes nothing. -/
theorem run_refused (refuses : config.maxFilenameLength < (Utf8.encode upload.name).length ∨
      ∃ error, Name.storage (Utf8.encode upload.name) = .error error) :
    ∃ after, upload.run service = some (.error .noAck, after) ∧
      after.Ready config directory (number + 1) ∧ after.tree = service.tree := by
  obtain ⟨unchanged, unanswered⟩ := @Receiver.serve_refused config directory number
    (upload.arriving header) service.tree service.clock _ _ _ encoded
    (upload.arriving_prefix encoded).1 refuses
  exact upload.run_silent ready limited encoded unanswered unchanged

/-- An upload to a directory below which its unfinished file cannot be looked up changes nothing. -/
theorem run_unreachable {name : String}
    (within : (Utf8.encode upload.name).length ≤ config.maxFilenameLength)
    (accepted : Name.storage (Utf8.encode upload.name) = .ok name)
    (unreachable : (Receiver.entryPath config (Name.staging number)).problem? ≠ none) :
    ∃ after, upload.run service = some (.error .noAck, after) ∧
      after.Ready config directory (number + 1) ∧ after.tree = service.tree := by
  have arrives := (upload.arriving_prefix encoded).2
    (upload.transmission_of_accepted encoded within accepted)
  obtain ⟨-, unchanged, unanswered⟩ := Receiver.serve_of_unreachable directory service.tree
    service.clock encoded arrives within accepted unreachable
  exact upload.run_silent ready limited encoded unanswered unchanged

section Accepted

variable {name : String} (word : number < UInt64.size)
  (staging_reachable : (Receiver.entryPath config (Name.staging number)).problem? = none)
  (within : (Utf8.encode upload.name).length ≤ config.maxFilenameLength)
  (accepted : Name.storage (Utf8.encode upload.name) = .ok name)

include word staging_reachable within accepted

/-- An upload under a free name is stored. -/
theorem run_stored (name_reachable : (Receiver.entryPath config name).problem? = none)
    (free : service.tree.get? (directory ++ [Utf8.encode name]) ≠ some .directory) :
    ∃ result after, upload.run service = some (result, after) ∧
      after.Ready config directory (number + 1) ∧ result.map (fun _ => ()) = .ok () ∧
      after.tree.get? = Function.update service.tree.get? (directory ++ [Utf8.encode name])
        (some (.file upload.content)) := by
  have complete := upload.transmission_of_accepted encoded within accepted
  have arrives := (upload.arriving_prefix encoded).2 complete
  obtain ⟨view, answered⟩ :=
    Receiver.serve_frame encoded arrives within accepted (UInt64.toNat_ofNat_of_lt' upload.word)
      ready.stands (ready.clear number (Nat.le_refl _)) word staging_reachable
      (upload.length_storage_le accepted) name_reachable free service.clock
  have runs := upload.run_eq ready limited encoded
  simp only [upload.written_of_answered encoded answered] at runs
  have apart (later : Nat) : directory ++ [Utf8.encode (Name.staging later)] ≠
      directory ++ [Utf8.encode name] :=
    (Receiver.entry_ne_staging directory accepted later).symm
  refine ⟨_, _, runs, ready.advance_entry _ view fun later _ => apart later,
    upload.resultOf_toBytes encoded complete .success, ?_⟩
  funext place
  rw [Function.update_apply]
  exact view place

/-- An upload that cannot be given its name is rejected, and what was received is left behind. -/
theorem run_displaced
    (obstructed : service.tree.get? (directory ++ [Utf8.encode name]) = some .directory ∨
      (Receiver.entryPath config name).problem? ≠ none) :
    ∃ result after, upload.run service = some (result, after) ∧
      after.Ready config directory (number + 1) ∧
      result.map (fun _ => ()) = .error .rejected ∧
      after.tree.get? =
        Function.update service.tree.get?
          (directory ++ [Utf8.encode (Name.staging number)]) (some (.file upload.content)) := by
  have complete := upload.transmission_of_accepted encoded within accepted
  have arrives := (upload.arriving_prefix encoded).2 complete
  obtain ⟨view, answered⟩ :=
    Receiver.serve_displaced encoded arrives within accepted
      (UInt64.toNat_ofNat_of_lt' upload.word) ready.stands (ready.clear number (Nat.le_refl _)) word
      staging_reachable (upload.length_storage_le accepted) obstructed service.clock
  have runs := upload.run_eq ready limited encoded
  simp only [upload.written_of_answered encoded answered] at runs
  have apart (later : Nat) (follows : number < later) :
      directory ++ [Utf8.encode (Name.staging later)] ≠
        directory ++ [Utf8.encode (Name.staging number)] := by
    intro same
    have names := List.singleton_inj.mp (List.append_cancel_left same)
    have numbers := Name.staging_injective (Utf8.encode_injective names)
    omega
  refine ⟨_, _, runs, ready.advance_entry _ view apart,
    upload.resultOf_toBytes encoded complete .failure, ?_⟩
  funext place
  rw [Function.update_apply]
  exact view place

end Accepted

end Run

/-- An upload does what it is to do, and leaves the server ready for the next one. -/
theorem run_ideal {config : Config} {directory : Location} {number : Nat} {service : Service}
    (upload : Upload config.maxFilenameLength) (ready : service.Ready config directory number)
    (limited : config.maxConnections ≠ some 0) (word : number < UInt64.size) :
    ∃ result after, upload.run service = some (result, after) ∧
      after.Ready config directory (number + 1) ∧
      (result.map fun _ => (), after.tree.get?) =
        upload.ideal config directory number service.tree.get? := by
  obtain ⟨header, encoded, -⟩ := Sender.prepare_of_file upload.spelled upload.opens
  have quiet (silent : ∃ after, upload.run service = some (.error .noAck, after) ∧
      after.Ready config directory (number + 1) ∧ after.tree = service.tree) :
      ∃ result after, upload.run service = some (result, after) ∧
        after.Ready config directory (number + 1) ∧
        (result.map fun _ => (), after.tree.get?) =
          ((.error .noAck, service.tree.get?) :
            Except TransferError Unit × (Location → Option Node)) := by
    obtain ⟨after, runs, still_ready, unchanged⟩ := silent
    refine ⟨_, after, runs, still_ready, ?_⟩
    rw [unchanged]
    rfl
  rw [ideal]
  cases storable : Name.storage (Utf8.encode upload.name) with
  | error error => exact quiet (upload.run_refused ready limited encoded (.inr ⟨error, storable⟩))
  | ok name =>
      simp only
      split
      · next long => exact quiet (upload.run_refused ready limited encoded (.inl long))
      · next short =>
          have within := Nat.le_of_not_lt short
          split
          · next unreachable =>
              exact quiet (upload.run_unreachable ready limited encoded within storable unreachable)
          · next reachable =>
              have staging_reachable := not_not.mp reachable
              split
              · next obstructed =>
                  obtain ⟨result, after, runs, still_ready, rejected, view⟩ :=
                    upload.run_displaced ready limited encoded word staging_reachable within
                      storable obstructed
                  exact ⟨result, after, runs, still_ready, Prod.ext rejected view⟩
              · next clear =>
                  obtain ⟨free, name_reachable⟩ := not_or.mp clear
                  obtain ⟨result, after, runs, still_ready, stored, view⟩ :=
                    upload.run_stored ready limited encoded word staging_reachable within
                      storable (not_not.mp name_reachable) free
                  exact ⟨result, after, runs, still_ready, Prod.ext stored view⟩

end Upload

end FilePush
