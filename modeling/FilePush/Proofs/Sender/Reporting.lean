import FilePush.Proofs.Sender.Frame

/-!
# What a sender reports

A sender opens its file, connects, writes its frame and reads the answer, and each of these can
fail.  A file that cannot be sent puts nothing on the wire.  A file that can be sent is on the wire
as a whole before the answer is read, and then the answer alone decides what is reported: success
only on the token of success.
-/

namespace FilePush

/-- Where no device is full, no path names a file on a full device. -/
theorem FileTree.openForReading_ne_full {tree : FileTree}
    (plain : ∀ place, tree.get? place ≠ some .full) (working : Location) (path : Path) :
    tree.openForReading working path ≠ .ok .full := by
  rw [openForReading]
  split
  · simp
  · next place located =>
      split
      · simp
      · next node stands =>
          rintro full
          cases full
          exact plain place stands

namespace Sender

/-- The frame of a file: the name and the size in a header, then the content. -/
structure Framed (tree : FileTree) (working : Location) (path : Path) (text : String)
    (content frame : Bytes) : Prop where
  /-- The path is text. -/
  spelled : path.bytes = Utf8.encode text
  /-- It names a file with this content. -/
  opens : tree.openForReading working path = .ok (.file content)
  /-- The frame is made of these. -/
  encodes : ∃ header,
    Header.encode ⟨Utf8.encode (Name.basename text), UInt64.ofNat content.length⟩ = .ok header ∧
      frame = header ++ content

/-- Why a file cannot be sent: the first of these that applies. -/
inductive Unsendable (tree : FileTree) (working : Location) (path : Path) : TransferError → Prop
  /-- The path is no text. -/
  | notText (unspelled : ∀ text, path.bytes ≠ Utf8.encode text) :
      Unsendable tree working path (.file (.nonUtf8Name path))
  /-- There is no such file. -/
  | missing {text : String} (spelled : path.bytes = Utf8.encode text)
      (fails : tree.openForReading working path = .error .notFound) :
      Unsendable tree working path (.file (.notFound path))
  /-- The file cannot be opened for another reason. -/
  | unreadable {text : String} {problem : IoError} (spelled : path.bytes = Utf8.encode text)
      (fails : tree.openForReading working path = .error problem) (other : problem ≠ .notFound) :
      Unsendable tree working path (.file (.unreadable path problem))
  /-- It is a directory. -/
  | directory {text : String} (spelled : path.bytes = Utf8.encode text)
      (opens : tree.openForReading working path = .ok .directory) :
      Unsendable tree working path (.file (.unreadable path directoryRefused))
  /-- It has no header. -/
  | unframed {text : String} {content : Bytes} {error : ProtocolError}
      (spelled : path.bytes = Utf8.encode text)
      (opens : tree.openForReading working path = .ok (.file content))
      (refused : Header.encode ⟨Utf8.encode (Name.basename text), UInt64.ofNat content.length⟩ =
        .error error) :
      Unsendable tree working path (.protocol error)

/-- A peer takes a whole frame, answers with `reply` and closes the connection. -/
structure Attends (connection : Connection) (frame reply : Bytes) : Prop where
  /-- The frame is taken, in whatever pieces it is offered. -/
  takes : Taking connection.outbound frame.length
  /-- It is pushed out. -/
  flushes : connection.outbound.flushFailure = none
  /-- The answer arrives, in whatever pieces. -/
  replies : connection.inbound.delivered = reply
  /-- After it the connection is closed. -/
  closes : connection.inbound.ending = .ended

section

variable {tree : FileTree} {working : Location} {path : Path} {text : String}
  {content frame reply : Bytes} {connection : Connection} {error : TransferError}

theorem exists_framed (spelled : path.bytes = Utf8.encode text)
    (opens : tree.openForReading working path = .ok (.file content)) :
    ∃ frame, Framed tree working path text content frame := by
  obtain ⟨header, encoded, -⟩ := prepare_of_file spelled opens
  exact ⟨header ++ content, spelled, opens, header, encoded, rfl⟩

theorem prepare_of_framed (framed : Framed tree working path text content frame) :
    ∃ header, frame = header ++ content ∧
      prepare path (openSource tree working path) =
        .ok ⟨path, Name.basename text, .content content, content.length, header⟩ := by
  obtain ⟨header, encoded, whole⟩ := framed.encodes
  obtain ⟨also_header, also_encoded, ready⟩ := prepare_of_file framed.spelled framed.opens
  rw [encoded] at also_encoded
  cases also_encoded
  exact ⟨header, whole, ready⟩

theorem prepare_of_unsendable (unsendable : Unsendable tree working path error) :
    prepare path (openSource tree working path) = .error error := by
  cases unsendable with
  | notText unspelled =>
      simp only [prepare, Name.wire_eq_error_iff.mpr ⟨unspelled, rfl⟩]
  | missing spelled fails =>
      simp only [prepare, Name.wire_of_text spelled, openSource, fails, if_true]
  | unreadable spelled fails other =>
      simp only [prepare, Name.wire_of_text spelled, openSource, fails, if_neg other]
  | directory spelled opens =>
      simp only [prepare, Name.wire_of_text spelled, openSource, opens]
  | unframed spelled opens refused =>
      simp only [prepare, Name.wire_of_text spelled, openSource_of_file opens]
      rw [refused]

/-- A file that cannot be sent has no frame. -/
theorem Framed.not_unsendable (framed : Framed tree working path text content frame) :
    ¬Unsendable tree working path error := by
  intro unsendable
  obtain ⟨header, -, ready⟩ := prepare_of_framed framed
  simp [prepare_of_unsendable unsendable] at ready

/-- Where no device is full, a path names a file to send, or there is a reason why not. -/
theorem framed_or_unsendable (plain : ∀ place, tree.get? place ≠ some .full) (working : Location)
    (path : Path) :
    (∃ text content frame, Framed tree working path text content frame) ∨
      ∃ error, Unsendable tree working path error := by
  cases decoded : Utf8.decode? path.bytes with
  | none =>
      exact .inr ⟨_, .notText (Utf8.decode?_eq_none_iff.mp decoded)⟩
  | some text =>
      have spelled := Utf8.decode?_eq_some_iff.mp decoded
      rcases opens : tree.openForReading working path with problem | _ | content | _
      · by_cases absent : problem = .notFound
        · subst absent
          exact .inr ⟨_, .missing spelled opens⟩
        · exact .inr ⟨_, .unreadable spelled opens absent⟩
      · exact .inr ⟨_, .directory spelled opens⟩
      · obtain ⟨frame, framed⟩ := exists_framed spelled opens
        exact .inl ⟨text, content, frame, framed⟩
      · exact absurd opens (FileTree.openForReading_ne_full plain working path)

/-- A file that cannot be sent puts nothing on the wire, and no connection is made. -/
theorem send_of_unsendable (config : Config) (address : SocketAddress)
    (dial : Except IoError Connection) (clock : Clock)
    (unsendable : Unsendable tree working path error) :
    send config tree working path address dial clock = ⟨.error error, none, .empty⟩ := by
  rw [send, prepare_of_unsendable unsendable]

/-- A file is sent as a whole to a peer that takes it, and the answer decides what is told. -/
theorem send_of_framed (config : Config) (address : SocketAddress) (clock : Clock)
    (framed : Framed tree working path text content frame)
    (attends : Attends connection frame reply) :
    ∃ left elapsed,
      (send config tree working path address (.ok connection) clock).connection = some left ∧
      left.outbound.written = connection.outbound.written ++ frame ∧
      (send config tree working path address (.ok connection) clock).result =
        reported ⟨Name.basename text, ⟨content.length, elapsed⟩, Checksum.ofBytes content, .success⟩
          (verdict (reply.take Ack.maxLength)) := by
  obtain ⟨header, rfl, ready⟩ := prepare_of_framed framed
  obtain ⟨written, account⟩ := @transmit_accounted config address
    ⟨path, Name.basename text, .content content, content.length, header⟩ connection.outbound clock
    content rfl
  have taking := attends.takes
  rw [List.length_append, ← Nat.min_self content.length] at taking
  have whole := account.whole taking
  have on_wire := account.written
  have success := account.succeeds_iff.mpr ⟨whole, Nat.le_refl _, attends.flushes⟩
  have counted := account.counted_all success
  have checksum := account.checksum
  rw [counted, List.take_length] at checksum
  rw [whole, List.take_length] at on_wire
  simp only [send, ready]
  rw [deliver_of_transmit success, result_conclude, readAck_eq_verdict,
    if_pos (.inr attends.closes), attends.replies, checksum]
  generalize (transmit config address _ connection.outbound clock).1 = sent at on_wire counted ⊢
  refine ⟨_, Instant.since sent.clock.now.1 sent.session.meter.start, rfl, ?_, ?_⟩
  · rw [outbound_conclude, on_wire]
  · rw [Meter.overall, show sent.session.meter.total = content.length from counted]

/-- Sending to a peer succeeds exactly if there is a file and the answer is that of success. -/
theorem send_succeeds_iff (plain : ∀ place, tree.get? place ≠ some .full) (config : Config)
    (address : SocketAddress) (clock : Clock)
    (attends : ∀ text content frame, Framed tree working path text content frame →
      Attends connection frame reply) :
    (∃ report, (send config tree working path address (.ok connection) clock).result =
        .ok report) ↔
      (∃ text content, path.bytes = Utf8.encode text ∧
        tree.openForReading working path = .ok (.file content)) ∧
      Ack.parse (reply.take Ack.maxLength) = .ok .success := by
  rcases framed_or_unsendable plain working path with
    ⟨text, content, frame, framed⟩ | ⟨error, unsendable⟩
  · obtain ⟨left, elapsed, -, -, result⟩ := send_of_framed config address clock framed
      (attends text content frame framed)
    rw [result, exists_reported_iff, verdict_eq_ok_iff]
    exact ⟨fun parsed => ⟨⟨text, content, framed.spelled, framed.opens⟩, parsed⟩, And.right⟩
  · rw [send_of_unsendable config address _ clock unsendable]
    constructor
    · rintro ⟨report, succeeds⟩
      simp at succeeds
    · rintro ⟨⟨text, content, spelled, opens⟩, -⟩
      obtain ⟨frame, framed⟩ := exists_framed spelled opens
      exact absurd unsendable framed.not_unsendable

end

/--
What sending a file reports is what happened.  A file that cannot be sent is reported with the
reason, and nothing is put on the wire.  To a peer that takes the frame, answers and closes, the file
is sent as a whole; success is reported exactly if there is such a file and the first ten bytes of
the answer are the token of success, and every other answer is reported for what it is.
-/
theorem send_reports {tree : FileTree} (plain : ∀ place, tree.get? place ≠ some .full)
    (config : Config) (working : Location) (path : Path) (address : SocketAddress) (clock : Clock) :
    (∀ error, Unsendable tree working path error → ∀ dial,
      send config tree working path address dial clock = ⟨.error error, none, .empty⟩) ∧
    (∀ connection reply,
      (∀ text content frame, Framed tree working path text content frame →
        Attends connection frame reply) →
      let sent := send config tree working path address (.ok connection) clock
      let answer := reply.take 10
      ((∃ report, sent.result = .ok report) ↔
        (∃ text content, path.bytes = Utf8.encode text ∧
          tree.openForReading working path = .ok (.file content)) ∧
        Ack.parse answer = .ok .success) ∧
      ∀ text content, path.bytes = Utf8.encode text →
        tree.openForReading working path = .ok (.file content) →
        (∃ frame left, Framed tree working path text content frame ∧
          sent.connection = some left ∧
          left.outbound.written = connection.outbound.written ++ frame) ∧
        (∀ report, sent.result = .ok report →
          report.filename = Name.basename text ∧ report.rate.bytes = content.length ∧
            report.checksum = Checksum.ofBytes content ∧ report.ack = .success) ∧
        (Ack.parse answer = .ok .failure → sent.result = .error .rejected) ∧
        (reply = [] → sent.result = .error .noAck) ∧
        (reply ≠ [] → (∀ ack, Ack.parse answer ≠ .ok ack) →
          sent.result = .error (.protocol (.unknownAck answer)))) ∧
    ∀ dial,
      (sendFile tree working path address dial clock = .ok () ↔
        ∃ report, (send .standard tree working path address dial clock).result = .ok report) ∧
      ∀ error, sendFile tree working path address dial clock = .error error ↔
        (send .standard tree working path address dial clock).result = .error error := by
  refine ⟨fun error unsendable dial => send_of_unsendable config address dial clock unsendable,
    fun connection reply attends => ?_, fun dial => ?_⟩
  · intro sent answer
    refine ⟨send_succeeds_iff plain config address clock attends, ?_⟩
    intro text content spelled opens
    obtain ⟨frame, framed⟩ := exists_framed spelled opens
    obtain ⟨left, elapsed, connected, written, result⟩ := send_of_framed config address clock
      framed (attends text content frame framed)
    change sent.result = reported _ (verdict answer) at result
    refine ⟨⟨frame, left, framed, connected, written⟩, fun report succeeds => ?_,
      fun failure => ?_, ?_, ?_⟩
    · obtain rfl := eq_of_reported (result.symm.trans succeeds)
      exact ⟨rfl, rfl, rfl, rfl⟩
    · rw [result, verdict_eq_ok_iff.mpr failure, reported]
    · rintro rfl
      exact result
    · intro something unknown
      have some_answer : answer ≠ [] := by simpa [answer] using something
      rw [result, verdict_of_unknown some_answer unknown, reported]
  · rw [sendFile]
    cases (send .standard tree working path address dial clock).result with
    | ok report => simp [Except.map]
    | error cause => simp [Except.map]

/-- A file of two bytes that is answered in two pieces is reported with its size. -/
theorem send_reports_letter :
    ∃ report, (send .standard ⟨[([[0x61]], .file [120, 121])]⟩ [] (.ofString "a")
        (.v4 #v[127, 0, 0, 1] 9000)
        (.ok ⟨⟨[.bytes (Utf8.encode "all "), .pause, .bytes (Utf8.encode "right")]⟩, .reliable⟩)
        (.ofReadings fun _ => 0)).result = .ok report ∧
      report.filename = "a" ∧ report.rate.bytes = 2 := by
  have plain (place : Location) :
      FileTree.get? ⟨[([[0x61]], .file [120, 121])]⟩ place ≠ some .full := by
    rw [FileTree.get?]
    split
    · simp
    · rw [List.find?_singleton]
      split
      · simp
      · simp
  have opens : FileTree.openForReading ⟨[([[0x61]], .file [120, 121])]⟩ [] (.ofString "a") =
      .ok (.file [120, 121]) := by
    decide
  obtain ⟨succeeds, files⟩ := (send_reports plain .standard [] (.ofString "a")
    (.v4 #v[127, 0, 0, 1] 9000) (.ofReadings fun _ => 0)).2.1
    ⟨⟨[.bytes (Utf8.encode "all "), .pause, .bytes (Utf8.encode "right")]⟩, .reliable⟩
    (Utf8.encode "all right")
    fun _ _ _ _ => ⟨fun _ _ _ => ⟨65535, rfl⟩, rfl, by decide, by decide⟩
  obtain ⟨report, reports⟩ := succeeds.mpr ⟨⟨"a", [120, 121], rfl, opens⟩, by decide⟩
  obtain ⟨filename, bytes, -⟩ := (files "a" [120, 121] rfl opens).2.1 report reports
  exact ⟨report, reports, filename.trans (by decide), bytes⟩

end Sender

end FilePush
