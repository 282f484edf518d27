import FilePush.Proofs.Receiver.Answering
import FilePush.Proofs.Sender.Frame
import Mathlib

/-!
# Agreement over a connection that breaks

Each direction of a connection delivers a beginning of what was written there, and then ends or
fails.  Wherever the two are cut, a sender that succeeds has its file stored, and a sender that is
rejected was answered so.
-/

namespace FilePush

namespace Sender

theorem prepare_ne_rejected (path : Path) (opened : Except FileError (Source × Nat)) :
    prepare path opened ≠ .error .rejected := by
  rw [prepare]
  split
  · simp
  · split
    · simp
    · split
      · simp
      · simp

end Sender

namespace Receiver

/-- A token that stands at the beginning of what was written back tells the outcome. -/
theorem outcome_of_token {config : Config} {directory : Location} {sequence : Nat}
    {connection : Connection} {tree : FileTree} {clock : Clock} {answer : Ack}
    (fresh : connection.outbound.written = [])
    (front : Utf8.encode answer.token <+:
      (serve config directory sequence connection tree clock).connection.outbound.written) :
    let served := serve config directory sequence connection tree clock
    (answer = .success → served.outcome = .success) ∧
      (answer = .failure → served.outcome = .sizeMismatch ∨ served.outcome = .ioError) := by
  have some_token : Utf8.encode answer.token ≠ [] := by
    cases answer with
    | success => decide
    | failure => decide
  rcases answer_of_outcome config directory sequence connection tree clock with
    silent | ⟨ack, taken, beginning, written, success, failure⟩
  · rw [silent, fresh] at front
    exact absurd (List.prefix_nil.mp front) some_token
  · rw [written, fresh, List.nil_append] at front
    obtain rfl := Ack.eq_of_token_prefix (front.trans beginning)
    exact ⟨success, failure⟩

end Receiver

/-- A frame of which a whole payload arrives is the frame that was sent. -/
theorem payload_of_arriving {header sent : Header} {headerBytes sentBytes payload content : Bytes}
    (encoded : header.encode = .ok headerBytes) (sent_encoded : sent.encode = .ok sentBytes)
    (declares : sent.fileSize.toNat = content.length)
    (arrives : headerBytes ++ payload <+: sentBytes ++ content)
    (whole : header.fileSize.toNat ≤ payload.length) :
    header = sent ∧ payload = content := by
  obtain ⟨missing, rest⟩ := arrives
  rw [List.append_assoc] at rest
  obtain ⟨rfl, payloads⟩ := Header.encode_append_injective encoded sent_encoded rest
  refine ⟨rfl, ?_⟩
  have lengths := congrArg List.length payloads
  rw [List.length_append] at lengths
  have nothing : missing = [] := List.length_eq_zero_iff.mp (by omega)
  rw [← payloads, nothing, List.append_nil]

/-- A sender that was answered wrote its frame and read the answer. -/
theorem Sender.send_of_tells {config : Config} {files : FileTree} {working : Location}
    {path : Path} {address : SocketAddress} {outbound : Outbound} {answer : Inbound}
    {clock : Clock} {content : Bytes} (ack : Ack)
    (opens : openSource files working path = .ok (.content content, content.length))
    (tells : Tells ack
      (send config files working path address (.ok ⟨answer, outbound⟩) clock).result) :
    ∃ text header left journal, path.bytes = Utf8.encode text ∧
      Header.encode ⟨Utf8.encode (Name.basename text), UInt64.ofNat content.length⟩ =
        .ok header ∧
      (send config files working path address (.ok ⟨answer, outbound⟩) clock).connection =
        some left ∧
      left.outbound.written = outbound.written ++ (header ++ content) ∧
      (readAck answer journal).1 = .ok ack := by
  cases ready : prepare path (openSource files working path) with
  | error error =>
      have refused := prepare_ne_rejected path (openSource files working path)
      rw [ready] at refused
      simp only [send, ready] at tells
      cases ack with
      | success => simp [Tells] at tells
      | failure => exact absurd (congrArg Except.error (Except.error.inj tells)) refused
  | ok outgoing =>
      obtain ⟨text, source, declared, header, spelled, opened, encoded, rfl⟩ := prepare_eq_ok ready
      rw [opens] at opened
      cases opened
      simp only [send, ready] at tells ⊢
      obtain ⟨written, concluded⟩ :=
        read_of_deliver rfl (Nat.le_refl _) (ne_noAck_of_tells tells)
      rw [concluded] at tells
      refine ⟨text, header, _, _, spelled, encoded, rfl, ?_, read_of_conclude tells⟩
      rw [outbound_deliver, written, List.take_length]

/--
If a sender succeeds, the receiver did and its file holds the content; if a sender is rejected, the
receiver failed and answered so.  A beginning of one answer is never read as the other.
-/
theorem send_agrees {client server : Config} {files tree : FileTree}
    {working directory : Location} {path : Path} {address : SocketAddress}
    {outbound reply : Outbound} {answer arriving : Inbound} {senderClock receiverClock : Clock}
    {sequence : Nat} {content : Bytes}
    (opens : Sender.openSource files working path = .ok (.content content, content.length))
    (word : content.length < UInt64.size) (fresh : outbound.written = [])
    (reply_fresh : reply.written = [])
    (forward : ∀ left,
      (Sender.send client files working path address (.ok ⟨answer, outbound⟩)
        senderClock).connection = some left →
      arriving.delivered <+: left.outbound.written)
    (backward : answer.delivered <+:
      (Receiver.serve server directory sequence ⟨arriving, reply⟩ tree
        receiverClock).connection.outbound.written) :
    let sent :=
      Sender.send client files working path address (.ok ⟨answer, outbound⟩) senderClock
    let served :=
      Receiver.serve server directory sequence ⟨arriving, reply⟩ tree receiverClock
    (∀ report, sent.result = .ok report →
      served.outcome = .success ∧
        ∃ text name, path.bytes = Utf8.encode text ∧
          Name.storage (Utf8.encode (Name.basename text)) = .ok name ∧
          (content ≠ [] ∨
              tree.get? (directory ++ [Utf8.encode (Name.staging sequence)]) ≠ some .full →
            served.tree.get? (directory ++ [Utf8.encode name]) = some (.file content))) ∧
    (sent.result = .error .rejected →
      (served.outcome = .sizeMismatch ∨ served.outcome = .ioError) ∧
        Utf8.encode "all bad" <+: served.connection.outbound.written) ∧
    ∀ (ack other : Ack) (stream : Inbound) (journal : Journal),
      stream.delivered <+: ack.toBytes → (Sender.readAck stream journal).1 = .ok other →
        other = ack := by
  intro sent served
  refine ⟨fun report succeeds => ?_, fun rejected => ?_,
    fun ack other stream journal front read => Sender.eq_of_readAck front read⟩
  · obtain ⟨text, header, left, journal, spelled, encoded, connected, written, read⟩ :=
      Sender.send_of_tells .success opens ⟨report, succeeds⟩
    have token := (Sender.token_prefix_of_readAck read).trans backward
    have success := (Receiver.outcome_of_token reply_fresh token).1 rfl
    have arrives := forward left connected
    rw [written, fresh, List.nil_append] at arrives
    obtain ⟨received, headerBytes, payload, name, received_encoded, delivers, accepted, whole,
      stored⟩ := Receiver.frame_of_success success
    rw [show arriving.delivered = _ from delivers] at arrives
    obtain ⟨rfl, rfl⟩ :=
      payload_of_arriving received_encoded encoded (UInt64.toNat_ofNat_of_lt' word) arrives whole
    rw [UInt64.toNat_ofNat_of_lt' word, List.take_length] at stored
    refine ⟨success, text, name, spelled, accepted, fun usable => stored ?_⟩
    exact usable.imp_left List.length_pos_iff.mpr
  · obtain ⟨-, -, -, journal, -, -, -, -, read⟩ :=
      Sender.send_of_tells .failure opens rejected
    have token := (Sender.token_prefix_of_readAck read).trans backward
    exact ⟨(Receiver.outcome_of_token reply_fresh token).2 rfl, token⟩

theorem send_agrees_letter :
    (Receiver.serve .standard [[0x75]] 0
      ⟨⟨[.bytes [0, 1, 97, 0, 0, 0, 0], .pause, .bytes [0, 0, 0, 2, 120], .bytes [121]]⟩, .reliable⟩
      ⟨[([[0x75]], .directory)]⟩ (.ofReadings fun _ => 0)).tree.get? [[0x75], Utf8.encode "a"] =
        some (.file [120, 121]) := by
  have written :
      (Sender.send .standard ⟨[([[0x61]], .file [120, 121])]⟩ [] (.ofString "a")
        (.v4 #v[127, 0, 0, 1] 9000) (.ok ⟨⟨[.bytes (Utf8.encode "all right")]⟩, .reliable⟩)
        (.ofReadings fun _ => 0)).connection.map (·.outbound.written) =
      some [0, 1, 97, 0, 0, 0, 0, 0, 0, 0, 2, 120, 121] := by
    cbv
  have replied :
      (Receiver.serve .standard [[0x75]] 0
        ⟨⟨[.bytes [0, 1, 97, 0, 0, 0, 0], .pause, .bytes [0, 0, 0, 2, 120], .bytes [121]]⟩,
          .reliable⟩
        ⟨[([[0x75]], .directory)]⟩ (.ofReadings fun _ => 0)).connection.outbound.written =
      Ack.success.toBytes := by
    cbv
  obtain ⟨-, text, name, spelled, accepted, stored⟩ :=
    (@send_agrees .standard .standard ⟨[([[0x61]], .file [120, 121])]⟩
      ⟨[([[0x75]], .directory)]⟩ [] [[0x75]] (.ofString "a") (.v4 #v[127, 0, 0, 1] 9000) .reliable
      .reliable ⟨[.bytes (Utf8.encode "all right")]⟩
      ⟨[.bytes [0, 1, 97, 0, 0, 0, 0], .pause, .bytes [0, 0, 0, 2, 120], .bytes [121]]⟩
      (.ofReadings fun _ => 0) (.ofReadings fun _ => 0) 0 [120, 121] (by cbv) (by decide) rfl rfl
      (fun left connected => by
        rw [connected, Option.map_some, Option.some.injEq] at written
        rw [written]
        decide)
      (by
        rw [replied]
        decide)).1
      ⟨"a", ⟨2, 0⟩, Checksum.ofBytes [120, 121], .success⟩ (by cbv)
  obtain rfl : "a" = text := Utf8.encode_injective spelled
  have storable : Name.storage (Utf8.encode (Name.basename "a")) = .ok "a" := by cbv
  obtain rfl : "a" = name := Except.ok.inj (storable.symm.trans accepted)
  exact stored (.inl (by decide))

end FilePush
