import FilePush.Proofs.Name.Safety
import FilePush.Proofs.Sender.Frame

/-!
# One name on both sides

A file travels under the last component of its path, and a receiver stores what arrives under the last
component of that.  The last component of a last component is itself, so a receiver either stores a
file under the very name that its sender reports or refuses the name; and it would have done the same
with the whole path.
-/

namespace FilePush

namespace Name

/-- Whether a text is stored under its last component can be told from that component. -/
theorem storage_or_refused (text : String) :
    storage (Utf8.encode (basename text)) = .ok (basename text) ∧
        storage (Utf8.encode text) = .ok (basename text) ∨
      storage (Utf8.encode (basename text)) = .error (.invalidFilename (basename text)) ∧
        storage (Utf8.encode text) = .error (.invalidFilename text) := by
  rw [storage_encode_basename, storage_encode]
  by_cases storable : isStorable (basename text)
  · exact .inl ⟨if_pos storable, if_pos storable⟩
  · exact .inr ⟨if_neg storable, if_neg storable⟩

end Name

namespace Sender

/-- A file is prepared under the name that its path travels under. -/
theorem wire_of_prepare {path : Path} {opened : Except FileError (Source × Nat)}
    {outgoing : Outgoing} (ready : prepare path opened = .ok outgoing) :
    Name.wire path = .ok outgoing.filename := by
  obtain ⟨text, -, -, -, spelled, -, -, rfl⟩ := prepare_eq_ok ready
  exact Name.wire_of_text spelled

/-- A transfer that succeeds is reported under the name that the file was prepared under. -/
theorem filename_of_deliver {config : Config} {address : SocketAddress} {outgoing : Outgoing}
    {connection : Connection} {clock : Clock} {report : Report}
    (succeeds : (deliver config address outgoing connection clock).result = .ok report) :
    report.filename = outgoing.filename := by
  rw [deliver] at succeeds
  split at succeeds
  · simp at succeeds
  · rw [result_conclude] at succeeds
    rw [← eq_of_reported succeeds]

/-- A transfer that succeeds is reported under the name that the path travels under. -/
theorem wire_of_send {config : Config} {tree : FileTree} {working : Location} {path : Path}
    {address : SocketAddress} {dial : Except IoError Connection} {clock : Clock} {report : Report}
    (succeeds : (send config tree working path address dial clock).result = .ok report) :
    Name.wire path = .ok report.filename := by
  rw [send] at succeeds
  split at succeeds
  · simp at succeeds
  · next outgoing ready =>
      split at succeeds
      · simp at succeeds
      · rw [wire_of_prepare ready, filename_of_deliver succeeds]

/-- A header that is read from a beginning of a frame holds the name of the frame. -/
theorem filename_of_arriving {path : Path} {opened : Except FileError (Source × Nat)}
    {outgoing : Outgoing} {payload : Bytes} {inbound rest : Inbound} {limit : Nat}
    {header : Header} (ready : prepare path opened = .ok outgoing)
    (arrives : inbound.delivered <+: outgoing.header ++ payload)
    (read : Header.readFrom inbound limit = (.ok header, rest)) :
    header.filename = Utf8.encode outgoing.filename := by
  obtain ⟨text, source, declared, written, -, -, encoded, rfl⟩ := prepare_eq_ok ready
  obtain ⟨front, received, -, took⟩ := Header.readFrom_eq_ok read
  obtain ⟨missing, whole⟩ := arrives
  rw [took.delivered, List.append_assoc] at whole
  rw [(Header.encode_append_injective received encoded whole).1]

end Sender

/--
Sender and receiver derive one name from a path.  A path travels exactly if it is text, and then under
a name that is its own last component; the receiver stores the file under this very name or refuses
it, and it would do the same with the whole path.  Hence what a receiver stores of a frame is stored
under the name that the sender prepared, and that is the name that the sender reports.
-/
theorem names_agree (path : Path) :
    (∀ error, Name.wire path = .error error ↔
      (∀ text, path.bytes ≠ Utf8.encode text) ∧ error = .nonUtf8Name path) ∧
    (∀ text, path.bytes = Utf8.encode text →
      ∃ name, Name.wire path = .ok name ∧ Name.basename name = name ∧
        (Name.storage (Utf8.encode name) = .ok name ∧ Name.storage path.bytes = .ok name ∨
          Name.storage (Utf8.encode name) = .error (.invalidFilename name) ∧
            Name.storage path.bytes = .error (.invalidFilename text))) ∧
    (∀ opened outgoing, Sender.prepare path opened = .ok outgoing →
      Name.wire path = .ok outgoing.filename ∧
        ∀ (inbound rest : Inbound) (payload : Bytes) (limit : Nat) (header : Header)
          (stored : String),
          inbound.delivered <+: outgoing.header ++ payload →
          Header.readFrom inbound limit = (.ok header, rest) →
          Name.storage header.filename = .ok stored → stored = outgoing.filename) ∧
    ∀ config tree working address dial clock report,
      (Sender.send config tree working path address dial clock).result = .ok report →
        Name.wire path = .ok report.filename := by
  refine ⟨fun error => Name.wire_eq_error_iff, fun text spelled => ?_,
    fun opened outgoing ready => ⟨Sender.wire_of_prepare ready, ?_⟩,
    fun config tree working address dial clock report succeeds => Sender.wire_of_send succeeds⟩
  · rw [spelled]
    exact ⟨Name.basename text, Name.wire_of_text spelled,
      Name.basename_basename text, Name.storage_or_refused text⟩
  · intro inbound rest payload limit header stored arrives read accepted
    obtain ⟨text, -, travels⟩ := Name.wire_eq_ok_iff.mp (Sender.wire_of_prepare ready)
    rw [Sender.filename_of_arriving ready arrives read, travels,
      Name.storage_encode_basename] at accepted
    split at accepted
    · rw [travels, Except.ok.inj accepted]
    · simp at accepted

end FilePush
