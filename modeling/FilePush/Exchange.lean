import FilePush.Sender
import FilePush.Server.Service

/-!
# Exchanges between a sender and a receiver

A channel carries what the sender writes to the receiver and what the receiver writes back.  Since a
sender writes all of its frame before it reads the answer, an exchange is the sender's frame, the
receiver's work on what of it arrives, and the sender's conclusion from what arrives of the answer.
-/

namespace FilePush

/-- A channel between a sender and a receiver. -/
structure Channel where
  /-- The sender's writing end. -/
  senderOutbound : Outbound
  /-- What arrives of the bytes that the sender wrote. -/
  forward : Bytes → Inbound
  /-- The receiver's writing end. -/
  receiverOutbound : Outbound
  /-- What arrives of the bytes that the receiver wrote. -/
  backward : Bytes → Inbound

namespace Channel

/-- A channel on which everything arrives. -/
def reliable : Channel where
  senderOutbound := .reliable
  forward := fun bytes => ⟨[.bytes bytes]⟩
  receiverOutbound := .reliable
  backward := fun bytes => ⟨[.bytes bytes]⟩

end Channel

/-- A sender ready to send a file. -/
structure SenderSide where
  /-- The sender's configuration. -/
  config : Config
  /-- The address it connects to. -/
  address : SocketAddress
  /-- The file. -/
  outgoing : Sender.Outgoing
  /-- The sender's clock. -/
  clock : Clock

/--
Let a sender write its frame into a channel: the connection as the receiver sees it, and the
sender's result, given the connection as the receiver leaves it.
-/
def attempt (channel : Channel) (sender : SenderSide) :
    Connection × (Connection → Except TransferError Sender.Report) :=
  let (sent, failure) :=
    Sender.transmit sender.config sender.address sender.outgoing channel.senderOutbound
      sender.clock
  (⟨channel.forward sent.outbound.written, channel.receiverOutbound⟩,
    fun left =>
      match failure with
      | some error => .error error
      | none =>
          (Sender.conclude sender.outgoing sent (channel.backward left.outbound.written)).result)

/-- Let a sender and a receiver, whose work is `serve`, meet over a channel. -/
def exchange (channel : Channel) (sender : SenderSide) (serve : Connection → Receiver.Served) :
    Except TransferError Sender.Report × Receiver.Served :=
  let (arriving, result) := attempt channel sender
  let served := serve arriving
  (result served.connection, served)

/--
Upload a file to a server over a channel; `none` if the server waits for a permit that it never
gets.  A file that cannot be sent never reaches the server.
-/
def uploadOver (channel : Channel) (config : Config) (files : FileTree) (working : Location)
    (path : Path) (address peer : SocketAddress) (clock : Clock) (service : Service) :
    Option (Except TransferError Sender.Report × Service) :=
  match Sender.prepare path (Sender.openSource files working path) with
  | .error error => some (.error error, service)
  | .ok outgoing => do
      let (arriving, result) := attempt channel ⟨config, address, outgoing, clock⟩
      let (service, handled, _) ← service.next (.connection peer arriving)
      match handled with
      | .served served => return (result served.connection, service)
      | .notAccepted _ => return (.error .noAck, service)

/-- Upload a file to a server over a reliable network. -/
def upload (config : Config) (files : FileTree) (working : Location) (path : Path)
    (address peer : SocketAddress) (clock : Clock) (service : Service) :
    Option (Except TransferError Sender.Report × Service) :=
  uploadOver .reliable config files working path address peer clock service

end FilePush
