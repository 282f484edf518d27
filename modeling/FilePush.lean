import FilePush.Exchange
import FilePush.Main
import FilePush.Proofs.Concurrency.Alone
import FilePush.Proofs.Concurrency.Interleaving
import FilePush.Proofs.Concurrency.Locality
import FilePush.Proofs.Concurrency.Serializability
import FilePush.Proofs.Concurrency.Worker
import FilePush.Proofs.Exchange.Agreement
import FilePush.Proofs.Exchange.Upload
import FilePush.Proofs.Exchange.Uploads
import FilePush.Proofs.FileTree.Entries
import FilePush.Proofs.FileTree.Folders
import FilePush.Proofs.Frame.Ack
import FilePush.Proofs.Frame.Decoding
import FilePush.Proofs.Frame.Header
import FilePush.Proofs.Name.Staging
import FilePush.Proofs.Receiver.Accounting
import FilePush.Proofs.Receiver.Answering
import FilePush.Proofs.Receiver.Awaiting
import FilePush.Proofs.Receiver.Brought
import FilePush.Proofs.Receiver.Course
import FilePush.Proofs.Receiver.Frame
import FilePush.Proofs.Receiver.LongPath
import FilePush.Proofs.Receiver.Payload
import FilePush.Proofs.Receiver.Persisting
import FilePush.Proofs.Receiver.Staged
import FilePush.Proofs.Receiver.Storing
import FilePush.Proofs.Sender.Frame
import FilePush.Proofs.Sender.Payload
import FilePush.Stream.Delivery
import FilePush.Proofs.Receiver.Truthfulness
import FilePush.Proofs.Receiver.Replacement
import FilePush.Proofs.FileTree.Walking
import FilePush.Proofs.Receiver.Confinement
import FilePush.Proofs.Frame.Streaming
import FilePush.Proofs.Receiver.Dependence
import FilePush.Proofs.Receiver.Commuting
import FilePush.Proofs.Sender.Endings
import FilePush.Proofs.Server.AcceptLoop
import FilePush.Proofs.Name.Safety
import FilePush.Proofs.Sampling.Sending
import FilePush.Proofs.Receiver.Independence
import FilePush.Proofs.Sender.Reporting
import FilePush.Proofs.Exchange.Naming
import FilePush.Proofs.Sender.Waiting
import FilePush.Proofs.Frame.Cuts
import FilePush.Proofs.Session.Chunks
import FilePush.Proofs.Sampling.Windows
import FilePush.Proofs.CommandLine.Groups
import FilePush.Proofs.CommandLine.Reading
import FilePush.Proofs.CommandLine.Grammar
import FilePush.Proofs.CommandLine.Limits
import FilePush.Proofs.Transfer.Payload
