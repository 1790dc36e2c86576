import Courier.Bytes.Lemmas
import Courier.Clock
import Courier.Mesh
import Courier.Telemetry.Exposition
import Courier.Telemetry.Process
import Courier.Transaction.Outcome
import Courier.Transaction.Sender
import Courier.Proofs.Mesh.TornLink
import Courier.Proofs.Pool.Run
import Courier.Proofs.Peer.Packet
import Courier.Proofs.Pool.Admission
import Courier.Proofs.Pool.Strongest
import Courier.Proofs.Rlp.Canonical
import Courier.Proofs.Transaction.Codec
import Courier.Proofs.Signature
import Courier.Proofs.Transaction.Check
import Courier.Proofs.Transaction.Signing
import Courier.Proofs.Transaction.Memory
import Courier.Proofs.Message
import Courier.Proofs.Watch.History
import Courier.Proofs.Host.Refusal
import Courier.Proofs.Host.Reports
import Courier.Proofs.Host.Echo
import Courier.Proofs.Host.Parts
import Courier.Proofs.Host.Balance
import Courier.Proofs.Host.Synchronisation
import Courier.Proofs.Pool.Sweeping
import Courier.Proofs.Transaction.Recovery
import Courier.Proofs.Transaction.Preimage
import Courier.Proofs.Envelope.Commitment
import Courier.Proofs.Envelope.Search
import Courier.Proofs.Envelope.LeadingZeros
import Courier.Proofs.Transaction.Fault
import Courier.Proofs.Topic.Opening
import Courier.Proofs.Host.Lifetime
