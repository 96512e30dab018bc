import Lxmf.Library.Except
import Lxmf.Library.Framing
import Lxmf.Library.Cbc
import Lxmf.Wire
import Lxmf.Interfaces
import Lxmf.Identity
import Lxmf.Link
import Lxmf.Node
import Lxmf.Proofs.Wire
import Lxmf.Proofs.Interfaces
import Lxmf.Proofs.Identity
import Lxmf.Library.Sha256
import Lxmf.Library.Shedding
import Lxmf.Library.Run
import Lxmf.Library.Custody
import Lxmf.Library.Assembly
import Lxmf.Library.Ledger
import Lxmf.Basic
import Lxmf.Value
import Lxmf.Platform
import Lxmf.Mesh
import Lxmf.Message
import Lxmf.Reference
import Lxmf.Transport
import Lxmf.Resource
import Lxmf.ResourceExchange
import Lxmf.Storage
import Lxmf.Peer
import Lxmf.Restore
import Lxmf.RnsRouter
import Lxmf.FileStore
import Lxmf.PeerBytes
import Lxmf.Directory
import Lxmf.Router.State
import Lxmf.Router.PeerSync
import Lxmf.Router.Inbound
import Lxmf.Router.Jobs
import Lxmf.Router.Download
import Lxmf.Router.Restart
import Lxmf.Router.Tick
import Lxmf.Router.Operations
import Lxmf.Proofs.Message
import Lxmf.Proofs.Transport
import Lxmf.Proofs.Outbound
import Lxmf.Proofs.PeerSync
import Lxmf.Proofs.PeeringKey
import Lxmf.Proofs.Inbound
import Lxmf.Proofs.InLinks
import Lxmf.Proofs.DeliveredCache
import Lxmf.Proofs.Destinations
import Lxmf.Proofs.InboundQueue
import Lxmf.Proofs.Deferred
import Lxmf.Proofs.Network
import Lxmf.Proofs.Node
import Lxmf.Proofs.NetworkStamps
import Lxmf.Proofs.Store
import Lxmf.Proofs.Resource
import Lxmf.Proofs.Reception
import Lxmf.Proofs.Shelf
import Lxmf.Proofs.ShelfEvents
import Lxmf.Proofs.Authentication
import Lxmf.Proofs.Binding
import Lxmf.Proofs.Retention
import Lxmf.Proofs.PeerTable
import Lxmf.Proofs.Throttle
import Lxmf.Proofs.Admission
import Lxmf.Proofs.Numerals
import Lxmf.Proofs.Restart
import Lxmf.Proofs.FileStore
import Lxmf.Proofs.TwoStores
import Lxmf.Proofs.MessageIds
import Lxmf.Proofs.TransientIds
import Lxmf.Proofs.Handshake
import Lxmf.Proofs.HashUpdates
import Lxmf.Proofs.Download
import Lxmf.Library.Lookup
import Lxmf.Proofs.Tables
import Lxmf.Proofs.PeerCodec
import Lxmf.Proofs.Frames
import Lxmf.Proofs.Persistence
import Lxmf.Library.Outstanding
import Lxmf.Library.Packing
import Lxmf.Proofs.Requests
import Lxmf.Proofs.Tickets
import Lxmf.Proofs.TicketReuse
import Lxmf.Proofs.Timeouts
import Lxmf.Proofs.StampArithmetic
import Lxmf.Library.WorkQueue
import Lxmf.Proofs.Drain
import Lxmf.Library.Cells
import Lxmf.RequestTracker
import Lxmf.Proofs.RequestReceipts
import Lxmf.Proofs.PeerSyncWire
import Lxmf.Proofs.Transfer
import Lxmf.Library.Leases
import Lxmf.Proofs.Link
import Lxmf.Proofs.LinkAgreement
import Lxmf.Proofs.Links
import Lxmf.Proofs.Cleanup
import Lxmf.Proofs.Rotation
import Lxmf.Proofs.SyncPeers
import Lxmf.Library.Marks
import Lxmf.Proofs.Distribution
import Lxmf.Library.Registers
import Lxmf.PnDir
import Lxmf.Proofs.PnDir
import Lxmf.Proofs.PnDirWire
import Lxmf.Proofs.Announce
import Lxmf.Proofs.RequestIds
import Lxmf.Proofs.Readvertising
import Lxmf.ResourceReceipts
import Lxmf.Proofs.ResourceReceipts
import Lxmf.Proofs.ResourceFrames
import Lxmf.Proofs.StampPromise
import Lxmf.ReferenceCrypto
import Lxmf.Wires
import Lxmf.NodeRouter
import Lxmf.Proofs.Flood
import Lxmf.Proofs.OpenLinks
import Lxmf.Proofs.NodeRouter
import Lxmf.Library.Broadcast
import Lxmf.Polling
import Lxmf.Proofs.Polling
import Lxmf.Proofs.Copies
import Lxmf.Python
import Lxmf.Proofs.PythonMessages
import Lxmf.Proofs.PythonStamps
import Lxmf.Proofs.PythonAnnounce
