/-
The public operations of an `LxmfRouter` as one type
(lxmf-rs/src/rns/router.rs).

# What an operation is

A setter, a mutable borrow of one of the parts, or one of the functions
that do something. A borrow is an arbitrary change of its part. Three
functions are such changes: `upsert_peer` of the peers, `enqueue` and the
two `receive_` functions of the runtime. `set_persistence_root` is not
here, so that a router keeps the root it was built with, and neither are
the setters of fields the model leaves out.
-/
import Lxmf.Router.Download
import Lxmf.Router.Inbound
import Lxmf.Router.Restart
import Lxmf.Router.Tick

namespace Lxmf

-- ============================================================= settings

inductive Setting where
  | enablePropagationNode (enable : Bool) (nowMs : Nat)
  | transferLimitsKb (delivery propagation sync : F64)
  | maxPeers (maxPeers : Option Nat)
  | fromStaticOnly (fromStaticOnly : Bool)
  | autopeerMaxdepth (maxdepth : Option Nat)
  | maxPeeringCost (maxCost : Nat)
  | staticPeers (peers : List Hash16)
  | allowControl (identityHash : Hash16)
  | controlAllowed (allowed : List Hash16)
  | messageStorageLimit (kilobytes megabytes gigabytes : Option Nat)
  | prioritiseDestination (destinationHash : Hash16)
  | unprioritiseDestination (destinationHash : Hash16)
  | enforceStamps (enforce : Bool)
  | authentication (required : Bool)
  | allowedIdentities (allowed : List Hash16)
  | allowIdentity (identityHash : Hash16)
  | ignoreDestination (destinationHash : Hash16)
  | unignoreDestination (destinationHash : Hash16)
  | propagationTransferState (state : UInt8)
  | propagationTransferLastResult (result : Option Nat)
  | propagationTransferProgress (progress : F64)
  | wantsDownloadOnPathAvailableFrom (nodeHash : Option Hash16)
  | wantsDownloadOnPathAvailableTo (identityHash : Option Hash16)
  | wantsDownloadOnPathAvailableTimeout (timeout : Option Nat)
  | propagationTransferMaxMessages (max : Option Nat)
  | inboundStampCost (destinationHash : Hash16) (stampCost : Option Nat)
  | peeringValidation (localIdentityHash : Hash16) (targetCost : Nat)
  | clearPeeringValidation
  | propagationValidation (stampCost stampCostFlex : Nat)
  | clearPropagationValidation
  | name (name : Option String)

/-- The limit of `set_message_storage_limit`, none when it is zero. -/
def storageLimitBytes (kilobytes megabytes gigabytes : Option Nat) :
    Option Nat :=
  let part (count : Option Nat) (unit : Nat) : Nat :=
    satMul64 (count.getD 0) unit
  let limitBytes := satAdd64 (satAdd64 (part kilobytes 1000)
    (part megabytes 1000000)) (part gigabytes 1000000000)
  if limitBytes = 0 then none else some limitBytes

namespace LxmfRouter

variable {σ : Type} (P : Platform)

def set (r : LxmfRouter σ) : Setting → LxmfRouter σ
  | .enablePropagationNode enable nowMs =>
      { r with
        propagationNodeEnabled := enable
        propagationStartedMs :=
          if enable then nowMs else r.propagationStartedMs }
  | .transferLimitsKb delivery propagation sync =>
      { r with
        deliveryTransferLimitKb := delivery.max (.fin 0)
        propagationTransferLimitKb := propagation.max (.fin 0)
        propagationSyncLimitKb := sync.max (.fin 0) }
  | .maxPeers maxPeers => { r with maxPeers := maxPeers }
  | .fromStaticOnly fromStaticOnly =>
      { r with fromStaticOnly := fromStaticOnly }
  | .autopeerMaxdepth maxdepth => { r with autopeerMaxdepth := maxdepth }
  | .maxPeeringCost maxCost => { r with maxPeeringCost := maxCost }
  | .staticPeers peers => { r with staticPeers := peers.toFinset }
  | .allowControl identityHash =>
      { r with controlAllowed := insert identityHash r.controlAllowed }
  | .controlAllowed allowed => { r with controlAllowed := allowed.toFinset }
  | .messageStorageLimit kilobytes megabytes gigabytes =>
      { r with
        propagationStoreLimitBytes :=
          storageLimitBytes kilobytes megabytes gigabytes }
  | .prioritiseDestination destinationHash =>
      { r with
        propagationPrioritised :=
          insert destinationHash r.propagationPrioritised }
  | .unprioritiseDestination destinationHash =>
      { r with
        propagationPrioritised :=
          r.propagationPrioritised.erase destinationHash }
  | .enforceStamps enforce => { r with enforceStamps := enforce }
  | .authentication required => { r with authRequired := required }
  | .allowedIdentities allowed =>
      { r with allowedIdentities := allowed.toFinset }
  | .allowIdentity identityHash =>
      { r with
        allowedIdentities := insert identityHash r.allowedIdentities }
  | .ignoreDestination destinationHash =>
      { r with
        ignoredDestinations :=
          insert destinationHash r.ignoredDestinations }
  | .unignoreDestination destinationHash =>
      { r with
        ignoredDestinations :=
          r.ignoredDestinations.erase destinationHash }
  | .propagationTransferState state =>
      { r with propagationTransferState := state }
  | .propagationTransferLastResult result =>
      { r with propagationTransferLastResult := result }
  | .propagationTransferProgress progress =>
      { r with propagationTransferProgress := progress }
  | .wantsDownloadOnPathAvailableFrom nodeHash =>
      { r with wantsDownloadOnPathAvailableFrom := nodeHash }
  | .wantsDownloadOnPathAvailableTo identityHash =>
      { r with wantsDownloadOnPathAvailableTo := identityHash }
  | .wantsDownloadOnPathAvailableTimeout timeout =>
      { r with wantsDownloadOnPathAvailableTimeout := timeout }
  | .propagationTransferMaxMessages max =>
      { r with propagationTransferMaxMessages := max }
  | .inboundStampCost destinationHash stampCost =>
      r.setInboundStampCost destinationHash stampCost
  | .peeringValidation localIdentityHash targetCost =>
      r.setPeeringValidation localIdentityHash targetCost
  | .clearPeeringValidation => r.clearPeeringValidation
  | .propagationValidation stampCost stampCostFlex =>
      r.setPropagationValidation stampCost stampCostFlex
  | .clearPropagationValidation => r.clearPropagationValidation
  | .name name => { r with name := name }

end LxmfRouter

-- =========================================================== operations

/-- The functions of the peer-sync exchange. -/
inductive PeerOperation where
  | buildPeerSyncRequest (peerId : Hash16) (req : PeerSyncRequest)
  | handlePeerSyncRequestBytes (peerId : Hash16) (payload : Bytes)
  | handlePeerSyncRequest (peerId : Hash16) (req : RnsRequest)
  | handlePeerSyncResponseBytes (requestId : Hash16) (payload : Bytes)
  | handlePeerSyncResponse (resp : RnsResponse)
  | peerSyncOffer (peerId : Hash16) (peeringKey : Bytes)
  | handlePeerSyncOffer (peerId : Hash16) (req : PeerSyncRequest)
  | peerSyncMessageGet (peerId : Hash16) (response : PeerSyncResponse)
      (transferLimitKb : Option F64)
  | handlePeerSyncMessageGet (peerId : Hash16) (req : PeerSyncRequest)
  | applyPeerSyncPayload (peerId : Hash16) (response : PeerSyncResponse)
  | handlePeerSyncAck (peerId : Hash16) (req : PeerSyncRequest)
  | applyPeerSyncResponse (peerId : Hash16) (response : PeerSyncResponse)
  | requestPeerSync (peerId : Hash16)
  | unpeer (peerId : Hash16)
  | rotatePeers
  | syncPeers (rng : OsRng)
  | enqueuePeerDistribution (transientId : Hash32)
      (fromPeer : Option Hash16)
  | flushPeerDistributionQueue
  | flushQueues
  | popPeerSyncRequest
  | popPeerSyncResponse
  | popPeerSyncOutbound
  | popControlResponse

/-- The functions that touch a ticket, a stamp cost or a transient id. -/
inductive TableOperation where
  | setOutboundStampCost (destinationHash : Hash16)
      (stampCost : Option Nat)
  | cleanOutboundStampCosts
  | markLocalDelivery (transientId : Hash32)
  | markLocallyProcessed (transientId : Hash32)
  | generateTicket (destinationHash : Hash16) (rng : OsRng)
  | rememberTicket (destinationHash : Hash16) (expiresAtS : F64)
      (ticket : Bytes)
  | markTicketDelivered (destinationHash : Hash16)
  | cleanTickets
  | cleanTransientIdCaches

/-- The rest of what a router does. -/
inductive Operation (σ : Type) where
  | set (setting : Setting)
  | runtimeMut (f : LxmfRuntime σ → LxmfRuntime σ)
  | peersMut (f : PeerTable → PeerTable)
  | propagationStoreMut (f : PropagationStore → PropagationStore)
  | nodeStatsMut (f : NodeStats → NodeStats)
  | links (f : LinkTracker → LinkTracker)
  | table (op : TableOperation) (nowMs : Nat)
  | peer (op : PeerOperation) (nowMs : Nat)
  | download (event : DownloadEvent)
  | handleOutbound (message : LXMessage) (mode : DeliveryMode)
      (nowMs : Nat) (rng : OsRng) (free : Bool)
  | processDeferredStamps (nowMs maxItems : Nat)
  | processInboundMessage (message : LXMessage) (nowMs : Nat)
      (signatureValidated noStampEnforcement : Bool)
  | processPropagated (timestamp : F64) (lxmData : Bytes) (nowMs : Nat)
      (sourceHash : Option Hash16) (countClientReceive : Bool)
  | processPropagationResource (remoteHash : Option Hash16)
      (peeringKey : Option Bytes) (messages : List Bytes)
      (transferLimitKb : Option F64) (nowMs : Nat)
  | handlePropagationResourcePayload (remoteHash : Option Hash16)
      (peeringKey : Option Bytes) (transferLimitKb : Option F64)
      (payload : Bytes) (nowMs : Nat)
  | processInboundQueue (nowMs : Nat) (signatureValidated : Bool)
  | cleanPropagationStore (nowMs : Nat)
  | cleanupPropagation (nowMs maxAgeMs : Nat)
  | savePeers
  | tick (nowMs : Nat) (deliver : Nat → Deliver) (rng : OsRng)
      (free : Bool)
  | stampThread (thread : LxmfRouter.StampThread) (free : Bool)

namespace LxmfRouter

variable {σ : Type} (P : Platform)

/-- `handle_peer_sync_response`. -/
def handlePeerSyncResponse (r : LxmfRouter σ) (resp : RnsResponse)
    (nowMs : Nat) : Except RnsError (Option RnsRequest) × LxmfRouter σ :=
  match valueToBytes resp.data with
  | none =>
      (.error (.msgpack "peer sync response data must be binary"), r)
  | some payload =>
      r.handlePeerSyncResponseBytes P resp.requestId payload nowMs

/-- `save_peers` to the root of the router. -/
def savePeers (r : LxmfRouter σ) : LxmfRouter σ :=
  r.persist fun disk =>
    r.peers.values.foldl (fun d peer => d.savePeer P peer) disk

def performTable (r : LxmfRouter σ) (nowMs : Nat) :
    TableOperation → LxmfRouter σ
  | .setOutboundStampCost destinationHash stampCost =>
      r.setOutboundStampCost P destinationHash stampCost nowMs
  | .cleanOutboundStampCosts => (r.cleanOutboundStampCosts P nowMs).2
  | .markLocalDelivery transientId =>
      r.markLocalDelivery P transientId nowMs
  | .markLocallyProcessed transientId =>
      r.markLocallyProcessed P transientId nowMs
  | .generateTicket destinationHash rng =>
      (r.generateTicket P destinationHash nowMs rng).2
  | .rememberTicket destinationHash expiresAtS ticket =>
      r.rememberTicket P destinationHash expiresAtS ticket
  | .markTicketDelivered destinationHash =>
      r.markTicketDelivered P destinationHash nowMs
  | .cleanTickets => r.cleanTickets P nowMs
  | .cleanTransientIdCaches => (r.cleanTransientIdCaches P nowMs).2

def performPeer (r : LxmfRouter σ) (nowMs : Nat) :
    PeerOperation → LxmfRouter σ
  | .buildPeerSyncRequest peerId req =>
      (r.buildPeerSyncRequest P peerId req nowMs).2
  | .handlePeerSyncRequestBytes peerId payload =>
      (r.handlePeerSyncRequestBytes P peerId payload nowMs).2
  | .handlePeerSyncRequest peerId req =>
      (r.handlePeerSyncRequest P peerId req nowMs).2
  | .handlePeerSyncResponseBytes requestId payload =>
      (r.handlePeerSyncResponseBytes P requestId payload nowMs).2
  | .handlePeerSyncResponse resp =>
      (r.handlePeerSyncResponse P resp nowMs).2
  | .peerSyncOffer peerId peeringKey =>
      (r.peerSyncOffer peerId peeringKey nowMs).2
  | .handlePeerSyncOffer peerId req =>
      (r.handlePeerSyncOffer P peerId req nowMs).2
  | .peerSyncMessageGet peerId response transferLimitKb =>
      (r.peerSyncMessageGet peerId response transferLimitKb nowMs).2
  | .handlePeerSyncMessageGet peerId req =>
      (r.handlePeerSyncMessageGet P peerId req nowMs).2
  | .applyPeerSyncPayload peerId response =>
      (r.applyPeerSyncPayload P peerId response nowMs).2
  | .handlePeerSyncAck peerId req =>
      (r.handlePeerSyncAck peerId req nowMs).2
  | .applyPeerSyncResponse peerId response =>
      r.applyPeerSyncResponse peerId response nowMs
  | .requestPeerSync peerId => (r.requestPeerSync peerId nowMs).2
  | .unpeer peerId => (r.unpeer peerId).2
  | .rotatePeers => r.rotatePeers
  | .syncPeers rng => r.syncPeers P nowMs rng
  | .enqueuePeerDistribution transientId fromPeer =>
      r.enqueuePeerDistribution transientId fromPeer
  | .flushPeerDistributionQueue => r.flushPeerDistributionQueue
  | .flushQueues => r.flushQueues
  | .popPeerSyncRequest => { r with peerSyncQueue := r.peerSyncQueue.tail }
  | .popPeerSyncResponse =>
      { r with peerSyncResponses := r.peerSyncResponses.tail }
  | .popPeerSyncOutbound =>
      { r with peerSyncOutbound := r.peerSyncOutbound.tail }
  | .popControlResponse =>
      { r with controlResponses := r.controlResponses.tail }

def perform [MessageStore σ] (r : LxmfRouter σ) :
    Operation σ → LxmfRouter σ
  | .set setting => r.set setting
  | .runtimeMut f => { r with runtime := f r.runtime }
  | .peersMut f => { r with peers := f r.peers }
  | .propagationStoreMut f =>
      { r with propagationStore := f r.propagationStore }
  | .nodeStatsMut f => { r with nodeStats := f r.nodeStats }
  | .links f => r.mapLinks f
  | .table op nowMs => r.performTable P nowMs op
  | .peer op nowMs => r.performPeer P nowMs op
  | .download event => r.download P event
  | .handleOutbound message mode nowMs rng free =>
      (r.handleOutbound P message mode nowMs rng free).2
  | .processDeferredStamps nowMs maxItems =>
      (r.processDeferredStamps nowMs maxItems).2
  | .processInboundMessage message nowMs signatureValidated
      noStampEnforcement =>
      (r.processInboundMessage P message nowMs signatureValidated
        noStampEnforcement).2
  | .processPropagated timestamp lxmData nowMs sourceHash count =>
      (r.processPropagated P timestamp lxmData nowMs sourceHash count).2
  | .processPropagationResource remoteHash peeringKey messages limit
      nowMs =>
      (r.processPropagationResource P remoteHash peeringKey messages limit
        nowMs).2
  | .handlePropagationResourcePayload remoteHash peeringKey limit payload
      nowMs =>
      (r.handlePropagationResourcePayload P remoteHash peeringKey limit
        payload nowMs).2
  | .processInboundQueue nowMs signatureValidated =>
      (r.processInboundQueue P nowMs signatureValidated).2
  | .cleanPropagationStore nowMs => (r.cleanPropagationStore nowMs).2
  | .cleanupPropagation nowMs maxAgeMs =>
      (r.cleanupPropagation nowMs maxAgeMs).2
  | .savePeers => r.savePeers P
  | .tick nowMs deliver rng free =>
      (r.tick P nowMs deliver rng free).2
  | .stampThread thread free => (r.stepThread free thread).2

/-- A run of operations. -/
def performAll [MessageStore σ] (r : LxmfRouter σ)
    (ops : List (Operation σ)) : LxmfRouter σ :=
  ops.foldl (perform P) r

end LxmfRouter

end Lxmf
