/-
The state of an `LxmfRouter`: the runtime it drives, tickets, links,
caches and their persistence (lxmf-rs/src/rns/router.rs).

# What is left out

The fields no modelled function reads: the queue of PN announcements, the
throttle table, the autopeer switch, the duplicates of the last transfer.
Callbacks observe and return nothing.

# Shared state

The stamp thread shares a queue, a flag and a channel with the router.
They are fields here; what a `try_lock` finds is an argument of the
function that tries it.
-/
import Lxmf.RnsRouter
import Lxmf.Peer
import Lxmf.Directory

namespace Lxmf

-- ============================================================= requests

/-- A request that was sent and has no response yet. -/
structure PendingRequest where
  requestId : Hash16
  pathHash : Hash16
  sentAtMs : Nat
  timeoutMs : Nat
deriving DecidableEq

/-- The requests of a router, and the responses to them, by request id. -/
structure RnsRequestManager where
  pending : HashMap Hash16 PendingRequest
  responses : HashMap Hash16 RnsResponse

namespace RnsRequestManager

def new : RnsRequestManager := ⟨∅, ∅⟩

/-- `register_request`. The source panics when the request does not
encode, which writing into a buffer never does. -/
def registerRequest (P : Platform) (mgr : RnsRequestManager)
    (destinationHash : Hash16) (path : Option String) (data : Value)
    (nowMs timeoutMs : Nat) :
    Except RnsError (RnsRequest × RnsRequestManager) := do
  let pathHash :=
    match path with
    | some path => requestPathHash P path
    | none => List.Vector.replicate destinationLength 0
  let req : RnsRequest :=
    { requestId := List.Vector.replicate destinationLength 0
      requestedAt := nowS nowMs
      pathHash := pathHash
      data := data }
  let payload ← encodeRequestBytes P req
  let requestId := requestIdForDestination P destinationHash payload
  let pending : PendingRequest :=
    { requestId, pathHash, sentAtMs := nowMs, timeoutMs }
  return ({ req with requestId := requestId },
    { mgr with pending := mgr.pending.insert requestId pending })

/-- `record_response`: a response is kept if its request is pending, once.
-/
def recordResponse (mgr : RnsRequestManager) (response : RnsResponse) :
    Bool × RnsRequestManager :=
  if response.requestId ∈ mgr.pending then
    (true, {
      pending := mgr.pending.erase response.requestId
      responses := mgr.responses.insert response.requestId response })
  else (false, mgr)

/-- `poll_timeouts`: the ids of the requests that waited for too long,
which are pending no more. -/
def pollTimeouts (mgr : RnsRequestManager) (nowMs : Nat) :
    List Hash16 × RnsRequestManager :=
  let timedOut := (mgr.pending.entries.filter fun e =>
    e.2.timeoutMs ≤ nowMs - e.2.sentAtMs).map (·.1)
  (timedOut, { mgr with
    pending := timedOut.foldl (fun p id => p.erase id) mgr.pending })

end RnsRequestManager

-- ============================================================== tickets

/-- A ticket and the time, in seconds, it expires at. -/
structure TicketEntry where
  expiresAtS : F64
  ticket : Bytes
deriving DecidableEq

/-- The tickets of a router: those it was given, by whom it sends to; those
it issued, by who may use them; and when it last sent one. -/
structure TicketStore where
  outbound : HashMap Hash16 TicketEntry
  inbound : HashMap Hash16 (HashMap Bytes F64)
  lastDeliveries : HashMap Hash16 F64

namespace TicketStore

/-- The tickets issued to `destinationHash`, none when it has no entry. -/
def issued (ts : TicketStore) (destinationHash : Hash16) :
    HashMap Bytes F64 :=
  (ts.inbound.lookup destinationHash).getD ∅

/-- The first issued ticket far enough from its expiry. -/
def reusable (ts : TicketStore) (destinationHash : Hash16) (now : F64) :
    Option TicketEntry :=
  ((ts.issued destinationHash).entries.find? fun e =>
    (F64.fin ticketRenew).lt (e.2.sub now)).map
      fun e => ⟨e.2, e.1⟩

/-- A ticket was delivered less than `TICKET_INTERVAL` ago. -/
def recentlyDelivered (ts : TicketStore) (destinationHash : Hash16)
    (now : F64) : Bool :=
  match ts.lastDeliveries.lookup destinationHash with
  | some lastDelivery => (now.sub lastDelivery).lt (.fin ticketInterval)
  | none => false

/-- `generate_ticket`: none while the last one is fresh, else one that was
issued and is far from its expiry, else a new one. -/
def generateTicket (ts : TicketStore) (destinationHash : Hash16)
    (nowMs expiryS : Nat) (rng : OsRng) :
    Option TicketEntry × TicketStore :=
  let now := nowS nowMs
  if ts.recentlyDelivered destinationHash now then (none, ts)
  else
    match ts.reusable destinationHash now with
    | some entry => (some entry, ts)
    | none =>
        let ticket := (rng.fillBytes ticketLength 0).toList
        let expiresAtS := now.add (.fin expiryS)
        (some ⟨expiresAtS, ticket⟩, { ts with
          inbound := ts.inbound.insert destinationHash
            ((ts.issued destinationHash).insert ticket expiresAtS) })

/-- `remember_ticket`: in place of the one that was given before. -/
def rememberTicket (ts : TicketStore) (destinationHash : Hash16)
    (entry : TicketEntry) : TicketStore :=
  { ts with outbound := ts.outbound.insert destinationHash entry }

/-- `get_outbound_ticket`, if it has not expired. -/
def getOutboundTicket (ts : TicketStore) (destinationHash : Hash16)
    (nowMs : Nat) : Option Bytes :=
  match ts.outbound.lookup destinationHash with
  | some entry =>
      if (nowS nowMs).lt entry.expiresAtS then some entry.ticket else none
  | none => none

/-- `get_inbound_tickets`: the unexpired ones, if there are any. -/
def getInboundTickets (ts : TicketStore) (destinationHash : Hash16)
    (nowMs : Nat) : Option (List Bytes) :=
  let tickets := ((ts.issued destinationHash).entries.filter fun e =>
    (nowS nowMs).lt e.2).map (·.1)
  if tickets.isEmpty then none else some tickets

/-- `mark_ticket_delivered`. -/
def markTicketDelivered (ts : TicketStore) (destinationHash : Hash16)
    (nowMs : Nat) : TicketStore :=
  { ts with
    lastDeliveries := ts.lastDeliveries.insert destinationHash (nowS nowMs) }

/-- `clean_expired`. A ticket that was issued has a time of grace. -/
def cleanExpired (ts : TicketStore) (nowMs : Nat) : TicketStore :=
  let now := nowS nowMs
  { ts with
    outbound := HashMap.retain ts.outbound fun _ entry =>
      now.lt entry.expiresAtS
    inbound := ts.inbound.keys.foldl (fun m dest =>
      m.insert dest (HashMap.retain (ts.issued dest) fun _ expiresAt =>
        now.le (expiresAt.add (.fin ticketGrace)))) ts.inbound }

/-- `snapshot`, which is what is written to the disk. -/
def snapshot (ts : TicketStore) : TicketStoreSnapshot where
  outbound := ts.outbound.entries.foldl
    (fun m e => m.insert e.1 (e.2.expiresAtS, e.2.ticket)) ∅
  inbound := ts.inbound
  lastDeliveries := ts.lastDeliveries

end TicketStore

/-- `key.as_i64().map(|v| v as u64)`. -/
def keyAsU64 (key : Value) : Option Nat :=
  key.asI64.map fun v => (BitVec.ofInt 64 v).toNat

/-- `insert_ticket_field`: a non-map is replaced, an old ticket goes. -/
def insertTicketField (fields : Value) (expiresAtS : F64)
    (ticket : Bytes) : Value :=
  let entries :=
    match fields with
    | .map map => map
    | _ => []
  .map (entries.filter (fun e => decide (keyAsU64 e.1 ≠ some fieldTicket))
    ++ [(.ofNat fieldTicket,
      .array [.f64 expiresAtS, .binary ticket])])

/-- The value of a ticket field. -/
def ticketOfValue : Value → Option (F64 × Bytes)
  | .array (expires :: .binary ticket :: _) => do
      let expiresAtS ← valueToF64 expires
      if ticket.length = ticketLength then some (expiresAtS, ticket)
      else none
  | _ => none

/-- The loop of `extract_ticket_field`: it ends at the first key that is
no `i64`, and at the first ticket key whatever its value. -/
def extractTicketEntry : List (Value × Value) → Option (F64 × Bytes)
  | [] => none
  | (key, val) :: rest =>
      match keyAsU64 key with
      | none => none
      | some keyId =>
          if keyId = fieldTicket then ticketOfValue val
          else extractTicketEntry rest

/-- `extract_ticket_field`. -/
def extractTicketField : Value → Option (F64 × Bytes)
  | .map entries => extractTicketEntry entries
  | _ => none

-- ================================================================ links

/-- A link to another end, and when it was last used. -/
structure DirectLinkInfo where
  linkId : Hash16
  lastActivityMs : Nat
deriving DecidableEq

/-- A link to a propagation node. -/
structure PropagationLinkInfo where
  linkId : Hash16
  lastActivityMs : Nat
  isClosed : Bool
deriving DecidableEq

/-- The links that a router keeps: one for each destination, those to
propagation nodes, the one it downloads over, and the peers that identified
themselves. -/
structure LinkTracker where
  directLinks : HashMap Hash16 DirectLinkInfo
  activePropagationLinks : List PropagationLinkInfo
  outboundPropagationLink : Option PropagationLinkInfo
  validatedPeerLinks : Finset Hash16

/-- The states of a download from a propagation node. -/
abbrev prIdle : UInt8 := 0x00
abbrev prPathRequested : UInt8 := 0x01
abbrev prLinkEstablishing : UInt8 := 0x02
abbrev prLinkEstablished : UInt8 := 0x03
abbrev prRequestSent : UInt8 := 0x04
abbrev prComplete : UInt8 := 0x07
abbrev prNoPath : UInt8 := 0xf0
abbrev prLinkFailed : UInt8 := 0xf1
abbrev prTransferFailed : UInt8 := 0xf2

-- ============================================================== runtime

/-- `RuntimeConfig`, with its `Default`. -/
structure RuntimeConfig where
  outboundIntervalMs : Nat := 1000
  inflightIntervalMs : Nat := 1000
  requestIntervalMs : Nat := 1000
  pnIntervalMs : Nat := 5000
  storeIntervalMs : Nat := 8 * 60 * 1000
  name : Option String := none
deriving DecidableEq

/-- The queues below, the requests, and when each job last ran. -/
structure LxmfRuntime (σ : Type) where
  router : RnsRouter σ
  requests : RnsRequestManager
  config : RuntimeConfig
  lastOutboundMs : Nat
  lastInflightMs : Nat
  lastRequestMs : Nat
  lastPnMs : Nat
  lastStoreMs : Nat
  processingCount : Nat

/-- `LxmfRuntime::with_config`. -/
def LxmfRuntime.withConfig {σ : Type} (router : RnsRouter σ)
    (config : RuntimeConfig) : LxmfRuntime σ where
  router := router
  requests := .new
  config := config
  lastOutboundMs := 0
  lastInflightMs := 0
  lastRequestMs := 0
  lastPnMs := 0
  lastStoreMs := 0
  processingCount := 0

/-- `RnsRouter::local_identity_hash`. -/
def RnsRouter.localIdentityHash {σ : Type} (r : RnsRouter σ) : Hash16 :=
  r.delivery.sourceIdentity

-- =========================================================== the router

/-- A message that waits for its stamp. -/
structure DeferredOutbound where
  message : LXMessage
  mode : DeliveryMode
deriving DecidableEq

/-- What a peer was asked and has not answered. -/
structure PeerSyncPending where
  peerId : Hash16
  request : PeerSyncRequest
deriving DecidableEq

/-- The router: its runtime, its peers, what it stores and files, and its
settings. -/
structure LxmfRouter (σ : Type) where
  runtime : LxmfRuntime σ
  peers : PeerTable
  staticPeers : Finset Hash16
  ignoredDestinations : Finset Hash16
  allowedIdentities : Finset Hash16
  authRequired : Bool
  pnDirectory : PnDirectory
  propagationStore : PropagationStore
  propagationStoreLimitBytes : Option Nat
  propagationPrioritised : Finset Hash16
  nodeStats : NodeStats
  outboundStampCosts : HashMap Hash16 (F64 × Nat)
  inboundStampCosts : HashMap Hash16 Nat
  ticketStore : TicketStore
  deferredOutbound : List DeferredOutbound
  peerSyncQueue : List (Hash16 × PeerSyncRequest)
  peerSyncPending : HashMap Hash16 PeerSyncPending
  peerSyncResponses : List (Hash16 × RnsResponse)
  peerSyncOutbound : List (Hash16 × RnsRequest)
  controlResponses : List (Hash16 × RnsResponse)
  controlAllowed : Finset Hash16
  propagationNodeEnabled : Bool
  propagationStartedMs : Nat
  deliveryTransferLimitKb : F64
  propagationTransferLimitKb : F64
  propagationSyncLimitKb : F64
  maxPeeringCost : Nat
  maxPeers : Option Nat
  autopeerMaxdepth : Option Nat
  fromStaticOnly : Bool
  enforceStamps : Bool
  localDeliveries : HashMap Hash32 F64
  locallyProcessed : HashMap Hash32 F64
  persistenceRoot : Option Disk
  peeringValidation : Option PeeringValidation
  propagationValidation : Option PropagationValidation
  linkTracker : LinkTracker
  propagationTransferState : UInt8
  propagationTransferLastResult : Option Nat
  propagationTransferProgress : F64
  wantsDownloadOnPathAvailableFrom : Option Hash16
  wantsDownloadOnPathAvailableTo : Option Hash16
  wantsDownloadOnPathAvailableTimeout : Option Nat
  prioritiseRotatingUnreachablePeers : Bool
  peerDistributionQueue : List (Hash32 × Option Hash16)
  deferredOutboundShared : List DeferredOutbound
  stampProcessingActive : Bool
  /-- The items in the channel; `none` until the channel is created. -/
  processedDeferred : Option (List DeferredOutbound)
  name : Option String
  outboundPropagationNode : Option Hash16
  propagationTransferMaxMessages : Option Nat
  /-- The message requests: node, identity and limit. -/
  pnMessageRequests : List (Hash16 × Hash16 × Option Nat)
  pnPathRequests : List Hash16

namespace LxmfRouter

variable {σ : Type}

/-- The state `new` and `with_config` share. -/
def build (router : RnsRouter σ) (config : RuntimeConfig)
    (channel : Option (List DeferredOutbound)) (systemNowMs : Nat) :
    LxmfRouter σ where
  runtime := .withConfig router config
  peers := ∅
  staticPeers := ∅
  ignoredDestinations := ∅
  allowedIdentities := ∅
  authRequired := false
  pnDirectory := ∅
  propagationStore := .new
  propagationStoreLimitBytes := none
  propagationPrioritised := ∅
  nodeStats := {}
  outboundStampCosts := ∅
  inboundStampCosts := ∅
  ticketStore := ⟨∅, ∅, ∅⟩
  deferredOutbound := []
  peerSyncQueue := []
  peerSyncPending := ∅
  peerSyncResponses := []
  peerSyncOutbound := []
  controlResponses := []
  controlAllowed := {router.localIdentityHash}
  propagationNodeEnabled := false
  propagationStartedMs := systemNowMs
  deliveryTransferLimitKb := .fin 1000
  propagationTransferLimitKb := .fin 256
  propagationSyncLimitKb := .fin (256 * 40)
  maxPeeringCost := 26
  maxPeers := none
  autopeerMaxdepth := none
  fromStaticOnly := false
  enforceStamps := true
  localDeliveries := ∅
  locallyProcessed := ∅
  persistenceRoot := none
  peeringValidation := some ⟨router.localIdentityHash, defaultPeeringCost⟩
  propagationValidation :=
    some ⟨defaultPropagationStampCost, defaultPropagationStampFlex⟩
  linkTracker := ⟨∅, [], none, ∅⟩
  propagationTransferState := prIdle
  propagationTransferLastResult := none
  propagationTransferProgress := .fin 0
  wantsDownloadOnPathAvailableFrom := none
  wantsDownloadOnPathAvailableTo := none
  wantsDownloadOnPathAvailableTimeout := none
  prioritiseRotatingUnreachablePeers := false
  peerDistributionQueue := []
  deferredOutboundShared := []
  stampProcessingActive := false
  processedDeferred := channel
  name := config.name
  outboundPropagationNode := none
  propagationTransferMaxMessages := none
  pnMessageRequests := []
  pnPathRequests := []

/-- `new`: without the channel of the stamp thread. -/
def new (router : RnsRouter σ) (systemNowMs : Nat) : LxmfRouter σ :=
  build router {} none systemNowMs

/-- `with_config`: with that channel. -/
def withConfig (router : RnsRouter σ) (config : RuntimeConfig)
    (systemNowMs : Nat) : LxmfRouter σ :=
  build router config (some []) systemNowMs

/-- An update of the queues below. -/
def mapRouter (r : LxmfRouter σ) (f : RnsRouter σ → RnsRouter σ) :
    LxmfRouter σ :=
  { r with runtime := { r.runtime with router := f r.runtime.router } }

@[simp] theorem mapRouter_router (r : LxmfRouter σ)
    (f : RnsRouter σ → RnsRouter σ) :
    (r.mapRouter f).runtime.router = f r.runtime.router := rfl

-- ----------------------------------------------------------- settings

/-- Peering keys are checked from now on. -/
def setPeeringValidation (r : LxmfRouter σ) (localIdentityHash : Hash16)
    (targetCost : Nat) : LxmfRouter σ :=
  { r with peeringValidation := some ⟨localIdentityHash, targetCost⟩ }

/-- Every peering key is accepted from now on. -/
def clearPeeringValidation (r : LxmfRouter σ) : LxmfRouter σ :=
  { r with peeringValidation := none }

/-- PN stamps are checked from now on. -/
def setPropagationValidation (r : LxmfRouter σ)
    (stampCost stampCostFlex : Nat) : LxmfRouter σ :=
  { r with propagationValidation := some ⟨stampCost, stampCostFlex⟩ }

/-- Every propagated message is accepted from now on. -/
def clearPropagationValidation (r : LxmfRouter σ) : LxmfRouter σ :=
  { r with propagationValidation := none }

/-- `set_inbound_stamp_cost`: a cost of zero is no cost. -/
def setInboundStampCost (r : LxmfRouter σ) (destinationHash : Hash16)
    (stampCost : Option Nat) : LxmfRouter σ :=
  match stampCost with
  | some (cost + 1) =>
      { r with
        inboundStampCosts :=
          r.inboundStampCosts.insert destinationHash (cost + 1) }
  | _ =>
      { r with
        inboundStampCosts := r.inboundStampCosts.erase destinationHash }

-- -------------------------------------------------------- persistence

/-- A change to the storage root, when there is one. -/
def persist (r : LxmfRouter σ) (f : Disk → Disk) : LxmfRouter σ :=
  { r with persistenceRoot := r.persistenceRoot.map f }

variable (P : Platform)

/-- The tickets are written to the root. -/
def persistTicketStore (r : LxmfRouter σ) : LxmfRouter σ :=
  r.persist (Disk.saveAvailableTickets P r.ticketStore.snapshot)

/-- The stamp costs of others are written to the root. -/
def persistOutboundStampCosts (r : LxmfRouter σ) : LxmfRouter σ :=
  r.persist (Disk.saveOutboundStampCosts P r.outboundStampCosts)

/-- An entry gets its file under the root. -/
def persistPropagationEntry (r : LxmfRouter σ) (entry : PropagationEntry) :
    LxmfRouter σ :=
  r.persist (Disk.savePropagationEntry P entry)

/-- `remove_propagation_entry_exact`: the file the store names, or every
file of the id when it names none. -/
def removePropagationEntryExact (r : LxmfRouter σ)
    (entry : PropagationEntry) : LxmfRouter σ :=
  match r.propagationStore.filename entry.transientId with
  | some filename => r.persist (Disk.removePropagationEntryNamed filename)
  | none => r.persist (Disk.removePropagationEntry entry.transientId)

/-- Both caches of transient ids are written to the root. -/
def saveLocalCaches (r : LxmfRouter σ) : LxmfRouter σ :=
  r.persist fun disk =>
    Disk.saveLocallyProcessed P r.locallyProcessed
      (Disk.saveLocalDeliveries P r.localDeliveries disk)

/-- A message was delivered here. -/
def markLocalDelivery (r : LxmfRouter σ) (transientId : Hash32)
    (nowMs : Nat) : LxmfRouter σ :=
  saveLocalCaches P { r with
    localDeliveries := r.localDeliveries.insert transientId (nowS nowMs) }

/-- A message was filed here. -/
def markLocallyProcessed (r : LxmfRouter σ) (transientId : Hash32)
    (nowMs : Nat) : LxmfRouter σ :=
  saveLocalCaches P { r with
    locallyProcessed := r.locallyProcessed.insert transientId (nowS nowMs) }

/-- `set_outbound_stamp_cost`: a cost of zero is no cost. -/
def setOutboundStampCost (r : LxmfRouter σ) (destinationHash : Hash16)
    (stampCost : Option Nat) (nowMs : Nat) : LxmfRouter σ :=
  let costs :=
    match stampCost with
    | some (cost + 1) =>
        r.outboundStampCosts.insert destinationHash (nowS nowMs, cost + 1)
    | _ => r.outboundStampCosts.erase destinationHash
  persistOutboundStampCosts P { r with outboundStampCosts := costs }

/-- `get_outbound_stamp_cost`. -/
def getOutboundStampCost (r : LxmfRouter σ) (destinationHash : Hash16) :
    Option Nat :=
  (r.outboundStampCosts.lookup destinationHash).map (·.2)

/-- `clean_transient_id_caches`, which writes them only if something went.
-/
def cleanTransientIdCaches (r : LxmfRouter σ) (nowMs : Nat) :
    Nat × LxmfRouter σ :=
  let (removedDelivered, localDeliveries) :=
    cleanTransientCache r.localDeliveries (nowS nowMs)
  let (removedProcessed, locallyProcessed) :=
    cleanTransientCache r.locallyProcessed (nowS nowMs)
  let r := { r with
    localDeliveries := localDeliveries
    locallyProcessed := locallyProcessed }
  let removed := satAdd64 removedDelivered removedProcessed
  (removed, if 0 < removed then r.saveLocalCaches P else r)

-- -------------------------------------------------------- the tickets

/-- `generate_ticket`, of a router that keeps its tickets on the disk. -/
def generateTicket (r : LxmfRouter σ) (destinationHash : Hash16)
    (nowMs : Nat) (rng : OsRng) : Option (F64 × Bytes) × LxmfRouter σ :=
  match r.ticketStore.generateTicket destinationHash nowMs ticketExpiry
      rng with
  | (some entry, ts) =>
      (some (entry.expiresAtS, entry.ticket),
        persistTicketStore P { r with ticketStore := ts })
  | (none, ts) => (none, { r with ticketStore := ts })

/-- A ticket that came with a message is kept. -/
def rememberTicket (r : LxmfRouter σ) (destinationHash : Hash16)
    (expiresAtS : F64) (ticket : Bytes) : LxmfRouter σ :=
  let ts := r.ticketStore.rememberTicket destinationHash
    ⟨expiresAtS, ticket⟩
  persistTicketStore P { r with ticketStore := ts }

/-- A ticket went out with a message. -/
def markTicketDelivered (r : LxmfRouter σ) (destinationHash : Hash16)
    (nowMs : Nat) : LxmfRouter σ :=
  let ts := r.ticketStore.markTicketDelivered destinationHash nowMs
  persistTicketStore P { r with ticketStore := ts }

/-- Expired tickets go. -/
def cleanTickets (r : LxmfRouter σ) (nowMs : Nat) : LxmfRouter σ :=
  let ts := r.ticketStore.cleanExpired nowMs
  persistTicketStore P { r with ticketStore := ts }

end LxmfRouter

end Lxmf
