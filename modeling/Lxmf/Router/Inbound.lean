/-
The inbound side of a router (lxmf-rs/src/rns/router.rs, from
`process_inbound_message` to `process_inbound_queue`, the control
requests and `compile_stats`).
-/
import Mathlib.Data.Finset.Card
import Lxmf.Router.PeerSync

namespace Lxmf

-- ====================================================== inbound messages

/-- The ticket loop of `validate_stamp_with_tickets`. A failed attempt
leaves its traces on the message. -/
def tryTickets (P : Platform) (requiredCost : Nat) :
    List Bytes → LXMessage → Bool × LXMessage
  | [], message => (false, message)
  | ticket :: tickets, message =>
      match message.validateStamp P (some requiredCost) (some ticket) with
      | (.ok true, message) => (true, message)
      | (_, message) => tryTickets P requiredCost tickets message

/-- With each ticket first, then without any. -/
def validateStampWithTickets (P : Platform) (message : LXMessage)
    (requiredCost : Nat) (tickets : Option (List Bytes)) :
    Bool × LXMessage :=
  match tryTickets P requiredCost (tickets.getD []) message with
  | (true, message) => (true, message)
  | (false, message) =>
      match message.validateStamp P (some requiredCost) none with
      | (.ok valid, message) => (valid, message)
      | (.error _, message) => (false, message)

namespace LxmfRouter

variable {σ : Type} (P : Platform)

/-- The duplicate check of `process_inbound_message`. -/
def alreadyDelivered (r : LxmfRouter σ) (message : LXMessage) : Bool :=
  match message.messageId with
  | some messageId => decide (messageId ∈ r.localDeliveries)
  | none => false

/-- The ticket a validated message carries is kept unless expired. -/
def learnTicket (r : LxmfRouter σ) (message : LXMessage) (nowMs : Nat) :
    LxmfRouter σ :=
  match extractTicketField message.fields with
  | some (expiresAtS, ticket) =>
      if (nowS nowMs).lt expiresAtS then
        r.rememberTicket P message.sourceHash expiresAtS ticket
      else r
  | none => r

/-- The stamp check of `process_inbound_message`: passed when the
destination asks for none. -/
def checkInboundStamp (r : LxmfRouter σ) (message : LXMessage)
    (nowMs : Nat) : Bool × LXMessage :=
  match r.inboundStampCosts.lookup message.destinationHash with
  | some requiredCost =>
      validateStampWithTickets P message requiredCost
        (r.ticketStore.getInboundTickets message.sourceHash nowMs)
  | none => (true, message)

/-- The mark of `process_inbound_message`. -/
def markDelivered (r : LxmfRouter σ) (message : LXMessage) (nowMs : Nat) :
    LxmfRouter σ :=
  match message.messageId with
  | some messageId => r.markLocalDelivery P messageId nowMs
  | none => r

/-- A ticket is learned from a message that is dropped for its stamp, too.
-/
def processInboundMessage (r : LxmfRouter σ) (message : LXMessage)
    (nowMs : Nat) (signatureValidated noStampEnforcement : Bool) :
    Option LXMessage × LxmfRouter σ :=
  if message.sourceHash ∈ r.ignoredDestinations then (none, r)
  else if r.alreadyDelivered message then (none, r)
  else
    let r := if signatureValidated then r.learnTicket P message nowMs else r
    let (valid, message) := r.checkInboundStamp P message nowMs
    if !valid && r.enforceStamps && !noStampEnforcement then (none, r)
    else (some message, r.markDelivered P message nowMs)

-- ================================================ propagation resources

/-- The remote may hand in propagated messages at all. -/
def resourceAllowed (r : LxmfRouter σ) (remoteHash : Option Hash16) :
    Bool :=
  !r.authRequired
    || (match remoteHash with
        | some hash => decide (hash ∈ r.allowedIdentities)
        | none => false)

/-- The messages fit the transfer limit. -/
def withinTransferLimit (messages : List Bytes)
    (transferLimitKb : Option F64) : Bool :=
  match transferLimitKb with
  | some limitKb =>
      decide ((messages.map List.length).sum
        ≤ (limitKb.mul (.fin 1000)).toU64)
  | none => true

/-- The peering key check for several messages: the peer that fails it,
if any. -/
def resourceKeyFailure (r : LxmfRouter σ) (remoteHash : Option Hash16)
    (peeringKey : Option Bytes) (messages : List Bytes) : Option Hash16 :=
  match r.peeringValidation, remoteHash with
  | some validation, some remoteHash =>
      let valid :=
        match peeringKey with
        | some key =>
            validatePeeringKey P
              (validation.localIdentityHash.toList ++ remoteHash.toList)
              key validation.targetCost
        | none => false
      if 1 < messages.length && !valid then some remoteHash else none
  | _, _ => none

/-- The loop of `process_propagation_resource`. -/
def processMessages (r : LxmfRouter σ) (remoteHash : Option Hash16)
    (nowMs : Nat) : List Bytes → List Hash32 × LxmfRouter σ
  | [] => ([], r)
  | msg :: messages =>
      let (id, r) := r.processPropagated P (nowS nowMs) msg nowMs
        remoteHash remoteHash.isNone
      let (accepted, r) := processMessages r remoteHash nowMs messages
      (id.toList ++ accepted, r)

/-- A resource is refused as a whole: for its sender, for the number of its
messages, for their length or for its key. -/
def processPropagationResource (r : LxmfRouter σ)
    (remoteHash : Option Hash16) (peeringKey : Option Bytes)
    (messages : List Bytes) (transferLimitKb : Option F64) (nowMs : Nat) :
    List Hash32 × LxmfRouter σ :=
  if messages.isEmpty then ([], r)
  else if !r.resourceAllowed remoteHash then ([], r)
  else if 1 < messages.length ∧ remoteHash = none then ([], r)
  else if !withinTransferLimit messages transferLimitKb then ([], r)
  else
    match r.resourceKeyFailure P remoteHash peeringKey messages with
    | some peerId =>
        ([], { r with
          peers := r.peers.upsert peerId nowMs (·.onFailure nowMs) })
    | none => r.processMessages P remoteHash nowMs messages

/-- The ids that were accepted. -/
def handlePropagationResourcePayload (r : LxmfRouter σ)
    (remoteHash : Option Hash16) (peeringKey : Option Bytes)
    (transferLimitKb : Option F64) (payload : Bytes) (nowMs : Nat) :
    Except RnsError (List Hash32) × LxmfRouter σ :=
  match decodePropagationResourcePayload P payload with
  | .error e => (.error e, r)
  | .ok messages =>
      let (accepted, r) := r.processPropagationResource P remoteHash
        peeringKey messages transferLimitKb nowMs
      (.ok accepted, r)

-- =========================================================== statistics

/-- `n as i64 / 1000` on a `u64`. -/
def secondsValue (ms : Nat) : Value :=
  .integer (Integer.ofI64 ((BitVec.ofNat 64 ms).sdiv 1000))

/-- Nil stands for none. -/
def optionNatValue : Option Nat → Value
  | some n => .ofNat n
  | none => .nil

/-- The counters of one peer in `compile_stats`. -/
def peerMessagesValue (peer : Peer) : Value :=
  .map
    [(.str "offered", .ofNat peer.messagesOffered),
     (.str "outgoing", .ofNat peer.messagesOutgoing),
     (.str "incoming", .ofNat peer.messagesIncoming),
     (.str "unhandled", .ofNat peer.messagesUnhandled)]

/-- The costs `compile_stats` reports: the configured ones, or the
defaults when validation is off. -/
def reportedValidation (r : LxmfRouter σ) : PropagationValidation :=
  r.propagationValidation.getD
    ⟨defaultPropagationStampCost, defaultPropagationStampFlex⟩

/-- What a key has to cost here, or would by default. -/
def reportedPeeringCost (r : LxmfRouter σ) : Nat :=
  (r.peeringValidation.map (·.targetCost)).getD defaultPeeringCost

/-- One peer in `compile_stats`. -/
def peerValue (r : LxmfRouter σ) (peerId : Hash16) (peer : Peer) : Value :=
  let acceptanceRate : F64 :=
    if 0 < peer.messagesOffered then
      .fin (peer.messagesIncoming / peer.messagesOffered)
    else .fin 0
  let costs := r.reportedValidation
  .map
    [(.str "type",
        .str (if peerId ∈ r.staticPeers then "static" else "discovered")),
     (.str "alive", .boolean peer.isAlive),
     (.str "last_heard", secondsValue peer.lastHeardMs),
     (.str "network_distance", .integer (Integer.ofI64 (-1))),
     (.str "rx_bytes", .ofNat peer.rxBytes),
     (.str "tx_bytes", .ofNat peer.txBytes),
     (.str "messages", peerMessagesValue peer),
     (.str "acceptance_rate", .f64 acceptanceRate),
     (.str "peering_key",
        match peer.peeringKey with
        | some key => .binary key
        | none => .nil),
     (.str "peering_cost", .ofNat r.reportedPeeringCost),
     (.str "target_stamp_cost", .ofNat costs.stampCost),
     (.str "stamp_cost_flexibility", .ofNat costs.stampCostFlex),
     (.str "transfer_limit", .f64 r.propagationTransferLimitKb),
     (.str "sync_limit", .f64 r.propagationSyncLimitKb),
     (.str "name", .nil),
     (.str "last_sync_attempt", secondsValue peer.lastAttemptMs),
     (.str "str", .ofNat 0),
     (.str "ler", .ofNat 0)]

/-- The fields in the order in which they are written. -/
def compileStats (r : LxmfRouter σ) (nowMs : Nat) : Value :=
  let identityHash := r.runtime.router.localIdentityHash
  let uptime := nowS (satAdd64 (nowMs - r.propagationStartedMs) 1)
  let costs := r.reportedValidation
  let totalPeers := r.peers.keys.length
  let staticPeers := r.staticPeers.card
  .map
    [(.str "identity_hash", .binary identityHash.toList),
     (.str "destination_hash", .binary identityHash.toList),
     (.str "uptime", .f64 uptime),
     (.str "delivery_limit", .f64 r.deliveryTransferLimitKb),
     (.str "propagation_limit", .f64 r.propagationTransferLimitKb),
     (.str "sync_limit", .f64 r.propagationSyncLimitKb),
     (.str "target_stamp_cost", .ofNat costs.stampCost),
     (.str "stamp_cost_flexibility", .ofNat costs.stampCostFlex),
     (.str "peering_cost", .ofNat r.reportedPeeringCost),
     (.str "max_peering_cost", .ofNat r.maxPeeringCost),
     (.str "autopeer_maxdepth", optionNatValue r.autopeerMaxdepth),
     (.str "from_static_only", .boolean r.fromStaticOnly),
     (.str "messagestore", .map
        [(.str "count", .ofNat r.propagationStore.entries.keys.length),
         (.str "bytes", .ofNat r.propagationStore.totalSizeBytes),
         (.str "limit",
            .ofNat (r.propagationStoreLimitBytes.getD 0))]),
     (.str "clients", .map
        [(.str "client_propagation_messages_received",
            .ofNat r.nodeStats.clientPropagationMessagesReceived),
         (.str "client_propagation_messages_served",
            .ofNat r.nodeStats.clientPropagationMessagesServed)]),
     (.str "unpeered_propagation_incoming",
        .ofNat r.nodeStats.unpeeredPropagationIncoming),
     (.str "unpeered_propagation_rx_bytes",
        .ofNat r.nodeStats.unpeeredPropagationRxBytes),
     (.str "static_peers", .ofNat staticPeers),
     (.str "discovered_peers", .ofNat (totalPeers - staticPeers)),
     (.str "total_peers", .ofNat totalPeers),
     (.str "max_peers", optionNatValue r.maxPeers),
     (.str "peers", .map (r.peers.entries.map fun e =>
        (.binary e.1.toList, r.peerValue e.1 e.2)))]

-- ===================================================== control requests

/-- The errors of control requests: nobody has said who asks. -/
abbrev controlErrorNoIdentity : UInt8 := 0xf0

/-- The one who asks may not. -/
abbrev controlErrorNoAccess : UInt8 := 0xf1

/-- The data are not the hash of a peer. -/
abbrev controlErrorInvalidData : UInt8 := 0xf4

/-- There is no such peer. -/
abbrev controlErrorNotFound : UInt8 := 0xfd

/-- The error stands where the result would. -/
def controlErrorResponse (requestId : Hash16) (code : UInt8) :
    RnsResponse where
  requestId := requestId
  data := .integer (Integer.ofU8 code)

/-- The body the sync and the unpeer request share: `op` on the peer the
request names. -/
def controlPeer (r : LxmfRouter σ) (req : RnsRequest)
    (op : Hash16 → Bool × LxmfRouter σ) : RnsResponse × LxmfRouter σ :=
  match valueToFixedBytes destinationLength req.data with
  | none => (controlErrorResponse req.requestId controlErrorInvalidData, r)
  | some target =>
      match op target with
      | (true, r) =>
          ({ requestId := req.requestId, data := .boolean true }, r)
      | (false, r) =>
          (controlErrorResponse req.requestId controlErrorNotFound, r)

/-- A path that is not known gets no response. -/
def handleControlRequest (r : LxmfRouter σ) (peerId : Hash16)
    (req : RnsRequest) (nowMs : Nat) :
    Option RnsResponse × LxmfRouter σ :=
  if peerId ∉ r.controlAllowed then
    (some (controlErrorResponse req.requestId controlErrorNoAccess), r)
  else if req.pathHash = requestPathHash P controlStatsPath then
    (some { requestId := req.requestId, data := r.compileStats nowMs }, r)
  else if req.pathHash = requestPathHash P controlSyncPath then
    let (response, r) :=
      r.controlPeer req fun target => r.requestPeerSync target nowMs
    (some response, r)
  else if req.pathHash = requestPathHash P controlUnpeerPath then
    let (response, r) := r.controlPeer req r.unpeer
    (some response, r)
  else (none, r)

-- ==================================================== the inbound queue

/-- The end of a control request from a known peer. -/
def queueControl (r : LxmfRouter σ) (peerId : Hash16) (req : RnsRequest)
    (nowMs : Nat) : LxmfRouter σ :=
  match r.handleControlRequest P peerId req nowMs with
  | (some response, r) =>
      { r with
        controlResponses := r.controlResponses ++ [(peerId, response)] }
  | (none, r) => r

/-- A request on the inbound queue. -/
def receiveRequest (r : LxmfRouter σ) (req : RnsRequest)
    (sourceHash : Option Hash16) (nowMs : Nat) : LxmfRouter σ :=
  match sourceHash with
  | none => r
  | some peerId =>
      if req.pathHash = requestPathHash P peerSyncPath then
        match r.handlePeerSyncRequest P peerId req nowMs with
        | (.ok response, r) =>
            { r with
              peerSyncResponses :=
                r.peerSyncResponses ++ [(peerId, response)] }
        | (.error _, r) => r
      else if r.propagationNodeEnabled then
        r.queueControl P peerId req nowMs
      else r

/-- A control request on the inbound queue. -/
def receiveControl (r : LxmfRouter σ) (req : RnsRequest)
    (sourceHash : Option Hash16) (nowMs : Nat) : LxmfRouter σ :=
  if r.propagationNodeEnabled then
    match sourceHash with
    | some peerId => r.queueControl P peerId req nowMs
    | none =>
        let response :=
          controlErrorResponse req.requestId controlErrorNoIdentity
        { r with
          controlResponses := r.controlResponses
            ++ [(List.Vector.replicate destinationLength 0, response)] }
  else r

/-- A response on the inbound queue. -/
def receiveResponse (r : LxmfRouter σ) (response : RnsResponse)
    (nowMs : Nat) : LxmfRouter σ :=
  match valueToBytes response.data with
  | none => r
  | some payload =>
      match r.handlePeerSyncResponseBytesWithPeer P response.requestId
          payload nowMs with
      | (.ok (some (peerId, next)), r) =>
          { r with
            peerSyncOutbound := r.peerSyncOutbound ++ [(peerId, next)] }
      | (_, r) => r

/-- One item of the inbound queue. -/
def handleReceived (r : LxmfRouter σ) (received : Received) (nowMs : Nat)
    (signatureValidated : Bool) : Option LXMessage × LxmfRouter σ :=
  match received with
  | .message message =>
      r.processInboundMessage P message nowMs signatureValidated false
  | .propagated timestamp lxmData _ sourceHash countClientReceive =>
      (none, (r.processPropagated P timestamp lxmData nowMs sourceHash
        countClientReceive).2)
  | .propagationResource payload sourceHash =>
      (none, (r.handlePropagationResourcePayload P sourceHash none none
        payload nowMs).2)
  | .request request sourceHash =>
      (none, r.receiveRequest P request sourceHash nowMs)
  | .controlRequest request sourceHash =>
      (none, r.receiveControl P request sourceHash nowMs)
  | .response response _ => (none, r.receiveResponse P response nowMs)

/-- The loop of `process_inbound_queue` over what is queued when it
starts. Nothing a handler does queues another item. -/
def processReceived (nowMs : Nat) (signatureValidated : Bool) :
    List Received → LxmfRouter σ → List LXMessage × LxmfRouter σ
  | [], r => ([], r)
  | received :: queue, r =>
      let r := r.mapRouter fun router => router.popInbound.2
      let (msg, r) := r.handleReceived P received nowMs signatureValidated
      let (accepted, r) :=
        processReceived nowMs signatureValidated queue r
      (msg.toList ++ accepted, r)

/-- The oldest first. -/
def processInboundQueue (r : LxmfRouter σ) (nowMs : Nat)
    (signatureValidated : Bool) : List LXMessage × LxmfRouter σ :=
  processReceived P nowMs signatureValidated r.runtime.router.inbound r

end LxmfRouter

end Lxmf
