/-
Propagated messages and the peer-sync exchange
(lxmf-rs/src/rns/router.rs, from `process_propagated` to
`handle_request_timeouts`).

# The exchange

One node offers the ids it stores, the other answers with those it
lacks and asks for them, the first sends the entries, the other files
them and acknowledges, and the first drops what was acknowledged. Each
function below is one half of a step: it takes a message, changes one
router and returns the next message.
-/
import Lxmf.Router.State

namespace Lxmf

namespace LxmfRouter

variable {σ : Type} (P : Platform)

-- ================================================== filing an entry

/-- The cost below which a PN stamp is refused. -/
def minStampCost (r : LxmfRouter σ) : Option Nat :=
  r.propagationValidation.map fun cfg => cfg.stampCost - cfg.stampCostFlex

/-- An entry under the id its stamp gives it, when the stamp is checked
and passes; as it came when stamps are not checked. -/
def stampChecked (minCost : Option Nat) (entry : PropagationEntry) :
    Option PropagationEntry :=
  match minCost with
  | none => some entry
  | some cost =>
      match validatePnStamp P entry.lxmData cost with
      | some (transientId, lxmUnstamped, _, stamp) =>
          some { entry with
            transientId := transientId
            lxmData := lxmUnstamped ++ stamp }
      | none => none

/-- The id was stored, or processed and since removed. -/
def seen (r : LxmfRouter σ) (transientId : Hash32) : Bool :=
  r.propagationStore.has transientId
    || decide (transientId ∈ r.locallyProcessed)

/-- The three calls that file a new entry. -/
def fileEntry (r : LxmfRouter σ) (entry : PropagationEntry)
    (nowMs : Nat) : LxmfRouter σ :=
  let r := { r with propagationStore := r.propagationStore.insert P entry }
  (r.persistPropagationEntry P entry).markLocallyProcessed P
    entry.transientId nowMs

/-- The counters of `process_propagated`. -/
def countPropagated (r : LxmfRouter σ) (entry : PropagationEntry)
    (sourceHash : Option Hash16) (countClientReceive : Bool) : NodeStats :=
  let stats := r.nodeStats
  if countClientReceive then
    { stats with
      clientPropagationMessagesReceived :=
        satAdd64 stats.clientPropagationMessagesReceived 1 }
  else
    match sourceHash with
    | some sourceHash =>
        if sourceHash ∈ r.peers then stats
        else
          { stats with
            unpeeredPropagationIncoming :=
              satAdd64 stats.unpeeredPropagationIncoming 1
            unpeeredPropagationRxBytes :=
              satAdd64 stats.unpeeredPropagationRxBytes
                entry.lxmData.length }
    | none => stats

/-- The entry `process_propagated` builds of propagated data. -/
def propagatedEntry (timestamp : F64) (lxmData : Bytes) :
    PropagationEntry where
  transientId := fullHash P lxmData
  lxmData := lxmData
  timestamp := timestamp
  destinationHash := destinationPrefix lxmData
  filepath := none
  msgSize := some lxmData.length

/-- The id under which the message is stored, if it is new and its stamp
passes where stamps are checked. -/
def processPropagated (r : LxmfRouter σ) (timestamp : F64)
    (lxmData : Bytes) (nowMs : Nat) (sourceHash : Option Hash16)
    (countClientReceive : Bool) : Option Hash32 × LxmfRouter σ :=
  match stampChecked P r.minStampCost (propagatedEntry P timestamp lxmData)
  with
  | none => (none, r)
  | some entry =>
      if r.seen entry.transientId then (none, r)
      else
        let r := { r with
          nodeStats := r.countPropagated entry sourceHash
            countClientReceive }
        (some entry.transientId, r.fileEntry P entry nowMs)

-- ================================================== building an offer

/-- All that is stored is offered, whatever the peer has. -/
def peerSyncOffer (r : LxmfRouter σ) (peerId : Hash16)
    (peeringKey : Bytes) (nowMs : Nat) :
    PeerSyncRequest × LxmfRouter σ :=
  let available := r.propagationStore.listIds
  let offered (peer : Peer) : Peer :=
    { peer.onOfferSent nowMs with
      messagesOffered := satAdd64 peer.messagesOffered available.length
      peeringKey := some peeringKey }
  (.offer peeringKey available,
    { r with peers := r.peers.upsert peerId nowMs offered })

/-- `peering_id_for_peer`: this node's identity first. -/
def peeringIdForPeer (r : LxmfRouter σ) (peerId : Hash16) :
    Option Hash32 :=
  r.peeringValidation.map fun validation =>
    ⟨validation.localIdentityHash.toList ++ peerId.toList, by
      simp [destinationLength, hashLength]⟩

/-- `peering_key_for_peer`: never at a cost above 15. -/
def peeringKeyForPeer (r : LxmfRouter σ) (peerId : Hash16) (rng : OsRng) :
    Bytes :=
  match r.peeringValidation, r.peeringIdForPeer peerId with
  | some validation, some peeringId =>
      let cost :=
        if 15 < validation.targetCost then 15 else validation.targetCost
      (generatePeeringKey P rng peeringId cost).getD []
  | _, _ => []

/-- An offer to the next peer that is ready, with the key it was made
before or one that is drawn now. -/
def schedulePeerSync (r : LxmfRouter σ) (nowMs : Nat) (rng : OsRng) :
    LxmfRouter σ :=
  match r.peers.nextReady nowMs with
  | none => r
  | some peerId =>
      let peeringKey :=
        match (r.peers.lookup peerId).bind (·.peeringKey) with
        | some key => key
        | none => r.peeringKeyForPeer P peerId rng
      let (req, r) := r.peerSyncOffer peerId peeringKey nowMs
      { r with peerSyncQueue := r.peerSyncQueue ++ [(peerId, req)] }

-- ===================================================== answering one

/-- The key check of `handle_peer_sync_offer`. -/
def offerKeyValid (r : LxmfRouter σ) (peerId : Hash16)
    (peeringKey : Bytes) : Bool :=
  match r.peeringValidation with
  | some validation =>
      validatePeeringKey P
        (validation.localIdentityHash.toList ++ peerId.toList) peeringKey
        validation.targetCost
  | none => true

/-- The end of `handle_peer_sync_offer` on a valid key. -/
def answerOffer (r : LxmfRouter σ) (peerId : Hash16)
    (wants : List Hash32) (nowMs : Nat) :
    PeerSyncResponse × LxmfRouter σ :=
  let answered (peer : Peer) : Peer :=
    { peer with
      lastAttemptMs := nowMs
      state := if wants.isEmpty then .idle else .awaitingPayload }
  (if wants.isEmpty then .bool false else .idList wants,
    { r with peers := r.peers.upsert peerId nowMs answered })

/-- Answered with the ids that are not stored here. A wrong key counts as a
failure of the peer. -/
def handlePeerSyncOffer (r : LxmfRouter σ) (peerId : Hash16)
    (req : PeerSyncRequest) (nowMs : Nat) :
    PeerSyncResponse × LxmfRouter σ :=
  match req with
  | .offer peeringKey available =>
      let wants := available.filter fun id => !r.propagationStore.has id
      if r.offerKeyValid P peerId peeringKey then
        r.answerOffer peerId wants nowMs
      else
        (.error peerErrorInvalidKey,
          { r with
            peers := r.peers.upsert peerId nowMs (·.onFailure nowMs) })
  | _ => (.error 0x01, r)

/-- The ids a response to an offer asks for. -/
def wantedIds (store : PropagationStore) : PeerSyncResponse → List Hash32
  | .idList ids => ids
  | .bool true => store.listIds
  | _ => []

/-- What the response names and is not stored here is asked for. -/
def peerSyncMessageGet (r : LxmfRouter σ) (peerId : Hash16)
    (response : PeerSyncResponse) (transferLimitKb : Option F64)
    (nowMs : Nat) : Option PeerSyncRequest × LxmfRouter σ :=
  let wants := wantedIds r.propagationStore response
  if wants.isEmpty then (none, r)
  else
    let awaiting (peer : Peer) : Peer :=
      { peer with lastAttemptMs := nowMs, state := .awaitingPayload }
    (some (.messageGet wants r.propagationStore.listIds transferLimitKb),
      { r with peers := r.peers.upsert peerId nowMs awaiting })

-- ======================================================== the transfer

/-- The selection loop of `handle_peer_sync_message_get`: an item that
would exceed the limit is skipped, and the loop goes on. -/
def selectItems (store : PropagationStore) (limitBytes : Option Nat) :
    List Hash32 → List Bytes × Nat → List Bytes × Nat
  | [], acc => acc
  | id :: wants, (items, totalBytes) =>
      let acc :=
        match (store.get id).map (·.toBytes P) with
        | some (.ok bytes) =>
            let exceeds :=
              match limitBytes with
              | some limit =>
                  decide (limit < satAdd64 totalBytes bytes.length)
              | none => false
            if exceeds then (items, totalBytes)
            else (items ++ [bytes], satAdd64 totalBytes bytes.length)
        | _ => (items, totalBytes)
      selectItems store limitBytes wants acc

/-- What the peer has is in the request and is not read. -/
def handlePeerSyncMessageGet (r : LxmfRouter σ) (peerId : Hash16)
    (req : PeerSyncRequest) (_nowMs : Nat) :
    PeerSyncResponse × LxmfRouter σ :=
  match req with
  | .messageGetList => (.idList r.propagationStore.listIds, r)
  | .messageGet wants _ transferLimitKb =>
      let limitBytes := transferLimitKb.map fun kb =>
        (kb.mul (.fin 1000)).toU64
      let (items, totalBytes) :=
        selectItems P r.propagationStore limitBytes wants ([], 0)
      let sent (peer : Peer) : Peer :=
        { peer with
          messagesOutgoing := satAdd64 peer.messagesOutgoing items.length
          txBytes := satAdd64 peer.txBytes totalBytes }
      let stats := { r.nodeStats with
        clientPropagationMessagesServed := satAdd64
          r.nodeStats.clientPropagationMessagesServed items.length }
      (.payload items,
        { r with peers := r.peers.modify peerId sent, nodeStats := stats })
  | _ => (.error 0x01, r)

/-- What the loop of `apply_peer_sync_payload` accumulates. -/
structure PayloadTally where
  delivered : List Hash32 := []
  invalidCount : Nat := 0
  receivedBytes : Nat := 0
deriving DecidableEq

/-- A decoded item past its stamp check: filed unless seen, counted as
delivered either way. -/
def acceptItem (r : LxmfRouter σ) (tally : PayloadTally)
    (entry : PropagationEntry) (nowMs : Nat) :
    PayloadTally × LxmfRouter σ :=
  ({ tally with delivered := tally.delivered ++ [entry.transientId] },
    if r.seen entry.transientId then r else r.fileEntry P entry nowMs)

/-- The loop body of `apply_peer_sync_payload`. -/
def applyItem (minCost : Option Nat) (nowMs : Nat)
    (acc : PayloadTally × LxmfRouter σ) (item : Bytes) :
    PayloadTally × LxmfRouter σ :=
  let (tally, r) := acc
  let tally := { tally with
    receivedBytes := satAdd64 tally.receivedBytes item.length }
  match PropagationEntry.fromBytes P item with
  | .error _ => (tally, r)
  | .ok entry =>
      match stampChecked P minCost entry with
      | some entry => acceptItem P r tally entry nowMs
      | none =>
          ({ tally with invalidCount := satAdd64 tally.invalidCount 1 }, r)

/-- Only a payload brings any. -/
def applyItems (r : LxmfRouter σ) (response : PeerSyncResponse)
    (nowMs : Nat) : PayloadTally × LxmfRouter σ :=
  match response with
  | .payload items =>
      items.foldl (applyItem P r.minStampCost nowMs) ({}, r)
  | _ => ({}, r)

/-- What the end of `apply_peer_sync_payload` does to the peer. -/
def tallyPeer (tally : PayloadTally) (nowMs : Nat) (peer : Peer) : Peer :=
  let peer := { peer with
    messagesIncoming :=
      satAdd64 peer.messagesIncoming tally.delivered.length
    messagesUnhandled := tally.invalidCount
    rxBytes := satAdd64 peer.rxBytes tally.receivedBytes }
  if 0 < tally.invalidCount then
    peer.throttle nowMs propagationInvalidStampThrottleMs
  else peer.onPayloadComplete nowMs

/-- What was taken is acknowledged, if anything was. -/
def applyPeerSyncPayload (r : LxmfRouter σ) (peerId : Hash16)
    (response : PeerSyncResponse) (nowMs : Nat) :
    Option PeerSyncRequest × LxmfRouter σ :=
  let (tally, r) := r.applyItems P response nowMs
  (if tally.delivered.isEmpty then none
    else some (.messageAck tally.delivered),
    { r with peers := r.peers.upsert peerId nowMs (tallyPeer tally nowMs) })

/-- The file of an id goes, then its entry. -/
def removeEntry (r : LxmfRouter σ) (id : Hash32) : LxmfRouter σ :=
  let r :=
    match r.propagationStore.get id with
    | some entry => r.removePropagationEntryExact entry
    | none => r
  { r with propagationStore := r.propagationStore.remove id }

/-- What is acknowledged goes. The request has no key to check. -/
def handlePeerSyncAck (r : LxmfRouter σ) (peerId : Hash16)
    (req : PeerSyncRequest) (nowMs : Nat) :
    PeerSyncResponse × LxmfRouter σ :=
  match req with
  | .messageAck delivered =>
      let r := delivered.foldl removeEntry r
      (.bool true, { r with
        peers := r.peers.upsert peerId nowMs (·.onPayloadComplete nowMs) })
  | _ => (.error 0x01, r)

-- ========================================================= dispatching

/-- The match of `handle_peer_sync_request_bytes`. -/
def respondPeerSync (r : LxmfRouter σ) (peerId : Hash16)
    (req : PeerSyncRequest) (nowMs : Nat) :
    PeerSyncResponse × LxmfRouter σ :=
  match req with
  | .offer _ _ =>
      let (response, r) := r.handlePeerSyncOffer P peerId req nowMs
      match r.peerSyncMessageGet peerId response none nowMs with
      | (some msgGet, r) =>
          (response,
            { r with peerSyncQueue := r.peerSyncQueue ++ [(peerId, msgGet)] })
      | (none, r) => (response, r)
  | .messageGetList | .messageGet _ _ _ =>
      r.handlePeerSyncMessageGet P peerId req nowMs
  | .messageAck _ => r.handlePeerSyncAck peerId req nowMs

/-- The peer counts as heard before anything is decoded. -/
def handlePeerSyncRequestBytes (r : LxmfRouter σ) (peerId : Hash16)
    (payload : Bytes) (nowMs : Nat) :
    Except RnsError Bytes × LxmfRouter σ :=
  let r := { r with
    peers := r.peers.upsert peerId nowMs (·.markHeard nowMs) }
  match decodePeerSyncRequest P payload with
  | .error e => (.error e, r)
  | .ok req =>
      let (response, r) := r.respondPeerSync P peerId req nowMs
      (encodePeerSyncResponse P response, r)

/-- The data of the request have to be binary. -/
def handlePeerSyncRequest (r : LxmfRouter σ) (peerId : Hash16)
    (req : RnsRequest) (nowMs : Nat) :
    Except RnsError RnsResponse × LxmfRouter σ :=
  match valueToBytes req.data with
  | none =>
      (.error (.msgpack "peer sync request data must be binary"), r)
  | some payload =>
      match r.handlePeerSyncRequestBytes P peerId payload nowMs with
      | (.error e, r) => (.error e, r)
      | (.ok bytes, r) =>
          (.ok { requestId := req.requestId, data := .binary bytes }, r)

/-- The request is remembered until it is answered or its time is over. -/
def buildPeerSyncRequest (r : LxmfRouter σ) (peerId : Hash16)
    (req : PeerSyncRequest) (nowMs : Nat) :
    Except RnsError RnsRequest × LxmfRouter σ :=
  match encodePeerSyncRequest P req with
  | .error e => (.error e, r)
  | .ok bytes =>
      match r.runtime.requests.registerRequest P peerId (some peerSyncPath)
          (.binary bytes) nowMs peerSyncTimeoutMs with
      | .error e => (.error e, r)
      | .ok (request, requests) =>
          (.ok request, { r with
            runtime := { r.runtime with requests := requests }
            peerSyncPending := r.peerSyncPending.insert request.requestId
              ⟨peerId, req⟩ })

/-- The answer moves the peer to its next state. -/
def applyPeerSyncResponse (r : LxmfRouter σ) (peerId : Hash16)
    (response : PeerSyncResponse) (nowMs : Nat) : LxmfRouter σ :=
  { r with
    peers := r.peers.upsert peerId nowMs (·.onOfferResponse response nowMs) }

/-- The end of a response to an acknowledgement. -/
def finishAck (r : LxmfRouter σ) (peerId : Hash16)
    (response : PeerSyncResponse) (nowMs : Nat) : LxmfRouter σ :=
  let finished (peer : Peer) : Peer :=
    match response with
    | .bool true => peer.onPayloadComplete nowMs
    | _ => peer.onFailure nowMs
  { r with peers := r.peers.upsert peerId nowMs finished }

/-- The end of a response to a get: what was delivered is acknowledged. -/
def receivePayload (r : LxmfRouter σ) (peerId : Hash16)
    (response : PeerSyncResponse) (nowMs : Nat) :
    Except RnsError (Option (Hash16 × RnsRequest)) × LxmfRouter σ :=
  match r.applyPeerSyncPayload P peerId response nowMs with
  | (none, r) => (.ok none, r)
  | (some ackReq, r) =>
      match r.buildPeerSyncRequest P peerId ackReq nowMs with
      | (.error e, r) => (.error e, r)
      | (.ok req, r) => (.ok (some (peerId, req)), r)

/-- `handle_peer_sync_response_bytes_with_peer`. -/
def handlePeerSyncResponseBytesWithPeer (r : LxmfRouter σ)
    (requestId : Hash16) (payload : Bytes) (nowMs : Nat) :
    Except RnsError (Option (Hash16 × RnsRequest)) × LxmfRouter σ :=
  match r.peerSyncPending.lookup requestId with
  | none => (.ok none, r)
  | some pending =>
      let r := { r with
        peerSyncPending := r.peerSyncPending.erase requestId }
      match decodePeerSyncResponse P payload with
      | .error e => (.error e, r)
      | .ok response =>
          match pending.request with
          | .offer _ _ =>
              (.ok none,
                r.applyPeerSyncResponse pending.peerId response nowMs)
          | .messageGet _ _ _ | .messageGetList =>
              r.receivePayload P pending.peerId response nowMs
          | .messageAck _ =>
              (.ok none, r.finishAck pending.peerId response nowMs)

/-- The next request, without the peer that it goes to. -/
def handlePeerSyncResponseBytes (r : LxmfRouter σ) (requestId : Hash16)
    (payload : Bytes) (nowMs : Nat) :
    Except RnsError (Option RnsRequest) × LxmfRouter σ :=
  let r :=
    match r.peerSyncPending.lookup requestId with
    | some pending =>
        { r with
          peers := r.peers.upsert pending.peerId nowMs (·.markHeard nowMs) }
    | none => r
  let (next, r) :=
    r.handlePeerSyncResponseBytesWithPeer P requestId payload nowMs
  (next.map fun next => next.map (·.2), r)

-- ============================================================ timeouts

/-- Every peer that has kept this node waiting for too long. -/
def pollPeerSyncTimeouts (r : LxmfRouter σ) (nowMs : Nat) :
    LxmfRouter σ :=
  let poll (peer : Peer) : Peer :=
    if (peer.state = .offerSent ∨ peer.state = .awaitingPayload)
        ∧ peerSyncTimeoutMs ≤ nowMs - peer.lastAttemptMs then
      peer.onTimeout nowMs
    else peer
  { r with
    peers := r.peers.keys.foldl (fun t id => PeerTable.modify t id poll)
      r.peers }

/-- Of the requests whose time is over, those to peers count. -/
def handleRequestTimeouts (r : LxmfRouter σ) (timeouts : List Hash16)
    (nowMs : Nat) : LxmfRouter σ :=
  timeouts.foldl (fun r requestId =>
    match r.peerSyncPending.lookup requestId with
    | none => r
    | some pending =>
        { r with
          peerSyncPending := r.peerSyncPending.erase requestId
          peers := r.peers.upsert pending.peerId nowMs
            (·.onTimeout nowMs) }) r

-- ======================================================= peer requests

/-- Whether the peer is known. It is due at once, whatever state it was in.
-/
def requestPeerSync (r : LxmfRouter σ) (peerId : Hash16) (nowMs : Nat) :
    Bool × LxmfRouter σ :=
  if peerId ∈ r.peers then
    let due (peer : Peer) : Peer :=
      { peer with nextSyncMs := nowMs, state := .idle }
    (true, { r with peers := r.peers.modify peerId due })
  else (false, r)

/-- Whether the peer was known. Its file goes too. -/
def unpeer (r : LxmfRouter σ) (peerId : Hash16) : Bool × LxmfRouter σ :=
  if peerId ∈ r.peers then
    let r := { r with peers := r.peers.erase peerId }
    (true, r.persist (Disk.removePeer peerId))
  else (false, r)

end LxmfRouter

end Lxmf
