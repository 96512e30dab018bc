/-
Peers, the peer table and the peer-sync wire format
(lxmf-rs/src/rns/peer.rs).

# A request by its shape

A peer-sync request has no tag: a binary first element makes it an
offer, and of the other three the pair of first elements decides, `Nil`
or a list each. A response is told from another by its type alone, so
that a payload all of whose items have 32 bytes reads as an id list.
-/
import Mathlib.Data.List.MinMax
import Lxmf.Storage

namespace Lxmf

-- ============================================== requests and responses

/-- What a node asks of a peer: to take an offer, for the list of what it
has, for messages, or to note that some were delivered. -/
inductive PeerSyncRequest where
  | offer (peeringKey : Bytes) (available : List Hash32)
  | messageGetList
  | messageGet (wants haves : List Hash32) (transferLimitKb : Option F64)
  | messageAck (delivered : List Hash32)
deriving DecidableEq

/-- What it is answered. -/
inductive PeerSyncResponse where
  | error (code : UInt8)
  | bool (flag : Bool)
  | idList (ids : List Hash32)
  | payload (items : List Bytes)
deriving DecidableEq

/-- The answer to an offer under a key that is not accepted. -/
abbrev peerErrorInvalidKey : UInt8 := 0xf3

/-- The cost of a peering key where none is configured. -/
abbrev defaultPeeringCost : Nat := 18

/-- The cost of a PN stamp, and by how much less will do. -/
abbrev defaultPropagationStampCost : Nat := 16
abbrev defaultPropagationStampFlex : Nat := 3

/-- How long a peer is throttled that sent an invalid stamp. -/
abbrev propagationInvalidStampThrottleMs : Nat := 180000

/-- How long a request to a peer may stay unanswered. -/
abbrev peerSyncTimeoutMs : Nat := 5 * 60 * 1000

section Codec

variable (P : Platform)

/-- A list of ids on the wire. -/
def idsToValue (ids : List Hash32) : Value :=
  .array (ids.map fun id => .binary id.toList)

/-- A request on the wire: without a tag, told by its shape. -/
def PeerSyncRequest.toValue : PeerSyncRequest → Value
  | .offer peeringKey available =>
      .array [.binary peeringKey, idsToValue available]
  | .messageGetList => .array [.nil, .nil]
  | .messageGet wants haves transferLimitKb =>
      .array ([idsToValue wants, idsToValue haves]
        ++ (transferLimitKb.map Value.f64).toList)
  | .messageAck delivered => .array [.nil, idsToValue delivered]

/-- `encode_peer_sync_request`. -/
def encodePeerSyncRequest (req : PeerSyncRequest) :
    Except RnsError Bytes :=
  writeRns P req.toValue

/-- The id loop of `decode_peer_sync_request`. -/
def idsFromValues (vals : List Value) : Except RnsError (List Hash32) :=
  vals.mapM fun val =>
    orMsgpack "invalid id" (valueToFixedBytes hashLength val)

/-- `wants` or `haves`: absent, or a list of ids. -/
def optionalIds (error : String) : Value →
    Except RnsError (Option (List Hash32))
  | .nil => return none
  | .array vals => return some (← idsFromValues vals)
  | _ => throw (.msgpack error)

/-- A request whose first element is not a binary. -/
def decodeMessageRequest (first second : Value) (rest : List Value) :
    Except RnsError PeerSyncRequest := do
  let wants ← optionalIds "invalid wants" first
  let haves ← optionalIds "invalid haves" second
  let transferLimitKb ←
    match rest with
    | val :: _ =>
        some <$> orMsgpack "invalid transfer limit" (valueToF64 val)
    | [] => pure none
  match wants, haves with
  | none, none => return .messageGetList
  | none, some delivered => return .messageAck delivered
  | some wants, some haves => return .messageGet wants haves transferLimitKb
  | some wants, none => return .messageGet wants [] transferLimitKb

/-- `decode_peer_sync_request`. A binary comes first in an offer only. -/
def decodePeerSyncRequest (bytes : Bytes) :
    Except RnsError PeerSyncRequest := do
  match ← readRns P bytes with
  | .array [] => throw (.msgpack "peer sync req missing op")
  | .array (.binary key :: rest) =>
      match rest with
      | [] => throw (.msgpack "missing list")
      | .array list :: _ => return .offer key (← idsFromValues list)
      | _ => throw (.msgpack "list must be array")
  | .array [_] => throw (.msgpack "missing haves")
  | .array (first :: second :: rest) =>
      decodeMessageRequest first second rest
  | _ => throw (.msgpack "peer sync req must be array")

/-- A response on the wire: ids and payloads are lists of binaries both. -/
def PeerSyncResponse.toValue : PeerSyncResponse → Value
  | .error code => .integer (Integer.ofU8 code)
  | .bool flag => .boolean flag
  | .idList list => idsToValue list
  | .payload items => .array (items.map .binary)

/-- `encode_peer_sync_response`. -/
def encodePeerSyncResponse (resp : PeerSyncResponse) :
    Except RnsError Bytes :=
  writeRns P resp.toValue

/-- An array response: ids when every item has 32 bytes. -/
def listResponse (binaries : List Bytes) : PeerSyncResponse :=
  match binaries.mapM (toFixed hashLength) with
  | some ids => .idList ids
  | none => .payload binaries

/-- `decode_peer_sync_response`. The code of an error has to fit a byte. -/
def decodePeerSyncResponse (bytes : Bytes) :
    Except RnsError PeerSyncResponse := do
  match ← readRns P bytes with
  | .boolean flag => return .bool flag
  | .integer int =>
      let code ← orMsgpack "invalid error code" int.asI64
      if 0 ≤ code ∧ code ≤ 255 then
        return .error (UInt8.ofNat code.toNat)
      else throw (.msgpack "error code out of range")
  | .array list =>
      let binaries ← list.mapM fun val =>
        orMsgpack "payload must be binary" (valueToBytes val)
      return listResponse binaries
  | _ => throw (.msgpack "invalid peer sync response")

end Codec

-- =============================================================== peers

/-- Where a node stands with a peer. -/
inductive PeerState where
  | idle
  | offerSent
  | awaitingPayload
  | backoff
deriving DecidableEq

/-- The one strategy that a peer is given. -/
abbrev strategyPersistent : UInt8 := 0x02
abbrev defaultSyncStrategy : UInt8 := strategyPersistent

/-- By how much each failure prolongs the backoff, and up to what. -/
abbrev peerBackoffStepMs : Nat := 12 * 60 * 1000
abbrev peerBackoffMaxMs : Nat := 14 * 24 * 60 * 60 * 1000

/-- What a node keeps of a peer: how it stands with it, when it may sync,
what it exchanged, and the ids it has yet to file under it. -/
structure Peer where
  id : Hash16
  state : PeerState
  lastSyncMs : Nat
  lastAttemptMs : Nat
  nextSyncMs : Nat
  backoffMs : Nat
  failures : Nat
  lastHeardMs : Nat
  rxBytes : Nat
  txBytes : Nat
  messagesOffered : Nat
  messagesOutgoing : Nat
  messagesIncoming : Nat
  messagesUnhandled : Nat
  peeringKey : Option Bytes
  peeringKeyValue : Option Nat
  syncTransferRate : F64
  handledMessagesQueue : List Hash32
  unhandledMessagesQueue : List Hash32
  syncStrategy : UInt8
  peeringCost : Option Nat
  metadata : Option (HashMap String Bytes)
  peeringTimebase : Nat
  linkEstablishmentRate : F64
  propagationTransferLimit : Option F64
  propagationSyncLimit : Option Nat
  propagationStampCost : Option Nat
  propagationStampCostFlexibility : Option Nat
deriving DecidableEq

namespace Peer

/-- A peer that was just seen, and that may sync at once. -/
def new (id : Hash16) (nowMs : Nat) : Peer where
  id := id
  state := .idle
  lastSyncMs := 0
  lastAttemptMs := 0
  nextSyncMs := nowMs
  backoffMs := 0
  failures := 0
  lastHeardMs := 0
  rxBytes := 0
  txBytes := 0
  messagesOffered := 0
  messagesOutgoing := 0
  messagesIncoming := 0
  messagesUnhandled := 0
  peeringKey := none
  peeringKeyValue := none
  syncTransferRate := .fin 0
  handledMessagesQueue := []
  unhandledMessagesQueue := []
  syncStrategy := defaultSyncStrategy
  peeringCost := none
  metadata := none
  peeringTimebase := 0
  linkEstablishmentRate := .fin 0
  propagationTransferLimit := none
  propagationSyncLimit := none
  propagationStampCost := none
  propagationStampCostFlexibility := none

/-- A peer counts as dead only while it backs off. -/
def isAlive (p : Peer) : Bool := p.state != .backoff

/-- Being told dead or alive moves a peer between idle and backoff only. -/
def setAlive (p : Peer) (alive : Bool) : Peer :=
  if !alive && p.state == .idle then { p with state := .backoff }
  else if alive && p.state == .backoff then { p with state := .idle }
  else p

/-- A peer that waits for no answer, and whose time has come. -/
def shouldSync (p : Peer) (nowMs : Nat) : Bool :=
  (p.state == .idle || p.state == .backoff) && decide (p.nextSyncMs ≤ nowMs)

/-- An offer went out. -/
def onOfferSent (p : Peer) (nowMs : Nat) : Peer :=
  { p with state := .offerSent, lastAttemptMs := nowMs }

/-- A sync came to its end: the failures are forgotten. -/
def onSyncComplete (p : Peer) (nowMs : Nat) : Peer :=
  { p with
    lastSyncMs := nowMs
    lastAttemptMs := nowMs
    failures := 0
    backoffMs := 0
    nextSyncMs := nowMs
    state := .idle }

/-- A failure: the next sync is put off, by one step more each time. -/
def onFailure (p : Peer) (nowMs : Nat) : Peer :=
  let next :=
    if p.backoffMs = 0 then peerBackoffStepMs
    else satAdd64 p.backoffMs peerBackoffStepMs
  let backoffMs := min next peerBackoffMaxMs
  { p with
    failures := satAdd32 p.failures 1
    backoffMs := backoffMs
    nextSyncMs := satAdd64 nowMs backoffMs
    state := .backoff }

/-- What a response to an offer means: a payload is wanted, nothing is, or
the sync failed. -/
def onOfferResponse (p : Peer) (response : PeerSyncResponse)
    (nowMs : Nat) : Peer :=
  match response with
  | .bool true | .idList _ => { p with state := .awaitingPayload }
  | .bool false | .payload _ =>
      { p.onSyncComplete nowMs with state := .idle }
  | .error _ => { p.onFailure nowMs with state := .backoff }

/-- The peer sent something. -/
def markHeard (p : Peer) (nowMs : Nat) : Peer :=
  { p with lastHeardMs := nowMs }

/-- The peer took the payload. -/
def onPayloadComplete (p : Peer) (nowMs : Nat) : Peer :=
  p.onSyncComplete nowMs

/-- The peer did not answer in time. -/
def onTimeout (p : Peer) (nowMs : Nat) : Peer := p.onFailure nowMs

/-- The peer may not sync for a while; it counts as a failure. -/
def throttle (p : Peer) (nowMs throttleMs : Nat) : Peer :=
  { p with
    failures := satAdd32 p.failures 1
    backoffMs := throttleMs
    nextSyncMs := satAdd64 nowMs throttleMs
    state := .backoff }

-- ------------------------------------------------------ message queues

/-- An id that the peer is to be offered, from the next flush on. -/
def queueUnhandledMessage (p : Peer) (transientId : Hash32) : Peer :=
  { p with
    unhandledMessagesQueue := p.unhandledMessagesQueue ++ [transientId] }

/-- An id that the peer has, from the next flush on. -/
def queueHandledMessage (p : Peer) (transientId : Hash32) : Peer :=
  { p with
    handledMessagesQueue := p.handledMessagesQueue ++ [transientId] }

/-- There is something to flush. -/
def queuedItems (p : Peer) : Bool :=
  !p.handledMessagesQueue.isEmpty || !p.unhandledMessagesQueue.isEmpty

/-- The first loop of `process_queues`; the two sets are those from
before the loops. -/
def processHandled (id : Hash16) (handled unhandled : List Hash32)
    (store : PropagationStore) (transientId : Hash32) :
    PropagationStore :=
  let store :=
    if handled.contains transientId then store
    else (store.addHandledPeer transientId id).2
  if unhandled.contains transientId then
    store.removeUnhandledPeer transientId id
  else store

/-- The second loop of `process_queues`. -/
def processUnhandled (id : Hash16) (handled unhandled : List Hash32)
    (store : PropagationStore) (transientId : Hash32) :
    PropagationStore :=
  if handled.contains transientId || unhandled.contains transientId then
    store
  else (store.addUnhandledPeer transientId id).2

/-- `process_queues`: the ids that are queued go into the store. -/
def processQueues (p : Peer) (store : PropagationStore) :
    Peer × PropagationStore :=
  let handled := store.handledMessagesForPeer p.id
  let unhandled := store.unhandledMessagesForPeer p.id
  let store := p.handledMessagesQueue.foldl
    (processHandled p.id handled unhandled) store
  let store := p.unhandledMessagesQueue.foldl
    (processUnhandled p.id handled unhandled) store
  ({ p with handledMessagesQueue := [], unhandledMessagesQueue := [] },
    store)

end Peer

-- ======================================================= the peer table

/-- The peers of a node, by the hash of their identity. -/
abbrev PeerTable := HashMap Hash16 Peer

namespace PeerTable

/-- `upsert` and what the caller then does to the peer. -/
def upsert (t : PeerTable) (id : Hash16) (nowMs : Nat)
    (f : Peer → Peer) : PeerTable :=
  t.insert id (f ((t.lookup id).getD (Peer.new id nowMs)))

/-- `get_mut` and what the caller then does to the peer. -/
def modify (t : PeerTable) (id : Hash16) (f : Peer → Peer) : PeerTable :=
  match t.lookup id with
  | some peer => t.insert id (f peer)
  | none => t

/-- The peers in the order of the table. -/
def values (t : PeerTable) : List Peer := t.entries.map (·.2)

/-- `next_ready`: the first of the ready peers that is due earliest. -/
def nextReady (t : PeerTable) (nowMs : Nat) : Option Hash16 :=
  ((t.values.filter (Peer.shouldSync · nowMs)).argmin Peer.nextSyncMs).map
    (·.id)

end PeerTable

/-- What a peering key is checked against, and at what cost. -/
structure PeeringValidation where
  localIdentityHash : Hash16
  targetCost : Nat
deriving DecidableEq

/-- What a PN stamp has to cost, and by how much less will do. -/
structure PropagationValidation where
  stampCost : Nat
  stampCostFlex : Nat
deriving DecidableEq

end Lxmf
