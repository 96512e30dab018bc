/-
The sending side of resources and its receipts
(reticulum-patched/src/resource.rs: `ResourceReceipt`,
`ResourceSendState`, `ResourceProof`, `ResourceCancel`;
lxmf-rs/src/rns/transport.rs: `send_resource_frames`, the cancel, proof
and request contexts of `handle_link_event_inner`,
`retry_outgoing_resources`).

# Shared receipts

A receipt is shared by its handle, and outlives the entry of its
resource in the map of outgoing ones. So the receipts are kept in a list
and a handle is an index, as it is for requests. Three places write a
status, and each of them sets `concluded_at` with it; `concluded` keeps
the handle of every such write. It is read by nothing.

# Clocks

An `Instant` is a count of nanoseconds, and `duration_since` is zero
where it would be negative. What is read with `Instant::now()` inside an
operation is an argument of it: `clock k` is the time of the read `k` of
one event, `clock resourceId` that at the entry of a resource.

# What is left out

Of the node there is what these operations read and write. The rest of
it registers requests and receives resources, and of this changes the
two trackers only: `elsewhere` is any such change.
-/
import Lxmf.RequestDelivery
import Lxmf.RequestTracker

namespace Lxmf

-- =============================================================== frames

/-- Version, resource and status. -/
abbrev resourceProofLen : Nat := 1 + destinationLength + 1

/-- Version and resource. -/
abbrev resourceCancelLen : Nat := 1 + destinationLength

/-- `RESOURCE_PROOF_TIMEOUT`, ten seconds. -/
abbrev resourceProofTimeout : Nat := 10 * 10 ^ 9

/-- The frame by which either end gives a resource up. -/
structure ResourceCancel where
  resourceId : Hash16
deriving DecidableEq

def ResourceProof.encode (proof : ResourceProof) : Bytes :=
  resourceVersion :: (proof.resourceId.toList ++ [proof.status])

/-- What comes after the status is not read. -/
def ResourceProof.decode (buffer : Bytes) :
    Except ReticulumError ResourceProof :=
  if buffer.length < resourceProofLen then .error .outOfMemory
  else
    match buffer with
    | version :: buffer =>
        if version ≠ resourceVersion then .error .invalidArgument
        else
          match splitFixed destinationLength buffer with
          | some (resourceId, status :: _) => .ok { resourceId, status }
          | _ => .error .outOfMemory
    | [] => .error .outOfMemory

def ResourceCancel.encode (cancel : ResourceCancel) : Bytes :=
  resourceVersion :: cancel.resourceId.toList

/-- What comes after the resource is not read. -/
def ResourceCancel.decode (buffer : Bytes) :
    Except ReticulumError ResourceCancel :=
  if buffer.length < resourceCancelLen then .error .outOfMemory
  else
    match buffer with
    | version :: buffer =>
        if version ≠ resourceVersion then .error .invalidArgument
        else
          match splitFixed destinationLength buffer with
          | some (resourceId, _) => .ok { resourceId }
          | none => .error .outOfMemory
    | [] => .error .outOfMemory

-- ============================================================= receipts

/-- How far a resource has come. -/
inductive ResourceReceiptStatus where
  | sent
  | completed
  | failed
deriving DecidableEq

/-- What the sender of a resource holds. -/
structure ResourceReceipt where
  resourceId : Hash16
  status : ResourceReceiptStatus
  sentAt : Nat
  concludedAt : Option Nat
  timeout : Nat
deriving DecidableEq

/-- An entry of `resource_outgoing`: a `ResourceSendState` with the
handle of its receipt. -/
structure OutgoingResource where
  state : ResourceSendState
  destination : Hash16
  requestId : Option Hash16
  isRequest : Bool
  receipt : Nat
  timeout : Nat
  retries : Nat
  maxRetries : Nat
deriving DecidableEq

/-- The request that travels as the resource. -/
def OutgoingResource.request (entry : OutgoingResource) : Option Hash16 :=
  if entry.isRequest then entry.requestId else none

/-- A frame and the destination it is sent to over its links. -/
abbrev SentFrame := Hash16 × ResourceControlAction

/-- What a router keeps of the resources it sends and receives. -/
structure ResourceNode where
  outgoing : HashMap Hash16 OutgoingResource
  /-- Every receipt that was made, by its handle. -/
  receipts : List ResourceReceipt
  /-- The writes of `concluded_at` so far. -/
  concluded : List Nat
  tracker : ResourceTracker
  requests : RequestTracker

namespace ResourceNode

/-- Nothing is outgoing. -/
def start (tracker : ResourceTracker) (requests : RequestTracker) :
    ResourceNode :=
  ⟨∅, [], [], tracker, requests⟩

/-- A receipt is locked, its status and `concluded_at` are set. -/
def conclude (node : ResourceNode) (handle : Nat)
    (status : ResourceReceiptStatus) (now : Nat) : ResourceNode :=
  { node with
    receipts := node.receipts.modify handle fun receipt =>
      { receipt with status := status, concludedAt := some now }
    concluded := node.concluded ++ [handle] }

def put (node : ResourceNode) (resourceId : Hash16)
    (entry : OutgoingResource) : ResourceNode :=
  { node with outgoing := node.outgoing.insert resourceId entry }

def remove (node : ResourceNode) (resourceId : Hash16) : ResourceNode :=
  { node with outgoing := node.outgoing.erase resourceId }

/-- The request of an entry, if there is one, counts as delivered. -/
def deliverRequest (node : ResourceNode) (entry : OutgoingResource) :
    ResourceNode :=
  match entry.request with
  | some requestId =>
      { node with requests := node.requests.markDelivered requestId }
  | none => node

/-- The request of an entry, if there is one, fails. -/
def failRequest (node : ResourceNode) (entry : OutgoingResource)
    (now : Nat) : ResourceNode :=
  match entry.request with
  | some requestId =>
      { node with requests := node.requests.markFailed requestId now }
  | none => node

-- ============================================================== sending

/-- What is given to `ResourceSendState::new`, and the time of it. -/
structure Outgoing where
  destination : Hash16
  data : Bytes
  partSize : Nat
  requestId : Option Hash16
  isResponse : Bool
  isRequest : Bool
  timeout : Nat
  maxRetries : Nat
  now : Nat

/-- A new `ResourceSendState` and its receipt, the frames of which are
sent at `sentAt`; it takes the place of one of its id. -/
def send (P : Platform) (node : ResourceNode) (resource : Outgoing)
    (sentAt : Nat) :
    Except ReticulumError (List SentFrame × ResourceNode) := do
  let state ← ResourceSendState.new P resource.data resource.partSize
    resource.requestId resource.isResponse resource.isRequest resource.now
  let receipt : ResourceReceipt :=
    { resourceId := state.resourceId
      status := .sent
      sentAt := resource.now
      concludedAt := none
      timeout := resource.timeout }
  let entry : OutgoingResource :=
    { state := { state with lastSent := sentAt }
      destination := resource.destination
      requestId := state.advert.requestId
      isRequest := resource.isRequest
      receipt := node.receipts.length
      timeout := resource.timeout
      retries := 0
      maxRetries := resource.maxRetries }
  return (state.frames.map fun frame => (resource.destination, frame),
    { node with
      outgoing := node.outgoing.insert state.resourceId entry
      receipts := node.receipts ++ [receipt] })

-- ========================================================== link events

/-- The incoming resource that is cancelled; the request it would have
answered fails. -/
def cancelIncoming (node : ResourceNode) (resourceId : Hash16)
    (now : Nat) : ResourceNode :=
  match node.tracker.handleCancel resourceId with
  | (none, tracker) => { node with tracker := tracker }
  | (some cancelled, tracker) =>
      let node := { node with tracker := tracker }
      if cancelled.isResponse then
        match cancelled.requestId with
        | some requestId =>
            { node with requests := node.requests.markFailed requestId now }
        | none => node
      else node

/-- The `PacketContext::ResourceInitiatorCancel` and
`ResourceReceiverCancel` branch. -/
def receivedCancel (node : ResourceNode) (payload : Bytes) (now : Nat)
    (clock : Nat → Nat) : ResourceNode :=
  match ResourceCancel.decode payload with
  | .error _ => node
  | .ok cancel =>
      let node := node.cancelIncoming cancel.resourceId (clock 0)
      match node.outgoing.lookup cancel.resourceId with
      | none => node
      | some entry =>
          -- `mark_failed`, which does not look at the status either
          (node.conclude entry.receipt .failed now).failRequest entry
            (clock 1)

/-- `handle_proof`. The status the receipt has is not asked for. -/
def handleProof (node : ResourceNode) (entry : OutgoingResource)
    (proof : ResourceProof) (now : Nat) : Bool × ResourceNode :=
  if proof.resourceId ≠ entry.state.resourceId then (false, node)
  else
    (true, node.conclude entry.receipt
      (if proof.status = resourceProofStatusOk then .completed else .failed)
      now)

/-- The `PacketContext::ResourceProof` branch. -/
def receivedProof (node : ResourceNode) (payload : Bytes)
    (clock : Nat → Nat) : ResourceNode :=
  match ResourceProof.decode payload with
  | .error _ => node
  | .ok proof =>
      match node.outgoing.lookup proof.resourceId with
      | none => node
      | some entry =>
          match node.handleProof entry proof (clock 0) with
          | (false, node) => node
          | (true, node) =>
              if proof.status = resourceProofStatusOk then
                node.deliverRequest entry
              else node.failRequest entry (clock 1)

/-- The `PacketContext::ResourceRequest` branch, with the frames in
answer. -/
def receivedRequest (P : Platform) (node : ResourceNode) (payload : Bytes)
    (now : Nat) : List ResourceControlAction × ResourceNode :=
  match ResourceRequest.decode payload with
  | .error _ => ([], node)
  | .ok request =>
      match node.outgoing.lookup request.resourceId with
      | none => ([], node)
      | some entry =>
          let parts := entry.state.handleRequest P request
          let actions := parts.map (fun part =>
              (⟨.resource, part.encode⟩ : ResourceControlAction))
            ++ ((entry.state.hashUpdate P request).map fun update =>
              (⟨.resourceHashUpdate, update.encode P⟩
                : ResourceControlAction)).toList
          (actions,
            if parts.isEmpty then node
            else node.put request.resourceId
              { entry with state := { entry.state with lastSent := now } })

-- ============================================================== retries

/-- `poll_retry` of the entry of a resource: the parts to send again. -/
def pollRetry (node : ResourceNode) (resourceId : Hash16)
    (entry : OutgoingResource) (now : Nat) :
    Option (List ResourcePart) × ResourceNode :=
  if now - entry.state.lastSent < entry.timeout then (none, node)
  else if entry.maxRetries ≤ entry.retries then
    (none, node.conclude entry.receipt .failed now)
  else
    (some entry.state.parts, node.put resourceId { entry with
      retries := entry.retries + 1
      state := { entry.state with lastSent := now } })

/-- `ResourceSendState::status`. -/
def status (node : ResourceNode) (entry : OutgoingResource) :
    Option ResourceReceiptStatus :=
  (node.receipts[entry.receipt]?).map (·.status)

/-- Where the loop of `retry_outgoing_resources` stands. -/
structure RetryRound where
  node : ResourceNode
  sent : List SentFrame
  remove : List Hash16

/-- The loop on one entry. A concluded one is only noted for removal. -/
def retryResource (now : Nat) (clock : Hash16 → Nat) (round : RetryRound)
    (resourceId : Hash16) : RetryRound :=
  match round.node.outgoing.lookup resourceId with
  | none => round
  | some entry =>
      match round.node.status entry with
      | some .completed =>
          { round with
            node := round.node.deliverRequest entry
            remove := round.remove ++ [resourceId] }
      | some .failed =>
          { round with
            node := round.node.failRequest entry (clock resourceId)
            remove := round.remove ++ [resourceId] }
      | some .sent =>
          match round.node.pollRetry resourceId entry now with
          | (none, node) => { round with node := node }
          | (some parts, node) =>
              -- `mark_sent(now)` is what `poll_retry` has done already
              { round with
                node := node
                sent := round.sent
                  ++ ({ entry.state with parts := parts }).frames.map
                    fun frame => (entry.destination, frame) }
      | none => round

/-- `retry_outgoing_resources`. -/
def retryOutgoingResources (node : ResourceNode) (now : Nat)
    (clock : Hash16 → Nat) : List SentFrame × ResourceNode :=
  let round := node.outgoing.keys.foldl (retryResource now clock)
    ⟨node, [], []⟩
  (round.sent, round.remove.foldl remove round.node)

end ResourceNode

-- ================================================================= runs

/-- What can bear on a receipt. -/
inductive ResourceNodeEvent where
  | send (resource : ResourceNode.Outgoing) (sentAt : Nat)
  | cancel (payload : Bytes) (now : Nat) (clock : Nat → Nat)
  | proof (payload : Bytes) (clock : Nat → Nat)
  | request (payload : Bytes) (now : Nat)
  | retry (now : Nat) (clock : Hash16 → Nat)
  | elsewhere (tracker : ResourceTracker) (requests : RequestTracker)

namespace ResourceNode

/-- A send that fails changes nothing. -/
def step (P : Platform) (node : ResourceNode) :
    ResourceNodeEvent → ResourceNode
  | .send resource sentAt =>
      match node.send P resource sentAt with
      | .ok (_, node) => node
      | .error _ => node
  | .cancel payload now clock => node.receivedCancel payload now clock
  | .proof payload clock => node.receivedProof payload clock
  | .request payload now => (node.receivedRequest P payload now).2
  | .retry now clock => (node.retryOutgoingResources now clock).2
  | .elsewhere tracker requests =>
      { node with tracker := tracker, requests := requests }

def after (P : Platform) (node : ResourceNode)
    (events : List ResourceNodeEvent) : ResourceNode :=
  events.foldl (step P) node

end ResourceNode

end Lxmf
