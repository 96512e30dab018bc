/-
The outbound side of a router and its tick (lxmf-rs/src/rns/router.rs:
`process_deferred_stamps`, `handle_outbound`, `LxmfRuntime::tick`,
`LxmfRouter::tick` and the stamp thread it spawns).

# Two queues for one message

A message whose stamp is deferred is pushed to the router's own queue
and, when the lock is free, to the queue it shares with the stamp
thread. The thread moves one item a time from the shared queue to a
channel; the tick drains the channel and drops one item from the front
of its own queue for each it received.

# A tick in two halves

The stamp thread runs beside the tick, which touches the shared state
twice: when it drains the channel and when it decides whether to spawn.
`tickBegin` and `tickEnd` are the two halves, `tick` is both in a row.
-/
import Lxmf.Router.Jobs

namespace Lxmf

-- ======================================================== the drain loop

structure RuntimeTick where
  deliveries : List QueuedDelivery := []
  deliveryErrors : List String := []
  inflightFailures : List FailedDelivery := []
  requestTimeouts : List Hash16 := []
  peerSyncRequests : List (Hash16 × PeerSyncRequest) := []
  pnRan : Bool := false
  outboundRan : Bool := false
  stampsRan : Bool := false
  linksRan : Bool := false
  transientRan : Bool := false
  storeRan : Bool := false
  peeringestRan : Bool := false
  rotateRan : Bool := false
  peersyncRan : Bool := false
deriving DecidableEq

abbrev jobOutboundInterval : Nat := 1
abbrev jobStampsInterval : Nat := 1
abbrev jobLinksInterval : Nat := 1
abbrev jobTransientInterval : Nat := 60
abbrev jobStoreInterval : Nat := 120
abbrev jobPeersyncInterval : Nat := 6
abbrev jobPeeringestInterval : Nat := 6
abbrev jobRotateInterval : Nat := 56 * jobPeeringestInterval

section Runtime

variable {σ : Type} [MessageStore σ]

/-- How often the queued items can still be attempted in one drain: an
item is tried once, and again while it has attempts left. -/
def RnsRouter.attemptsLeft (r : RnsRouter σ) : Nat :=
  (r.outbound.map fun item =>
    max 1 (r.retry.maxAttempts - item.attempts)).sum

/-- The outbound loop of `LxmfRuntime::tick`. `deliver k` is the `k`-th
call of `RnsOutbound::deliver`. -/
def drainOutbound (nowMs : Nat) (deliver : Nat → Deliver) :
    Nat → Nat → RnsRouter σ → List (Except RnsError QueuedDelivery)
      × RnsRouter σ
  | 0, _, r => ([], r)
  | fuel + 1, k, r =>
      match r.nextDeliveryWithRetry nowMs (deliver k) with
      | (none, r) => ([], r)
      | (some result, r) =>
          let (results, r) := drainOutbound nowMs deliver fuel (k + 1) r
          (result :: results, r)

/-- What a tick reports of the drained deliveries. -/
def delivered : List (Except RnsError QueuedDelivery) → List QueuedDelivery
  | [] => []
  | .ok delivery :: results => delivery :: delivered results
  | .error _ :: results => delivered results

/-- What a tick reports of the failed deliveries. -/
def deliveryErrors : List (Except RnsError QueuedDelivery) → List String
  | [] => []
  | .ok _ :: results => deliveryErrors results
  | .error err :: results => err.text :: deliveryErrors results

namespace LxmfRuntime

/-- The outbound job of `tick`. -/
def tickOutbound (rt : LxmfRuntime σ) (nowMs : Nat)
    (deliver : Nat → Deliver) :
    List (Except RnsError QueuedDelivery) × LxmfRuntime σ :=
  if rt.processingCount % jobOutboundInterval = 0
      ∧ rt.config.outboundIntervalMs ≤ nowMs - rt.lastOutboundMs then
    let (results, router) := drainOutbound nowMs deliver
      rt.router.attemptsLeft 0 rt.router
    (results, { rt with router := router, lastOutboundMs := nowMs })
  else ([], rt)

/-- The two time-based checks at the end of `tick`. -/
def tickTimeouts (rt : LxmfRuntime σ) (nowMs : Nat) :
    List FailedDelivery × List Hash16 × LxmfRuntime σ :=
  let (failures, rt) :=
    if rt.config.inflightIntervalMs ≤ nowMs - rt.lastInflightMs then
      let (failures, router) := rt.router.pollTimeouts nowMs
      (failures, { rt with router := router, lastInflightMs := nowMs })
    else ([], rt)
  if rt.config.requestIntervalMs ≤ nowMs - rt.lastRequestMs then
    let (timeouts, requests) := rt.requests.pollTimeouts nowMs
    (failures, timeouts,
      { rt with requests := requests, lastRequestMs := nowMs })
  else (failures, [], rt)

def tick (rt : LxmfRuntime σ) (nowMs : Nat) (deliver : Nat → Deliver) :
    RuntimeTick × LxmfRuntime σ :=
  let count := (rt.processingCount + 1) % 2 ^ 64
  let rt := { rt with processingCount := count }
  let every (interval : Nat) : Bool := decide (count % interval = 0)
  let (results, rt) := rt.tickOutbound nowMs deliver
  let rt :=
    if every jobStoreInterval
        ∧ rt.config.storeIntervalMs ≤ nowMs - rt.lastStoreMs then
      { rt with lastStoreMs := nowMs }
    else rt
  let pnRan := every jobPeersyncInterval
    && decide (rt.config.pnIntervalMs ≤ nowMs - rt.lastPnMs)
  let rt := if pnRan then { rt with lastPnMs := nowMs } else rt
  let (inflightFailures, requestTimeouts, rt) := rt.tickTimeouts nowMs
  ({ deliveries := delivered results
     deliveryErrors := Lxmf.deliveryErrors results
     inflightFailures := inflightFailures
     requestTimeouts := requestTimeouts
     pnRan := pnRan
     outboundRan := every jobOutboundInterval
     stampsRan := every jobStampsInterval
     linksRan := every jobLinksInterval
     transientRan := every jobTransientInterval
     storeRan := every jobStoreInterval
     peeringestRan := every jobPeeringestInterval
     rotateRan := every jobRotateInterval
     peersyncRan := every jobPeersyncInterval }, rt)

end LxmfRuntime

end Runtime

-- ==================================================== outbound messages

namespace DeferredOutbound

/-- The item as it is handed on: its stamp is no longer deferred. -/
def undefer (item : DeferredOutbound) : DeferredOutbound :=
  { item with message := { item.message with deferStamp := false } }

end DeferredOutbound

namespace LxmfRouter

variable {σ : Type} [MessageStore σ] (P : Platform)

def deferredLen (r : LxmfRouter σ) : Nat := r.deferredOutbound.length

/-- `RnsRouter::enqueue` on an item. -/
def enqueueItem (r : LxmfRouter σ) (item : DeferredOutbound) :
    LxmfRouter σ :=
  r.mapRouter fun router => (router.enqueue item.message item.mode).2

/-- The loop of `process_deferred_stamps`, with the items it enqueued. -/
def processDeferred : Nat → LxmfRouter σ →
    List DeferredOutbound × LxmfRouter σ
  | 0, r => ([], r)
  | left + 1, r =>
      match r.deferredOutbound with
      | [] => ([], r)
      | item :: rest =>
          let r := { r with deferredOutbound := rest }
          let (items, r) := processDeferred left (r.enqueueItem item.undefer)
          (item.undefer :: items, r)

def processDeferredStamps (r : LxmfRouter σ) (_nowMs maxItems : Nat) :
    Nat × LxmfRouter σ :=
  let (items, r) := processDeferred maxItems r
  (items.length, r)

/-- The cost and the ticket `handle_outbound` looks up. A ticket makes
the stamp cheap, so it is not deferred. -/
def lookUpStamp (r : LxmfRouter σ) (message : LXMessage) (nowMs : Nat) :
    LXMessage :=
  let stampCost :=
    match message.stampCost with
    | some cost => some cost
    | none => r.getOutboundStampCost message.destinationHash
  let ticket :=
    r.ticketStore.getOutboundTicket message.destinationHash nowMs
  { message with
    stampCost := stampCost
    outboundTicket := ticket
    deferStamp := message.deferStamp && ticket.isNone }

/-- The ticket `handle_outbound` puts into a message that asks for one. -/
def includeTicket (r : LxmfRouter σ) (message : LXMessage) (nowMs : Nat)
    (rng : OsRng) : LXMessage × LxmfRouter σ :=
  if message.includeTicket then
    match r.ticketStore.generateTicket message.destinationHash nowMs
        ticketExpiry rng with
    | (some entry, ts) =>
        ({ message with
            fields := insertTicketField message.fields entry.expiresAtS
              entry.ticket },
          persistTicketStore P { r with ticketStore := ts })
    | (none, ts) => (message, { r with ticketStore := ts })
  else (message, r)

/-- The message as `handle_outbound` queues it. -/
def prepareOutbound (r : LxmfRouter σ) (message : LXMessage)
    (nowMs : Nat) (rng : OsRng) : LXMessage × LxmfRouter σ :=
  let message := r.lookUpStamp message nowMs
  let (message, r) := r.includeTicket P message nowMs rng
  ({ message with
      deferStamp := message.deferStamp && message.stampCost.isSome }, r)

/-- The end of `handle_outbound` on a deferred message. `free` is what
`try_lock` finds. -/
def defer (r : LxmfRouter σ) (item : DeferredOutbound) (free : Bool) :
    LxmfRouter σ :=
  { r with
    deferredOutbound := r.deferredOutbound ++ [item]
    deferredOutboundShared :=
      if free then r.deferredOutboundShared ++ [item]
      else r.deferredOutboundShared }

def handleOutbound (r : LxmfRouter σ) (message : LXMessage)
    (mode : DeliveryMode) (nowMs : Nat) (rng : OsRng) (free : Bool) :
    Option Nat × LxmfRouter σ :=
  let (message, r) := r.prepareOutbound P message nowMs rng
  if message.deferStamp then (none, r.defer ⟨message, mode⟩ free)
  else
    let (id, router) := r.runtime.router.enqueue message mode
    (some id, r.mapRouter fun _ => router)

-- ============================================================ the tick

/-- The receive loop of `tick`, with the items it enqueued: each one
costs the router's own queue its front item. -/
def receiveProcessed : Nat → LxmfRouter σ →
    List DeferredOutbound × LxmfRouter σ
  | 0, r => ([], r)
  | left + 1, r =>
      match r.processedDeferred with
      | some (item :: channel) =>
          let r := { r with processedDeferred := some channel }
          let r := r.enqueueItem item
          let (items, r) := receiveProcessed left
            { r with deferredOutbound := r.deferredOutbound.tail }
          (item :: items, r)
      | _ => ([], r)

/-- The channel is created on first use. -/
def openChannel (r : LxmfRouter σ) : LxmfRouter σ :=
  { r with processedDeferred := some (r.processedDeferred.getD []) }

/-- The jobs of `tick` before the stamps. -/
def tickJobs (r : LxmfRouter σ) (tick : RuntimeTick) (nowMs : Nat)
    (rng : OsRng) : LxmfRouter σ :=
  let r := if tick.linksRan then r.cleanLinks nowMs else r
  let r :=
    if tick.pnRan then
      let r := (r.cleanTransientIdCaches P nowMs).2
      let r := r.pollPeerSyncTimeouts nowMs
      r.schedulePeerSync P nowMs rng
    else r
  let r := if tick.storeRan then (r.cleanPropagationStore nowMs).2 else r
  let r := if tick.rotateRan then r.rotatePeers else r
  if tick.peeringestRan then r.flushQueues else r

/-- The first half of `tick`, with the items it received: everything up
to the end of the receive loop. -/
def tickBegin (r : LxmfRouter σ) (nowMs : Nat) (deliver : Nat → Deliver)
    (rng : OsRng) : RuntimeTick × List DeferredOutbound × LxmfRouter σ :=
  let (tick, runtime) := r.runtime.tick nowMs deliver
  let r := tickJobs P { r with runtime := runtime } tick nowMs rng
  if tick.stampsRan then
    let (items, r) := receiveProcessed 100 r.openChannel
    (tick, items, r)
  else (tick, [], r)

/-- `tick` spawns a stamp thread: none is active, the lock is free and
the shared queue has an item. -/
def spawns (r : LxmfRouter σ) (tick : RuntimeTick) (free : Bool) : Bool :=
  tick.stampsRan && !r.stampProcessingActive && free
    && !r.deferredOutboundShared.isEmpty

/-- The second half of `tick`. -/
def tickEnd (r : LxmfRouter σ) (tick : RuntimeTick) (nowMs : Nat)
    (free : Bool) : RuntimeTick × LxmfRouter σ :=
  let r :=
    if r.spawns tick free then { r with stampProcessingActive := true }
    else r
  let r := r.handleRequestTimeouts tick.requestTimeouts nowMs
  ({ tick with
      peerSyncRequests := tick.peerSyncRequests ++ r.peerSyncQueue },
    { r with peerSyncQueue := [] })

/-- A tick no stamp thread interferes with. -/
def tick (r : LxmfRouter σ) (nowMs : Nat) (deliver : Nat → Deliver)
    (rng : OsRng) (free : Bool) : RuntimeTick × LxmfRouter σ :=
  let (tick, _, r) := r.tickBegin P nowMs deliver rng
  r.tickEnd tick nowMs free

-- ===================================================== the stamp thread

/-- Where the stamp thread is: about to lock, done with the queue, or
about to clear the flag. -/
inductive StampThread where
  | spawned
  | popped (item : DeferredOutbound)
  | finishing
deriving DecidableEq

/-- One step of the stamp thread. `free` is what `try_lock` finds. -/
def stepThread (r : LxmfRouter σ) (free : Bool) :
    StampThread → Option StampThread × LxmfRouter σ
  | .spawned =>
      match free, r.deferredOutboundShared with
      | true, item :: rest =>
          (some (.popped item.undefer),
            { r with deferredOutboundShared := rest })
      | _, _ => (some .finishing, r)
  | .popped item =>
      (some .finishing, { r with
        processedDeferred :=
          r.processedDeferred.map fun channel => channel ++ [item] })
  | .finishing => (none, { r with stampProcessingActive := false })

end LxmfRouter

end Lxmf
