/-
The outbound queue, the inbound queue and the duplicate cache of one
node (lxmf-rs/src/rns/router.rs: `RnsRouter`, `DeliveredCache`; the
store trait from lxmf-rs/src/rns/storage.rs).

# Parameters

The router is generic over its `MessageStore`. `deliver` is an argument
of the two dequeue functions: one call of `RnsOutbound::deliver` draws
randomness and may fail, and a caller that dequeues in a loop makes a
fresh call each time. The callbacks are left out: they observe, and
return nothing.

# Counters

Ids (`u64`) and attempts (`u32`) count up from small numbers by one and
are unbounded here.
-/
import Lxmf.Transport

namespace Lxmf

-- ==================================================== delivered cache

/-- The ids of the messages last delivered, with the order in which they
came. -/
structure DeliveredCache where
  maxEntries : Nat
  order : List Hash32
  seen : Finset Hash32
deriving DecidableEq

namespace DeliveredCache

/-- Nothing is delivered yet. -/
def new (maxEntries : Nat) : DeliveredCache := ⟨maxEntries, [], ∅⟩

/-- Only ids that have not been evicted count. -/
def seenBefore (c : DeliveredCache) (id : Hash32) : Bool :=
  decide (id ∈ c.seen)

/-- The eviction loop of `mark_delivered`: the oldest ids go while the
queue is too long. -/
def evict (maxEntries : Nat) : List Hash32 → Finset Hash32 →
    List Hash32 × Finset Hash32
  | [], seen => ([], seen)
  | oldest :: order, seen =>
      if maxEntries < (oldest :: order).length then
        evict maxEntries order (seen.erase oldest)
      else (oldest :: order, seen)

/-- True of an id that is new; the oldest ids make room for it. -/
def markDelivered (c : DeliveredCache) (id : Hash32) :
    Bool × DeliveredCache :=
  if id ∈ c.seen then (false, c)
  else
    let (order, seen) := evict c.maxEntries (c.order ++ [id])
      (insert id c.seen)
    (true, { c with order := order, seen := seen })

end DeliveredCache

/-- How many ids a router keeps. -/
abbrev deliveredCacheMax : Nat := 2048

-- ======================================================= queue entries

/-- A message that waits to be sent. -/
structure QueuedMessage where
  id : Nat
  message : LXMessage
  mode : DeliveryMode
  attempts : Nat
  nextAttemptAtMs : Nat
deriving DecidableEq

/-- A message as it was handed out for sending. -/
structure QueuedDelivery where
  id : Nat
  delivery : DeliveryOutput
  message : LXMessage
deriving DecidableEq

/-- A message that was sent, until it is acknowledged or its time is over.
-/
structure InflightDelivery where
  id : Nat
  message : LXMessage
  sentAtMs : Nat
  timeoutMs : Nat
deriving DecidableEq

/-- A message that was given up, with the error it was given up for. -/
structure FailedDelivery where
  id : Nat
  error : String
  message : LXMessage
  attempts : Nat
deriving DecidableEq

/-- `RetryPolicy`, with its `Default`. -/
structure RetryPolicy where
  maxAttempts : Nat := 3
  baseDelayMs : Nat := 500
  maxDelayMs : Nat := 5000
deriving DecidableEq

/-- The `MessageStore` trait. -/
class MessageStore (σ : Type) where
  saveOutbound : QueuedMessage → σ → σ
  removeOutbound : Nat → σ → σ
  loadOutbound : σ → List QueuedMessage
  saveInbound : LXMessage → σ → σ
  saveFailed : FailedDelivery → σ → σ

/-- The store that a router has by default. -/
structure InMemoryStore where
  outbound : List QueuedMessage := []
  inbound : List LXMessage := []
  failed : List FailedDelivery := []
deriving DecidableEq

instance : MessageStore InMemoryStore where
  saveOutbound item s := { s with outbound := s.outbound ++ [item] }
  removeOutbound id s :=
    { s with outbound := s.outbound.filter fun m => m.id != id }
  loadOutbound s := s.outbound
  saveInbound message s := { s with inbound := s.inbound ++ [message] }
  saveFailed item s := { s with failed := s.failed ++ [item] }

-- ============================================================ the text

/-- The name of a mode, as the text of an error has it. -/
def DeliveryMode.debug : DeliveryMode → String
  | .opportunistic => "Opportunistic"
  | .direct => "Direct"
  | .propagated => "Propagated"
  | .paper => "Paper"

/-- The name of a policy, likewise. -/
def RnsCryptoPolicy.debug : RnsCryptoPolicy → String
  | .allowPlaintext => "AllowPlaintext"
  | .enforceRatchets => "EnforceRatchets"

/-- The `#[error]` texts of `RnsError`. -/
def RnsError.text : RnsError → String
  | .reticulum e => "reticulum error: " ++ e
  | .io e => "io error: " ++ e
  | .invalidDestinationHash => "invalid destination hash length"
  | .cryptoPolicyViolation policy mode reason =>
      "crypto policy violation (" ++ policy.debug ++ ", " ++ mode.debug
        ++ "): " ++ reason
  | .lxmf e => "lxmf error: " ++ e.text
  | .msgpack e => "msgpack decode error: " ++ e

-- =========================================================== the router

/-- A router: its queues, the deliveries in flight and the store behind it.
-/
structure RnsRouter (σ : Type) where
  outbound : List QueuedMessage
  failed : List FailedDelivery
  inbound : List Received
  nextId : Nat
  delivery : RnsOutbound
  retry : RetryPolicy
  store : σ
  inflight : HashMap Nat InflightDelivery
  deliveredCache : DeliveredCache

/-- One call of `RnsOutbound::deliver`. -/
abbrev Deliver :=
  LXMessage → DeliveryMode → Except RnsError DeliveryOutput × LXMessage

/-- `retry_delay_ms`. -/
def retryDelayMs (policy : RetryPolicy) (attempt : Nat) : Nat :=
  let pow := min (attempt - 1) 20
  min (satMul64 policy.baseDelayMs (2 ^ pow)) policy.maxDelayMs

namespace RnsRouter

variable {σ : Type} [MessageStore σ]

/-- The router before anything is restored. -/
def empty (delivery : RnsOutbound) (store : σ) : RnsRouter σ where
  outbound := []
  failed := []
  inbound := []
  nextId := 1
  delivery := delivery
  retry := {}
  store := store
  inflight := ∅
  deliveredCache := .new deliveredCacheMax

/-- The shift `restore_outbound` applies: none while some item is due at
once, else the earliest due time. -/
def restoreBase (items : List QueuedMessage) : Option Nat :=
  if items.any fun item => item.nextAttemptAtMs = 0 then none
  else
    ((items.filter fun item => 0 < item.nextAttemptAtMs).map
      (·.nextAttemptAtMs)).min?

/-- The loop body of `restore_outbound`. -/
def restoreItem (base : Option Nat) (r : RnsRouter σ)
    (item : QueuedMessage) : RnsRouter σ :=
  let item :=
    match base with
    | some base =>
        if 0 < item.nextAttemptAtMs ∧ base ≤ item.nextAttemptAtMs then
          { item with nextAttemptAtMs := item.nextAttemptAtMs - base }
        else item
    | none => item
  { r with
    nextId := max r.nextId (satAdd64 item.id 1)
    outbound := r.outbound ++ [item] }

/-- In the order of their ids, with the times they wait for counted from
the earliest. -/
def restoreOutbound (r : RnsRouter σ) : RnsRouter σ :=
  let items := (MessageStore.loadOutbound r.store).mergeSort
    fun a b => a.id ≤ b.id
  items.foldl (restoreItem (restoreBase items)) r

/-- `with_store`. -/
def withStore (delivery : RnsOutbound) (store : σ) : RnsRouter σ :=
  (empty delivery store).restoreOutbound

/-- The message is stored before it is queued. -/
def enqueue (r : RnsRouter σ) (message : LXMessage)
    (mode : DeliveryMode) : Nat × RnsRouter σ :=
  let id := r.nextId
  let item : QueuedMessage :=
    { id := id
      message := { message with state := stateOutbound }
      mode := mode
      attempts := 0
      nextAttemptAtMs := 0 }
  (id, { r with
    nextId := r.nextId + 1
    store := MessageStore.saveOutbound item r.store
    outbound := r.outbound ++ [item] })

/-- The oldest failure. Its record in the store stays. -/
def popFailed (r : RnsRouter σ) : Option FailedDelivery × RnsRouter σ :=
  match r.failed with
  | [] => (none, r)
  | item :: failed => (some item, { r with failed := failed })

/-- The sender tells when it sent the message and how long it waits. -/
def markInflight (r : RnsRouter σ) (delivery : QueuedDelivery)
    (sentAtMs timeoutMs : Nat) : RnsRouter σ :=
  let inflight : InflightDelivery :=
    { id := delivery.id
      message := { delivery.message with state := stateSent }
      sentAtMs := sentAtMs
      timeoutMs := timeoutMs }
  { r with inflight := r.inflight.insert delivery.id inflight }

/-- The stored copy went when the message was handed out. -/
def markDelivered (r : RnsRouter σ) (id : Nat) :
    Option LXMessage × RnsRouter σ :=
  match r.inflight.lookup id with
  | none => (none, r)
  | some inflight =>
      (some { inflight.message with state := stateDelivered },
        { r with inflight := r.inflight.erase id })

/-- A delivery in flight has failed. -/
def markFailed (r : RnsRouter σ) (id : Nat) (error : String)
    (attempts : Nat) : Option FailedDelivery × RnsRouter σ :=
  match r.inflight.lookup id with
  | none => (none, r)
  | some inflight =>
      let failed : FailedDelivery :=
        { id := id
          error := error
          message := { inflight.message with state := stateFailed }
          attempts := attempts }
      (some failed, { r with
        inflight := r.inflight.erase id
        store := MessageStore.saveFailed failed r.store
        failed := r.failed ++ [failed] })

/-- The ids `poll_timeouts` finds expired. -/
def expired (r : RnsRouter σ) (nowMs : Nat) : List Nat :=
  (r.inflight.entries.filter fun e =>
    e.2.timeoutMs ≤ nowMs - e.2.sentAtMs).map (·.1)

/-- The loop of `poll_timeouts` over the expired ids. -/
def failTimedOut : List Nat → RnsRouter σ →
    List FailedDelivery × RnsRouter σ
  | [], r => ([], r)
  | id :: ids, r =>
      let (failed, r) := r.markFailed id "delivery timeout" 0
      let (timedOut, r) := failTimedOut ids r
      (failed.toList ++ timedOut, r)

/-- Every delivery whose time is over fails. -/
def pollTimeouts (r : RnsRouter σ) (nowMs : Nat) :
    List FailedDelivery × RnsRouter σ :=
  failTimedOut (r.expired nowMs) r

-- ============================================================ dequeuing

/-- The item as it is handed to `deliver`. -/
def attempt (item : QueuedMessage) : QueuedMessage :=
  { item with
    attempts := item.attempts + 1
    message := { item.message with state := stateSending } }

/-- The end of both dequeue functions on a delivered item. -/
def sent (r : RnsRouter σ) (id : Nat) (output : DeliveryOutput)
    (message : LXMessage) : QueuedDelivery × RnsRouter σ :=
  ({ id := id
     delivery := output
     message := { message with state := stateSent } },
   { r with store := MessageStore.removeOutbound id r.store })

/-- `next_delivery`: a failed item is reported and goes nowhere. -/
def nextDelivery (r : RnsRouter σ) (nowMs : Nat) (deliver : Deliver) :
    Option (Except RnsError QueuedDelivery) × RnsRouter σ :=
  match r.outbound with
  | [] => (none, r)
  | item :: outbound =>
      if nowMs < item.nextAttemptAtMs then (none, r)
      else
        let r := { r with outbound := outbound }
        let item := attempt item
        match deliver item.message item.mode with
        | (.ok output, message) =>
            let (queued, r) := r.sent item.id output message
            (some (.ok queued), r)
        | (.error err, _) => (some (.error err), r)

/-- The end of `next_delivery_with_retry` on an item given up. -/
def giveUp (r : RnsRouter σ) (item : QueuedMessage) (message : LXMessage)
    (err : RnsError) : RnsRouter σ :=
  let failed : FailedDelivery :=
    { id := item.id
      error := err.text
      message := { message with state := stateFailed }
      attempts := item.attempts }
  { r with
    store := MessageStore.saveFailed failed
      (MessageStore.removeOutbound item.id r.store)
    failed := r.failed ++ [failed] }

/-- The end of `next_delivery_with_retry` on an item tried again. -/
def retryLater (r : RnsRouter σ) (item : QueuedMessage)
    (message : LXMessage) (nowMs : Nat) : RnsRouter σ :=
  let item := { item with
    message := message
    nextAttemptAtMs := satAdd64 nowMs (retryDelayMs r.retry item.attempts) }
  { r with
    store := MessageStore.saveOutbound item r.store
    outbound := r.outbound ++ [item] }

/-- Only the first of the queue is looked at, so that one that has to wait
holds up the others. -/
def nextDeliveryWithRetry (r : RnsRouter σ) (nowMs : Nat)
    (deliver : Deliver) :
    Option (Except RnsError QueuedDelivery) × RnsRouter σ :=
  match r.outbound with
  | [] => (none, r)
  | item :: outbound =>
      if nowMs < item.nextAttemptAtMs then (none, r)
      else
        let r := { r with outbound := outbound }
        let item := attempt item
        match deliver item.message item.mode with
        | (.ok output, message) =>
            let (queued, r) := r.sent item.id output message
            (some (.ok queued), r)
        | (.error err, message) =>
            match err with
            | .cryptoPolicyViolation _ _ _ =>
                (some (.error err), r.giveUp item message err)
            | _ =>
                if item.attempts < r.retry.maxAttempts then
                  (some (.error err), r.retryLater item message nowMs)
                else (some (.error err), r.giveUp item message err)

-- ============================================================= inbound

/-- The oldest of what was received. -/
def popInbound (r : RnsRouter σ) : Option Received × RnsRouter σ :=
  match r.inbound with
  | [] => (none, r)
  | received :: inbound => (some received, { r with inbound := inbound })

/-- `receive_packet_with_source`, past the decoding: a message whose id
the cache has seen is dropped, any other is marked and queued. -/
def receiveDecoded (r : RnsRouter σ) (received : Received) :
    RnsRouter σ :=
  match received with
  | .message msg =>
      match msg.messageId with
      | some id =>
          if r.deliveredCache.seenBefore id then r
          else
            { r with
              deliveredCache := (r.deliveredCache.markDelivered id).2
              store := MessageStore.saveInbound msg r.store
              inbound := r.inbound ++ [received] }
      | none =>
          { r with
            store := MessageStore.saveInbound msg r.store
            inbound := r.inbound ++ [received] }
  | _ => { r with inbound := r.inbound ++ [received] }

/-- A packet that cannot be decoded leaves no trace. -/
def receivePacketWithSource (P : Platform) (r : RnsRouter σ)
    (packet : Packet) (mode : DeliveryMode) (sourceHash : Option Hash16) :
    Except RnsError Unit × RnsRouter σ :=
  match decodePacketWithSource P packet mode sourceHash with
  | .error e => (.error e, r)
  | .ok received => (.ok (), r.receiveDecoded received)

/-- From a source that is not known. -/
def receivePacket (P : Platform) (r : RnsRouter σ) (packet : Packet)
    (mode : DeliveryMode) : Except RnsError Unit × RnsRouter σ :=
  r.receivePacketWithSource P packet mode none

/-- The payload is decoded later, by the router of propagated messages. -/
def receiveResourcePayload (r : RnsRouter σ) (payload : Bytes)
    (sourceHash : Option Hash16) : RnsRouter σ :=
  { r with
    inbound := r.inbound ++ [.propagationResource payload sourceHash] }

end RnsRouter

end Lxmf
