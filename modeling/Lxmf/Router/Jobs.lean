/-
The periodic jobs of a router: links, the propagation store, peer
rotation and the distribution queue (lxmf-rs/src/rns/router.rs).

# Weights and rates

Store cleanup orders entries by a weight and rotation orders peers by an
acceptance rate. Both are computed exactly here; every value they are
computed from is finite, since an entry with another timestamp is
removed before its weight is taken.
-/
import Mathlib.Data.Finset.Card
import Lxmf.Router.PeerSync

namespace Lxmf

namespace LxmfRouter

variable {σ : Type} (P : Platform)

-- ================================================================ links

abbrev linkMaxInactivity : Nat := 10 * 60
abbrev pLinkMaxInactivity : Nat := 3 * 60

/-- `acknowledge_sync_completion`. -/
def acknowledgeSyncCompletion (r : LxmfRouter σ) (resetState : Bool)
    (failureState : Option UInt8) : LxmfRouter σ :=
  let state :=
    if resetState ∨ r.propagationTransferState ≤ prComplete then
      failureState.getD prIdle
    else r.propagationTransferState
  { r with
    propagationTransferLastResult := none
    propagationTransferState := state
    propagationTransferProgress := .fin 0
    wantsDownloadOnPathAvailableFrom := none
    wantsDownloadOnPathAvailableTo := none
    wantsDownloadOnPathAvailableTimeout := none }

/-- The failure a closed link stands for, by the state of the transfer. -/
def closedLinkFailure (state : UInt8) : Option UInt8 :=
  if state = prComplete then none
  else if state < prLinkEstablished then some prLinkFailed
  else if prLinkEstablished ≤ state ∧ state < prComplete then
    some prTransferFailed
  else none

/-- The end of `clean_links`: a closed outbound link is forgotten. -/
def cleanOutboundLink (r : LxmfRouter σ) : LxmfRouter σ :=
  match r.linkTracker.outboundPropagationLink with
  | some link =>
      if link.isClosed then
        let r := { r with
          linkTracker :=
            { r.linkTracker with outboundPropagationLink := none } }
        r.acknowledgeSyncCompletion false
          (closedLinkFailure r.propagationTransferState)
      else r
  | none => r

def cleanLinks (r : LxmfRouter σ) (nowMs : Nat) : LxmfRouter σ :=
  let inactive (lastActivityMs limitS : Nat) : Bool :=
    decide (limitS * 1000 < nowMs - lastActivityMs)
  let tracker := r.linkTracker
  let closed := (tracker.directLinks.entries.filter fun e =>
    inactive e.2.lastActivityMs linkMaxInactivity).map (·.1)
  let tracker := { tracker with
    validatedPeerLinks := tracker.validatedPeerLinks.filter
      fun id => id ∉ closed
    directLinks := closed.foldl (fun m id => m.erase id) tracker.directLinks
    activePropagationLinks := tracker.activePropagationLinks.filter
      fun link => !inactive link.lastActivityMs pLinkMaxInactivity }
  cleanOutboundLink { r with linkTracker := tracker }

/-- All that `clean_links` can change: the tracker, and a transfer that
is given up. -/
theorem cleanLinks_cases (r : LxmfRouter σ) (nowMs : Nat) :
    ∃ tracker,
      r.cleanLinks nowMs = { r with linkTracker := tracker }
      ∨ ∃ failure, r.cleanLinks nowMs
        = { r with linkTracker := tracker }.acknowledgeSyncCompletion false
          failure := by
  unfold cleanLinks cleanOutboundLink
  dsimp only
  split
  case h_1 =>
    split
    case isTrue => exact ⟨_, .inr ⟨_, rfl⟩⟩
    case isFalse => exact ⟨_, .inl rfl⟩
  case h_2 => exact ⟨_, .inl rfl⟩

-- ================================================= the propagation store

/-- An entry that does not outlive `clean_propagation_store`. -/
def expiredEntry (now : F64) (entry : PropagationEntry) : Bool :=
  !entry.timestamp.isFinite || entry.timestamp.le (.fin 0)
    || (entry.timestamp.add (.fin messageExpiry)).lt now

/-- The eviction weight of an entry. -/
def entryWeight (prioritised : Finset Hash16) (now : F64)
    (entry : PropagationEntry) : F64 :=
  let age := ((now.sub entry.timestamp).max (.fin 0)).exactMul
    (.fin (1 / 60 / 60 / 24))
  let ageWeight := (age.exactMul (.fin (1 / 4))).max (.fin 1)
  let priorityWeight : F64 :=
    match destinationPrefix entry.lxmData with
    | some dest => if dest ∈ prioritised then .fin (1 / 10) else .fin 1
    | none => .fin 1
  (priorityWeight.exactMul ageWeight).exactMul (.fin entry.lxmData.length)

/-- The eviction loop, over the ids in falling weight. -/
def evictEntries (bytesNeeded : Nat) :
    List (Hash32 × Nat) → Nat → LxmfRouter σ → Nat × LxmfRouter σ
  | [], _, r => (0, r)
  | (id, size) :: weighted, cleanedBytes, r =>
      if bytesNeeded ≤ cleanedBytes then (0, r)
      else if r.propagationStore.has id then
        let (removed, r) := evictEntries bytesNeeded weighted
          (satAdd64 cleanedBytes size) (r.removeEntry id)
        (removed + 1, r)
      else evictEntries bytesNeeded weighted cleanedBytes r

/-- The ids with their sizes, heaviest first. -/
def byWeight (r : LxmfRouter σ) (now : F64) : List (Hash32 × Nat) :=
  let weighted := r.propagationStore.entries.entries.map fun e =>
    (entryWeight r.propagationPrioritised now e.2, e.1,
      e.2.lxmData.length)
  (weighted.mergeSort fun a b => !a.1.lt b.1).map (·.2)

def cleanPropagationStore (r : LxmfRouter σ) (nowMs : Nat) :
    Nat × LxmfRouter σ :=
  let now := nowS nowMs
  let expired := (r.propagationStore.entries.entries.filter fun e =>
    expiredEntry now e.2).map (·.1)
  let r := expired.foldl removeEntry r
  let (evicted, r) :=
    match r.propagationStoreLimitBytes with
    | some limitBytes =>
        let totalBytes := r.propagationStore.totalSizeBytes
        if limitBytes < totalBytes then
          evictEntries (totalBytes - limitBytes) (r.byWeight now) 0 r
        else (0, r)
    | none => (0, r)
  (expired.length + evicted, r)

/-- `cleanup_propagation`: in memory only. -/
def cleanupPropagation (r : LxmfRouter σ) (nowMs maxAgeMs : Nat) :
    Nat × LxmfRouter σ :=
  let (removed, store) := r.propagationStore.removeOlderThan nowMs maxAgeMs
  (removed, { r with propagationStore := store })

-- ======================================================== peer rotation

abbrev rotationHeadroomPct : Nat := 10
abbrev rotationArMax : ℚ := 1 / 2

/-- `peer.messages_outgoing / peer.messages_offered`, zero when nothing
was offered. -/
def acceptanceRate (peer : Peer) : ℚ :=
  if peer.messagesOffered = 0 then 0
  else peer.messagesOutgoing / peer.messagesOffered

/-- A tenth of the limit, rounded down, and at least one. -/
def rotationHeadroom (maxPeers : Nat) : Nat :=
  max 1 (maxPeers * rotationHeadroomPct / 100)

/-- `self.peers.len() as u32`. -/
def peerCount (r : LxmfRouter σ) : Nat := r.peers.keys.length % 2 ^ 32

/-- How many peers rotation has to drop. -/
def requiredDrops (r : LxmfRouter σ) (maxPeers : Nat) : Nat :=
  r.peerCount - (maxPeers - rotationHeadroom maxPeers)

/-- The peers rotation looks at: the fully synced ones, or all. -/
def rotationBasis (r : LxmfRouter σ) : List (Hash16 × Peer) :=
  let all := r.peers.entries.map fun e => (e.1, e.2)
  let synced := all.filter fun e => e.2.messagesUnhandled = 0
  if synced.isEmpty then all else synced

/-- The peers rotation may drop: unresponsive ones, then waiting ones. -/
def dropPool (r : LxmfRouter σ) : List (Hash16 × Peer) :=
  let idle := r.rotationBasis.filter fun e =>
    decide (e.1 ∉ r.staticPeers) && decide (e.2.state = .idle)
  let waiting := idle.filter fun e =>
    decide (0 < e.2.lastHeardMs) && decide (0 < e.2.messagesOffered)
  let unresponsive := idle.filter fun e => decide (e.2.lastHeardMs = 0)
  if unresponsive.isEmpty then waiting
  else if r.prioritiseRotatingUnreachablePeers then unresponsive
  else unresponsive ++ waiting

/-- The peers `rotate_peers` unpeers. -/
def lowRatePeers (r : LxmfRouter σ) (drops : Nat) : List Hash16 :=
  let dropCount := min drops (r.dropPool.length % 2 ^ 32)
  let sorted := r.dropPool.mergeSort fun a b =>
    acceptanceRate a.2 ≤ acceptanceRate b.2
  ((sorted.take dropCount).filter fun e =>
    acceptanceRate e.2 < rotationArMax).map (·.1)

def rotatePeers (r : LxmfRouter σ) : LxmfRouter σ :=
  match r.propagationNodeEnabled, r.maxPeers with
  | true, some maxPeers =>
      let drops := r.requiredDrops maxPeers
      let untested := r.peers.values.filter fun peer =>
        peer.lastAttemptMs = 0
      if drops = 0 ∨ r.peerCount - drops ≤ 1 then r
      else if rotationHeadroom maxPeers ≤ untested.length then r
      else (r.lowRatePeers drops).foldl (fun r id => (r.unpeer id).2) r
  | _, _ => r

/-- Nothing is rotated, or the chosen peers are unpeered and two are
left. -/
theorem rotatePeers_eq (r : LxmfRouter σ) :
    r.rotatePeers = r
      ∨ ∃ maxPeers, r.maxPeers = some maxPeers
        ∧ 2 ≤ r.peerCount - r.requiredDrops maxPeers
        ∧ r.rotatePeers = (r.lowRatePeers (r.requiredDrops maxPeers)).foldl
          (fun r id => (r.unpeer id).2) r := by
  unfold rotatePeers
  split
  case h_1 maxPeers _ hmax =>
    dsimp only
    split
    case isTrue => exact .inl rfl
    case isFalse hdrops =>
      split
      case isTrue => exact .inl rfl
      case isFalse => exact .inr ⟨maxPeers, hmax, by omega, rfl⟩
  case h_2 => exact .inl rfl

-- ========================================================= peer choice

abbrev fastestNRandomPool : Nat := 2
abbrev maxUnreachable : Nat := 14 * 24 * 60 * 60

/-- A peer not heard of for too long, unless it is static. -/
def culled (r : LxmfRouter σ) (nowMs : Nat) (e : Hash16 × Peer) : Bool :=
  decide (satAdd64 (e.2.lastHeardMs / 1000) maxUnreachable < nowMs / 1000)
    && decide (e.1 ∉ r.staticPeers)

/-- A peer `sync_peers` may choose: still heard of, idle and with
messages to send. -/
def syncable (nowMs : Nat) (peer : Peer) : Bool :=
  decide (nowMs / 1000 ≤ satAdd64 (peer.lastHeardMs / 1000) maxUnreachable)
    && decide (peer.state = .idle)
    && decide (0 < peer.unhandledMessagesQueue.length)

/-- The peers one is chosen from: the fastest and those of unknown speed,
or the unresponsive ones when nobody waits. -/
def peerPool (r : LxmfRouter σ) (nowMs : Nat) : List Hash16 :=
  let peers := (r.peers.entries.map fun e => (e.1, e.2)).filter fun e =>
    syncable nowMs e.2
  let waiting := peers.filter fun e => e.2.isAlive
  let unresponsive := peers.filter fun e =>
    !e.2.isAlive && decide (e.2.nextSyncMs / 1000 ≤ nowMs / 1000)
  if waiting.isEmpty then unresponsive.map (·.1)
  else
    let sorted := waiting.mergeSort fun a b =>
      !a.2.syncTransferRate.lt b.2.syncTransferRate
    let fastestCount := min fastestNRandomPool sorted.length
    let unknown := sorted.filter fun e =>
      decide (e.2.syncTransferRate = .fin 0)
    (sorted.take fastestCount).map (·.1)
      ++ (unknown.take fastestCount).map (·.1)

/-- `OsRng.next_u64`. -/
def nextU64 (rng : OsRng) : Nat :=
  ((List.range 8).map fun i => (rng i).toNat * 2 ^ (8 * i)).sum

/-- `sync_peers`. The key is generated behind the eight bytes that
choose the peer. -/
def syncPeers (r : LxmfRouter σ) (nowMs : Nat) (rng : OsRng) :
    LxmfRouter σ :=
  let culledPeers := ((r.peers.entries.map fun e => (e.1, e.2)).filter
    (r.culled nowMs)).map (·.1)
  let pool := r.peerPool nowMs
  let r :=
    match pool[nextU64 rng % pool.length]? with
    | some peerId =>
        let peeringKey :=
          r.peeringKeyForPeer P peerId fun i => rng (i + 8)
        let (req, r) := r.peerSyncOffer peerId peeringKey nowMs
        { r with peerSyncQueue := r.peerSyncQueue ++ [(peerId, req)] }
    | none => r
  culledPeers.foldl (fun r id => (r.unpeer id).2) r

-- ======================================================== distribution

def enqueuePeerDistribution (r : LxmfRouter σ) (transientId : Hash32)
    (fromPeer : Option Hash16) : LxmfRouter σ :=
  { r with
    peerDistributionQueue :=
      r.peerDistributionQueue ++ [(transientId, fromPeer)] }

/-- What one peer gets of the distribution queue: everything that did
not come from it. -/
def distribute (queue : List (Hash32 × Option Hash16)) (peerId : Hash16)
    (peer : Peer) : Peer :=
  queue.foldl (fun peer (transientId, fromPeer) =>
    if fromPeer = some peerId then peer
    else peer.queueUnhandledMessage transientId) peer

def flushPeerDistributionQueue (r : LxmfRouter σ) : LxmfRouter σ :=
  { r with
    peerDistributionQueue := []
    peers := r.peers.keys.foldl (fun t id =>
      PeerTable.modify t id (distribute r.peerDistributionQueue id))
      r.peers }

/-- The loop of `flush_queues` on one peer. -/
def flushPeer (r : LxmfRouter σ) (peerId : Hash16) : LxmfRouter σ :=
  match r.peers.lookup peerId with
  | some peer =>
      if peer.queuedItems then
        let (peer, store) := peer.processQueues r.propagationStore
        { r with
          peers := r.peers.insert peerId peer
          propagationStore := store }
      else r
  | none => r

/-- There was nothing queued, or the queues of the peer are processed. -/
theorem flushPeer_cases (r : LxmfRouter σ) (peerId : Hash16) :
    (r.flushPeer peerId = r ∧ ∀ peer, r.peers.lookup peerId = some peer →
        ¬ peer.queuedItems = true)
      ∨ ∃ peer, r.peers.lookup peerId = some peer
        ∧ r.flushPeer peerId = { r with
          peers := r.peers.insert peerId
            (peer.processQueues r.propagationStore).1
          propagationStore :=
            (peer.processQueues r.propagationStore).2 } := by
  unfold flushPeer
  split
  case h_1 peer hpeer =>
    split
    case isTrue => exact .inr ⟨peer, hpeer, rfl⟩
    case isFalse hqueued =>
      refine .inl ⟨rfl, fun other hother => ?_⟩
      rw [hpeer] at hother
      cases hother
      exact hqueued
  case h_2 hnone =>
    refine .inl ⟨rfl, fun other hother => ?_⟩
    rw [hnone] at hother
    cases hother

def flushQueues (r : LxmfRouter σ) : LxmfRouter σ :=
  if r.peers.keys.isEmpty then r
  else
    let r := r.flushPeerDistributionQueue
    r.peers.keys.foldl flushPeer r

end LxmfRouter

end Lxmf
