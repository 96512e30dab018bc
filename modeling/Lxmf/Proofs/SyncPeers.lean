/-
Which peers `sync_peers` serves (lxmf-rs/src/rns/router.rs).

# The classes

Its documentation names two classes of peers with unhandled messages:
those that wait, alive and idle, and the unresponsive ones, not alive
and past their next attempt. What removes peers is as documented. What
chooses one is not, for two reasons. The state of a peer is asked to be
idle before it is asked whether the peer is alive, and a peer is not
alive only in backoff: so no unresponsive peer is ever chosen. And the
messages counted are those in the queue of the peer, which a flush
empties into the store: so a peer that waits for messages of the store
is not chosen either.

# The shape of the argument

The pool holds peers that are idle and have queued messages, and it is
empty only if there is none of them (`mem_peerPool`, `peerPool_ne_nil`).
So there is an offer exactly if there is such a peer, and it goes to a
peer that waits.
-/
import Lxmf.Proofs.PeerTable

namespace Lxmf

namespace LxmfRouter

variable {σ : Type} {P : Platform} {r : LxmfRouter σ} {nowMs : Nat}

-- =========================================================== the classes

/-- Not silent for more than `MAX_UNREACHABLE` seconds. -/
def HeardRecently (nowMs : Nat) (peer : Peer) : Prop :=
  nowMs / 1000 ≤ peer.lastHeardMs / 1000 + maxUnreachable

/-- There are messages for the peer, in its queue or in the store. -/
def HasUnhandled (r : LxmfRouter σ) (peer : Peer) : Prop :=
  peer.unhandledMessagesQueue ≠ []
    ∨ r.propagationStore.unhandledMessagesForPeer peer.id ≠ []

/-- Waiting peers: alive, idle, with unhandled messages. -/
def WaitingPeer (r : LxmfRouter σ) (nowMs : Nat) (id : Hash16) : Prop :=
  ∃ peer, r.peers.lookup id = some peer ∧ HeardRecently nowMs peer
    ∧ r.HasUnhandled peer ∧ peer.isAlive = true ∧ peer.state = .idle

/-- Unresponsive peers: not alive, but with unhandled messages and past
their next attempt. -/
def UnresponsivePeer (r : LxmfRouter σ) (nowMs : Nat) (id : Hash16) :
    Prop :=
  ∃ peer, r.peers.lookup id = some peer ∧ HeardRecently nowMs peer
    ∧ r.HasUnhandled peer ∧ peer.isAlive = false
    ∧ peer.nextSyncMs / 1000 ≤ nowMs / 1000

/-- Culled peers: silent for too long, unless static. -/
def CulledPeer (r : LxmfRouter σ) (nowMs : Nat) (id : Hash16) : Prop :=
  ∃ peer, r.peers.lookup id = some peer ∧ ¬ HeardRecently nowMs peer
    ∧ id ∉ r.staticPeers

/-- One offer more, to this peer. -/
def Offers (r r' : LxmfRouter σ) (id : Hash16) : Prop :=
  ∃ peeringKey available, r'.peerSyncQueue
    = r.peerSyncQueue ++ [(id, .offer peeringKey available)]

/-- What `sync_peers` is documented to do. -/
structure SyncServes (r r' : LxmfRouter σ) (nowMs : Nat) : Prop where
  culls : ∀ id, id ∈ r'.peers ↔ id ∈ r.peers ∧ ¬ r.CulledPeer nowMs id
  waiting : (∃ id, r.WaitingPeer nowMs id) →
    ∃ id, r.WaitingPeer nowMs id ∧ r.Offers r' id
  unresponsive : (¬ ∃ id, r.WaitingPeer nowMs id) →
    (∃ id, r.UnresponsivePeer nowMs id) →
    ∃ id, r.UnresponsivePeer nowMs id ∧ r.Offers r' id
  nobody : (¬ ∃ id, r.WaitingPeer nowMs id) →
    (¬ ∃ id, r.UnresponsivePeer nowMs id) →
    r'.peerSyncQueue = r.peerSyncQueue

/-- A peer that is heard of, idle, and has messages in its queue. -/
def QueuedPeer (r : LxmfRouter σ) (nowMs : Nat) (id : Hash16) : Prop :=
  ∃ peer, r.peers.lookup id = some peer ∧ HeardRecently nowMs peer
    ∧ peer.state = .idle ∧ peer.unhandledMessagesQueue ≠ []

theorem WaitingPeer.of_queued {id : Hash16} (h : r.QueuedPeer nowMs id) :
    r.WaitingPeer nowMs id := by
  obtain ⟨peer, hlookup, hheard, hidle, hqueue⟩ := h
  refine ⟨peer, hlookup, hheard, .inl hqueue, ?_, hidle⟩
  unfold Peer.isAlive
  rw [hidle]
  rfl

-- ============================================================== the pool

theorem syncable_iff (hnow : nowMs ≤ u64Max) {peer : Peer} :
    syncable nowMs peer = true ↔ HeardRecently nowMs peer
      ∧ peer.state = .idle ∧ peer.unhandledMessagesQueue ≠ [] := by
  unfold syncable HeardRecently satAdd64
  rw [Bool.and_eq_true, Bool.and_eq_true, decide_eq_true_iff,
    decide_eq_true_iff, decide_eq_true_iff, List.length_pos_iff, and_assoc]
  refine and_congr_left fun _ => ?_
  have hle : nowMs / 1000 ≤ u64Max := (Nat.div_le_self _ _).trans hnow
  omega

theorem culled_iff (hnow : nowMs ≤ u64Max) {e : Hash16 × Peer} :
    r.culled nowMs e = true
      ↔ ¬ HeardRecently nowMs e.2 ∧ e.1 ∉ r.staticPeers := by
  unfold culled HeardRecently satAdd64
  rw [Bool.and_eq_true, decide_eq_true_iff, decide_eq_true_iff]
  refine and_congr_left fun _ => ?_
  have hle : nowMs / 1000 ≤ u64Max := (Nat.div_le_self _ _).trans hnow
  omega

/-- The peers there are, by what is looked up. -/
theorem mem_pairs {e : Hash16 × Peer} :
    e ∈ r.peers.entries.map (fun e => (e.1, e.2))
      ↔ r.peers.lookup e.1 = some e.2 := by
  constructor
  · intro h
    obtain ⟨entry, hentry, heq⟩ := List.mem_map.mp h
    rw [← heq]
    exact AList.mem_lookup_iff.mpr hentry
  · intro h
    exact List.mem_map.mpr ⟨⟨e.1, e.2⟩, AList.mem_lookup_iff.mp h, rfl⟩

/-- The peers one may choose from. -/
def syncablePeers (r : LxmfRouter σ) (nowMs : Nat) :
    List (Hash16 × Peer) :=
  (r.peers.entries.map fun e => (e.1, e.2)).filter fun e =>
    syncable nowMs e.2

theorem mem_syncablePeers (hnow : nowMs ≤ u64Max) {e : Hash16 × Peer} :
    e ∈ r.syncablePeers nowMs ↔ r.peers.lookup e.1 = some e.2
      ∧ HeardRecently nowMs e.2 ∧ e.2.state = .idle
      ∧ e.2.unhandledMessagesQueue ≠ [] := by
  unfold syncablePeers
  rw [List.mem_filter, mem_pairs, syncable_iff hnow]

/-- An idle peer is alive. -/
theorem isAlive_of_syncable {peer : Peer}
    (h : syncable nowMs peer = true) : peer.isAlive = true := by
  unfold syncable at h
  rw [Bool.and_eq_true, Bool.and_eq_true, decide_eq_true_iff,
    decide_eq_true_iff] at h
  unfold Peer.isAlive
  rw [h.1.2]
  rfl

/-- Nobody who may be chosen is not alive. -/
theorem filter_isAlive :
    (r.syncablePeers nowMs).filter (fun e => e.2.isAlive)
      = r.syncablePeers nowMs := by
  refine List.filter_eq_self.mpr fun e he => ?_
  exact isAlive_of_syncable (List.mem_filter.mp he).2

theorem filter_not_isAlive :
    (r.syncablePeers nowMs).filter (fun e =>
        !e.2.isAlive && decide (e.2.nextSyncMs / 1000 ≤ nowMs / 1000))
      = [] := by
  refine List.filter_eq_nil_iff.mpr fun e he => ?_
  rw [isAlive_of_syncable (List.mem_filter.mp he).2]
  simp

/-- The pool: of those who wait. The branch of the unresponsive ones is
one of an empty list. -/
theorem peerPool_cases (r : LxmfRouter σ) (nowMs : Nat) :
    (r.syncablePeers nowMs = [] ∧ r.peerPool nowMs = [])
      ∨ ∃ sorted : List (Hash16 × Peer),
        sorted.Perm (r.syncablePeers nowMs)
        ∧ r.peerPool nowMs
          = (sorted.take (min fastestNRandomPool sorted.length)).map (·.1)
            ++ ((sorted.filter fun e =>
                decide (e.2.syncTransferRate = .fin 0)).take
              (min fastestNRandomPool sorted.length)).map (·.1) := by
  have hpool : r.peerPool nowMs
      = (let waiting := (r.syncablePeers nowMs).filter fun e => e.2.isAlive
         let unresponsive := (r.syncablePeers nowMs).filter fun e =>
          !e.2.isAlive && decide (e.2.nextSyncMs / 1000 ≤ nowMs / 1000)
         if waiting.isEmpty then unresponsive.map (·.1)
         else
          let sorted := waiting.mergeSort fun a b =>
            !a.2.syncTransferRate.lt b.2.syncTransferRate
          let fastestCount := min fastestNRandomPool sorted.length
          let unknown := sorted.filter fun e =>
            decide (e.2.syncTransferRate = .fin 0)
          (sorted.take fastestCount).map (·.1)
            ++ (unknown.take fastestCount).map (·.1)) := rfl
  rw [filter_isAlive, filter_not_isAlive] at hpool
  dsimp only at hpool
  split at hpool
  case isTrue hempty => exact .inl ⟨List.isEmpty_iff.mp hempty, hpool⟩
  case isFalse => exact .inr ⟨_, List.mergeSort_perm _ _, hpool⟩

/-- A peer of the pool is one that may be chosen. -/
theorem mem_peerPool (hnow : nowMs ≤ u64Max) {id : Hash16}
    (h : id ∈ r.peerPool nowMs) : r.QueuedPeer nowMs id := by
  rcases peerPool_cases r nowMs with ⟨-, hpool⟩ | ⟨sorted, hperm, hpool⟩
  · rw [hpool] at h
    cases h
  · have hsorted : ∃ e ∈ sorted, e.1 = id := by
      rw [hpool, List.mem_append] at h
      rcases h with hfast | hunknown
      · obtain ⟨e, he, heq⟩ := List.mem_map.mp hfast
        exact ⟨e, List.mem_of_mem_take he, heq⟩
      · obtain ⟨e, he, heq⟩ := List.mem_map.mp hunknown
        exact ⟨e, List.mem_of_mem_filter (List.mem_of_mem_take he), heq⟩
    obtain ⟨e, he, rfl⟩ := hsorted
    exact ⟨e.2, (mem_syncablePeers hnow).mp (hperm.mem_iff.mp he)⟩

/-- Where one may be chosen, the pool is not empty. -/
theorem peerPool_ne_nil (hnow : nowMs ≤ u64Max) {id : Hash16}
    (h : r.QueuedPeer nowMs id) : r.peerPool nowMs ≠ [] := by
  obtain ⟨peer, hpeer⟩ := h
  have hmem : (id, peer) ∈ r.syncablePeers nowMs :=
    (mem_syncablePeers hnow).mpr hpeer
  rcases peerPool_cases r nowMs with ⟨hnil, -⟩ | ⟨sorted, hperm, hpool⟩
  · rw [hnil] at hmem
    cases hmem
  · have hpos := List.length_pos_of_mem (hperm.mem_iff.mpr hmem)
    rw [hpool]
    refine List.append_ne_nil_of_left_ne_nil ?_ _
    intro hnil
    have hlen := congrArg List.length hnil
    rw [List.length_map, List.length_take, List.length_nil] at hlen
    simp only [fastestNRandomPool] at hlen
    omega

-- =============================================================== the step

/-- The offers of the peers that were removed stay. -/
theorem foldl_unpeer_queue (ids : List Hash16) (r : LxmfRouter σ) :
    (ids.foldl (fun r id => (r.unpeer id).2) r).peerSyncQueue
      = r.peerSyncQueue := by
  induction ids generalizing r with
  | nil => rfl
  | cons id ids ih =>
      rw [List.foldl_cons, ih]
      unfold unpeer
      split
      case isTrue => rfl
      case isFalse => rfl

theorem peerSyncOffer_peers (r : LxmfRouter σ) (id : Hash16)
    (peeringKey : Bytes) (nowMs : Nat) :
    ∃ f, (r.peerSyncOffer id peeringKey nowMs).2.peers
      = r.peers.upsert id nowMs f := by
  unfold peerSyncOffer
  dsimp only
  exact ⟨_, rfl⟩

/-- One peer of the pool gets an offer, or nobody does; then the culled
ones go. -/
theorem syncPeers_cases (r : LxmfRouter σ) (nowMs : Nat) (rng : OsRng) :
    ∃ chosen : LxmfRouter σ,
      r.syncPeers P nowMs rng
        = (((r.peers.entries.map fun e => (e.1, e.2)).filter
            (r.culled nowMs)).map (·.1)).foldl
          (fun r id => (r.unpeer id).2) chosen
      ∧ ((r.peerPool nowMs = [] ∧ chosen = r)
        ∨ ∃ id ∈ r.peerPool nowMs, r.Offers chosen id
          ∧ ∃ f, chosen.peers = r.peers.upsert id nowMs f) := by
  refine ⟨_, rfl, ?_⟩
  dsimp only
  split
  case h_1 id hid =>
    refine .inr ⟨id, List.mem_of_getElem? hid, ?_, ?_⟩
    · exact ⟨r.peeringKeyForPeer P id fun i => rng (i + 8),
        r.propagationStore.listIds, rfl⟩
    · exact peerSyncOffer_peers r id _ nowMs
  case h_2 hnone =>
    refine .inl ⟨?_, rfl⟩
    by_contra hne
    have hpos := List.length_pos_iff.mpr hne
    have hlt := Nat.mod_lt (nextU64 rng) hpos
    rw [List.getElem?_eq_none_iff] at hnone
    omega

/-- Who is removed, and that nobody is added. -/
theorem mem_syncPeers (hnow : nowMs ≤ u64Max) (rng : OsRng)
    (id : Hash16) :
    id ∈ (r.syncPeers P nowMs rng).peers
      ↔ id ∈ r.peers ∧ ¬ r.CulledPeer nowMs id := by
  have hculled : id ∈ ((r.peers.entries.map fun e => (e.1, e.2)).filter
      (r.culled nowMs)).map (·.1) ↔ r.CulledPeer nowMs id := by
    constructor
    · intro h
      obtain ⟨e, he, rfl⟩ := List.mem_map.mp h
      obtain ⟨hpair, hcull⟩ := List.mem_filter.mp he
      exact ⟨e.2, mem_pairs.mp hpair, (culled_iff hnow).mp hcull⟩
    · rintro ⟨peer, hlookup, hcull⟩
      exact List.mem_map.mpr ⟨(id, peer), List.mem_filter.mpr
        ⟨mem_pairs.mpr hlookup, (culled_iff hnow).mpr hcull⟩, rfl⟩
  obtain ⟨chosen, hsync, hchosen⟩ := syncPeers_cases (P := P) r nowMs rng
  have hsame : id ∈ chosen.peers ↔ id ∈ r.peers := by
    rcases hchosen with ⟨-, rfl⟩ | ⟨first, hpool, -, f, hpeers⟩
    · exact Iff.rfl
    · obtain ⟨peer, hlookup, -⟩ := mem_peerPool hnow hpool
      have hin : first ∈ r.peers := AList.lookup_isSome.mp (by
        rw [hlookup]
        rfl)
      rw [hpeers]
      unfold PeerTable.upsert
      rw [AList.mem_insert]
      exact or_iff_right_of_imp fun h => h ▸ hin
  rw [hsync, ← AList.lookup_isSome, foldl_unpeer_lookup, ← hculled, ← hsame]
  split
  case isTrue hout => simp [hout]
  case isFalse hin => simp [hin, AList.lookup_isSome]

/-- The peer served, if any: one with queued messages. -/
theorem syncPeers_offers (hnow : nowMs ≤ u64Max) (rng : OsRng) :
    ((¬ ∃ id, r.QueuedPeer nowMs id)
        ∧ (r.syncPeers P nowMs rng).peerSyncQueue = r.peerSyncQueue)
      ∨ ∃ id, r.QueuedPeer nowMs id
        ∧ r.Offers (r.syncPeers P nowMs rng) id := by
  obtain ⟨chosen, hsync, hchosen⟩ := syncPeers_cases (P := P) r nowMs rng
  have hqueue : (r.syncPeers P nowMs rng).peerSyncQueue
      = chosen.peerSyncQueue := by
    rw [hsync, foldl_unpeer_queue]
  rcases hchosen with ⟨hnil, rfl⟩ | ⟨id, hpool, hoffers, -⟩
  · refine .inl ⟨?_, hqueue⟩
    rintro ⟨id, hid⟩
    exact peerPool_ne_nil hnow hid hnil
  · refine .inr ⟨id, mem_peerPool hnow hpool, ?_⟩
    unfold Offers
    rw [hqueue]
    exact hoffers

theorem not_offers_self {r' : LxmfRouter σ} {id : Hash16}
    (h : r'.peerSyncQueue = r.peerSyncQueue) : ¬ r.Offers r' id := by
  rintro ⟨peeringKey, available, hqueue⟩
  have hlen := congrArg List.length hqueue
  rw [h, List.length_append, List.length_singleton] at hlen
  omega

/-- Peers are served as documented exactly if one that waits has messages
in its queue, or there is none to be served. -/
theorem syncPeers_serves_iff (hnow : nowMs ≤ u64Max) (rng : OsRng) :
    r.SyncServes (r.syncPeers P nowMs rng) nowMs
      ↔ (∃ id, r.QueuedPeer nowMs id)
        ∨ ((¬ ∃ id, r.WaitingPeer nowMs id)
          ∧ ¬ ∃ id, r.UnresponsivePeer nowMs id) := by
  rcases syncPeers_offers (P := P) hnow rng with
    ⟨hnone, hqueue⟩ | ⟨id, hqueued, hoffers⟩
  · rw [or_iff_right hnone]
    have hsilent (id : Hash16) :
        ¬ r.Offers (r.syncPeers P nowMs rng) id := not_offers_self hqueue
    constructor
    · intro h
      have hwaiting : ¬ ∃ id, r.WaitingPeer nowMs id := by
        intro hsome
        obtain ⟨id, -, hoffer⟩ := h.waiting hsome
        exact hsilent id hoffer
      refine ⟨hwaiting, fun hsome => ?_⟩
      obtain ⟨id, -, hoffer⟩ := h.unresponsive hwaiting hsome
      exact hsilent id hoffer
    · rintro ⟨hwaiting, hunresponsive⟩
      exact ⟨mem_syncPeers hnow rng, fun hsome => absurd hsome hwaiting,
        fun _ hsome => absurd hsome hunresponsive, fun _ _ => hqueue⟩
  · refine iff_of_true ?_ (.inl ⟨id, hqueued⟩)
    have hwaits : ∃ id, r.WaitingPeer nowMs id := ⟨id, .of_queued hqueued⟩
    exact ⟨mem_syncPeers hnow rng,
      fun _ => ⟨id, .of_queued hqueued, hoffers⟩,
      fun hnot => absurd hwaits hnot, fun hnot => absurd hwaits hnot⟩

section Instance

open Reference

/-- A peer that was heard of a second after the start, and no more. -/
def silentPeer : Peer :=
  { Peer.new (List.Vector.replicate 16 0x66) 0 with lastHeardMs := 1000 }

/-- One that waits for a message in its queue. -/
def waitingPeer : Peer :=
  { Peer.new docOutbound.sourceIdentity 0 with
    lastHeardMs := maxUnreachable * 1000
    unhandledMessagesQueue := [List.Vector.replicate 32 0x01] }

/-- The router that has these two. -/
def waitingNode : LxmfRouter InMemoryStore :=
  { docNode with
    peers := ((∅ : PeerTable).insert silentPeer.id silentPeer).insert
      waitingPeer.id waitingPeer }

/-- Two seconds past what a silent peer is given. -/
def docSyncMs : Nat := (maxUnreachable + 2) * 1000

/-- The one peer is gone, the other gets an offer. -/
theorem syncPeers_serves_doc :
    silentPeer.id ∉ (waitingNode.syncPeers platform docSyncMs
        fun _ => 0).peers
      ∧ ∃ id, waitingNode.WaitingPeer docSyncMs id
        ∧ waitingNode.Offers (waitingNode.syncPeers platform docSyncMs
          fun _ => 0) id := by
  have hheard : HeardRecently docSyncMs waitingPeer := by
    unfold HeardRecently
    decide
  have hsilent : ¬ HeardRecently docSyncMs silentPeer := by
    unfold HeardRecently
    decide
  have hqueued : waitingNode.QueuedPeer docSyncMs waitingPeer.id :=
    ⟨waitingPeer, AList.lookup_insert _, hheard, rfl,
      List.cons_ne_nil _ _⟩
  have hserves := (syncPeers_serves_iff (P := platform) (r := waitingNode)
    (show docSyncMs ≤ u64Max from by decide) fun _ => 0).mpr
    (.inl ⟨_, hqueued⟩)
  have hculled : waitingNode.CulledPeer docSyncMs silentPeer.id :=
    ⟨silentPeer, rfl, hsilent, Finset.notMem_empty _⟩
  exact ⟨fun hmem => ((hserves.culls _).mp hmem).2 hculled,
    hserves.waiting ⟨_, .of_queued hqueued⟩⟩

/-- A peer in backoff, heard of lately, past its next attempt and with a
message in its queue. -/
def backoffPeer : Peer :=
  { Peer.new docOutbound.sourceIdentity 0 with
    state := .backoff
    lastHeardMs := 1000
    unhandledMessagesQueue := [List.Vector.replicate 32 0x01] }

/-- The router that has no other peer. -/
def backoffNode : LxmfRouter InMemoryStore :=
  { docNode with
    peers := (∅ : PeerTable).insert docOutbound.sourceIdentity backoffPeer }

/-- The unresponsive peer is not served. -/
theorem unresponsive_peer_not_served :
    ¬ backoffNode.SyncServes
      (backoffNode.syncPeers platform 1000 fun _ => 0) 1000 := by
  intro h
  have hlookup : backoffNode.peers.lookup docOutbound.sourceIdentity
      = some backoffPeer := AList.lookup_insert _
  have hwaiting : ¬ ∃ id, backoffNode.WaitingPeer 1000 id := by
    rintro ⟨id, peer, hpeer, -, -, halive, -⟩
    by_cases hid : id = docOutbound.sourceIdentity
    · subst hid
      rw [hlookup] at hpeer
      cases hpeer
      cases halive
    · have hnone : backoffNode.peers.lookup id = none :=
        (AList.lookup_insert_ne hid).trans (AList.lookup_empty id)
      rw [hnone] at hpeer
      cases hpeer
  have hunresponsive : ∃ id, backoffNode.UnresponsivePeer 1000 id := by
    refine ⟨docOutbound.sourceIdentity, backoffPeer, hlookup, ?_,
      .inl (List.cons_ne_nil _ _), rfl, ?_⟩
    · show 1000 / 1000 ≤ 1000 / 1000 + maxUnreachable
      omega
    · exact Nat.zero_le _
  obtain ⟨id, -, peeringKey, available, hqueue⟩ :=
    h.unresponsive hwaiting hunresponsive
  have hnone : (backoffNode.syncPeers platform 1000
      fun _ => 0).peerSyncQueue = [] := by
    decide +kernel
  rw [hnone] at hqueue
  cases hqueue

end Instance

end LxmfRouter

end Lxmf
