/-
What a flush of the queues leaves in the peer sets of the store.

A flush hands the distribution queue to the peers, each but the one a
message came from, and then settles the two queues of each peer: a
message in the first is handled, one in the second is unhandled if it
was neither.

# Two queues, one snapshot

`process_queues` reads what is handled and what is unhandled once, before
it changes anything. So the queues of a peer are one demand on the marks
of the store (`processQueues_settles`), and a flush is the demands of the
peers one after the other (`flushQueues_settlesAll`). Everything queued
gets a mark. But a message that is in both queues of a peer, and had no
mark, gets two: the second loop does not see what the first one did.
-/
import Lxmf.Library.Marks
import Lxmf.Library.Run
import Lxmf.Proofs.Store
import Lxmf.Proofs.ShelfEvents
import Lxmf.Proofs.Throttle

namespace Lxmf

-- ======================================================== the peer sets

namespace PropagationStore

/-- For which peers a message is handled, and for which it is not yet. -/
def marks (s : PropagationStore) : Marks (Hash32 × Hash16) where
  handled c := s.isPeerHandled c.1 c.2 = true
  unhandled c := s.isPeerUnhandled c.1 c.2 = true

/-- No message is handled for a peer and unhandled for it too. -/
def SetsApart (s : PropagationStore) : Prop :=
  ∀ id p, ¬ (s.isPeerHandled id p = true ∧ s.isPeerUnhandled id p = true)

section Sets

variable {s : PropagationStore} {sets : HashMap Hash32 (Finset Hash16)}
  {id transientId : Hash32} {p peerId : Hash16}

theorem any_mem_iff_peersOf :
    ((sets.lookup id).any fun peers => decide (p ∈ peers)) = true
      ↔ p ∈ peersOf sets id := by
  unfold peersOf
  cases sets.lookup id with
  | none => simp
  | some peers => simp

theorem any_mem_iff_messagesForPeer :
    ((sets.lookup id).any fun peers => decide (p ∈ peers)) = true
      ↔ id ∈ messagesForPeer sets p := by
  rw [mem_messagesForPeer, Option.any_eq_true]
  simp only [decide_eq_true_eq]

theorem isPeerHandled_iff :
    s.isPeerHandled id p = true ↔ p ∈ peersOf s.handledPeers id :=
  any_mem_iff_peersOf

theorem isPeerUnhandled_iff :
    s.isPeerUnhandled id p = true ↔ p ∈ peersOf s.unhandledPeers id :=
  any_mem_iff_peersOf

theorem peersOf_insert (peers : Finset Hash16) :
    peersOf (sets.insert transientId peers) id
      = if id = transientId then peers else peersOf sets id := by
  unfold peersOf
  by_cases h : id = transientId
  · rw [if_pos h, h, AList.lookup_insert]
    rfl
  · rw [if_neg h, AList.lookup_insert_ne h]

theorem peersOf_erase :
    peersOf (sets.erase transientId) id
      = if id = transientId then ∅ else peersOf sets id := by
  unfold peersOf
  by_cases h : id = transientId
  · rw [if_pos h, h, AList.lookup_erase]
    rfl
  · rw [if_neg h, AList.lookup_erase_ne h]

theorem mem_addPeer_iff :
    p ∈ peersOf (s.addPeer sets transientId peerId).2 id
      ↔ p ∈ peersOf sets id
        ∨ (id = transientId ∧ p = peerId ∧ s.has id = true) := by
  unfold addPeer
  split
  case isFalse hout =>
    refine (or_iff_left ?_).symm
    rintro ⟨rfl, -, hhas⟩
    exact hout hhas
  case isTrue hhas =>
    dsimp only
    rw [peersOf_insert]
    by_cases h : id = transientId
    · subst h
      rw [if_pos rfl, Finset.mem_insert, or_comm]
      simp [hhas]
    · simp [h]

theorem mem_removePeer_iff :
    p ∈ peersOf (s.removePeer sets transientId peerId) id
      ↔ p ∈ peersOf sets id
        ∧ ¬ (id = transientId ∧ p = peerId ∧ s.has id = true) := by
  have hsame (h : ¬ (id = transientId ∧ p = peerId ∧ s.has id = true)) :
      p ∈ peersOf sets id ↔ p ∈ peersOf sets id
        ∧ ¬ (id = transientId ∧ p = peerId ∧ s.has id = true) :=
    (and_iff_left h).symm
  unfold removePeer
  split
  case isFalse hout =>
    refine hsame ?_
    rintro ⟨rfl, -, hhas⟩
    exact hout hhas
  case isTrue hhas =>
    split
    case h_2 hnone =>
      have hempty : peersOf sets transientId = ∅ := by
        unfold peersOf
        rw [hnone]
        rfl
      by_cases h : id = transientId
      · subst h
        rw [hempty]
        simp
      · exact hsame fun hboth => h hboth.1
    case h_1 peers hpeers =>
      -- the set without the peer, dropped when it is empty
      have hset : peersOf (if peers.erase peerId = ∅
            then sets.erase transientId
            else sets.insert transientId (peers.erase peerId)) id
          = if id = transientId then peers.erase peerId
            else peersOf sets id := by
        split
        case isTrue hempty => rw [peersOf_erase, hempty]
        case isFalse => rw [peersOf_insert]
      rw [hset]
      by_cases h : id = transientId
      · subst h
        have hold : peersOf sets id = peers := by
          unfold peersOf
          rw [hpeers]
          rfl
        rw [if_pos rfl, hold, Finset.mem_erase, and_comm]
        simp [hhas]
      · rw [if_neg h]
        exact hsame fun hboth => h hboth.1

end Sets

end PropagationStore

-- ============================================================= one peer

namespace Peer

open PropagationStore
open LxmfRouter (processHandled_entries processUnhandled_entries)

variable {s : PropagationStore} {q : Hash16} {H U : List Hash32}
  {t : Hash32} {c : Hash32 × Hash16}

/-- What the queues of a peer ask of the marks. -/
def demand (peer : Peer) (s : PropagationStore) :
    Marks (Hash32 × Hash16) where
  handled c := c.2 = peer.id ∧ s.has c.1 = true
    ∧ c.1 ∈ peer.handledMessagesQueue
  unhandled c := c.2 = peer.id ∧ s.has c.1 = true
    ∧ c.1 ∈ peer.unhandledMessagesQueue

/-- A peer with nothing queued. -/
def drained (peer : Peer) : Peer :=
  { peer with handledMessagesQueue := [], unhandledMessagesQueue := [] }

theorem not_queuedItems_iff {peer : Peer} : ¬ peer.queuedItems = true
    ↔ peer.handledMessagesQueue = [] ∧ peer.unhandledMessagesQueue = [] := by
  unfold queuedItems
  rw [Bool.or_eq_true, not_or]
  simp

theorem drained_eq {peer : Peer} (h : ¬ peer.queuedItems = true) :
    peer.drained = peer := by
  obtain ⟨hhandled, hunhandled⟩ := not_queuedItems_iff.mp h
  cases peer
  subst hhandled hunhandled
  rfl

/-- The first loop handles what it finds in the queue. -/
theorem processHandled_handled :
    (processHandled q H U s t).marks.handled c
      ↔ s.marks.handled c
        ∨ (c.1 = t ∧ c.2 = q ∧ s.has c.1 = true ∧ t ∉ H) := by
  show (processHandled q H U s t).isPeerHandled c.1 c.2 = true
    ↔ s.isPeerHandled c.1 c.2 = true ∨ _
  rw [isPeerHandled_iff, isPeerHandled_iff]
  have hsets : (processHandled q H U s t).handledPeers
      = if H.contains t then s.handledPeers
        else (s.addPeer s.handledPeers t q).2 := by
    unfold processHandled
    split <;> split <;> rfl
  rw [hsets]
  by_cases h : t ∈ H
  · rw [if_pos (List.contains_iff_mem.mpr h)]
    simp [h]
  · rw [if_neg fun hh => h (List.contains_iff_mem.mp hh), mem_addPeer_iff]
    simp [h]

/-- It takes what was unhandled out of the other set. -/
theorem processHandled_unhandled :
    (processHandled q H U s t).marks.unhandled c
      ↔ s.marks.unhandled c
        ∧ ¬ (c.1 = t ∧ c.2 = q ∧ s.has c.1 = true ∧ t ∈ U) := by
  show (processHandled q H U s t).isPeerUnhandled c.1 c.2 = true
    ↔ s.isPeerUnhandled c.1 c.2 = true ∧ _
  rw [isPeerUnhandled_iff, isPeerUnhandled_iff]
  have hsets : (processHandled q H U s t).unhandledPeers
      = if U.contains t then s.removePeer s.unhandledPeers t q
        else s.unhandledPeers := by
    unfold processHandled
    split <;> split <;> rfl
  rw [hsets]
  by_cases h : t ∈ U
  · rw [if_pos (List.contains_iff_mem.mpr h), mem_removePeer_iff]
    simp [h]
  · rw [if_neg fun hh => h (List.contains_iff_mem.mp hh)]
    simp [h]

theorem processUnhandled_handled :
    (processUnhandled q H U s t).marks.handled c ↔ s.marks.handled c := by
  unfold processUnhandled
  split
  case isTrue => exact Iff.rfl
  case isFalse => exact Iff.rfl

/-- The second loop adds what was in neither set before the first. -/
theorem processUnhandled_unhandled :
    (processUnhandled q H U s t).marks.unhandled c
      ↔ s.marks.unhandled c
        ∨ (c.1 = t ∧ c.2 = q ∧ s.has c.1 = true ∧ t ∉ H ∧ t ∉ U) := by
  show (processUnhandled q H U s t).isPeerUnhandled c.1 c.2 = true
    ↔ s.isPeerUnhandled c.1 c.2 = true ∨ _
  rw [isPeerUnhandled_iff, isPeerUnhandled_iff]
  unfold processUnhandled
  by_cases h : t ∈ H ∨ t ∈ U
  · have hseen : (H.contains t || U.contains t) = true := by
      simpa using h
    rw [if_pos hseen]
    refine (or_iff_left ?_).symm
    rintro ⟨-, -, -, hH, hU⟩
    exact h.elim hH hU
  · have hseen : ¬ (H.contains t || U.contains t) = true := by
      simpa using h
    rw [if_neg hseen]
    show c.2 ∈ peersOf (s.addPeer s.unhandledPeers t q).2 c.1 ↔ _
    rw [mem_addPeer_iff]
    simp only [not_or] at h
    simp [h]

-- ------------------------------------------------------- the two loops

/-- The stored messages are those of `s₀`. -/
def SameEntries (s₀ s : PropagationStore) : Prop := s.entries = s₀.entries

theorem SameEntries.has {s₀ : PropagationStore} (h : SameEntries s₀ s)
    (id : Hash32) : s.has id = s₀.has id := by
  unfold PropagationStore.has
  rw [h]

/-- The first loop, from the store the snapshots are of. -/
theorem foldl_processHandled (queue : List Hash32)
    (hH : s.handledMessagesForPeer q = H)
    (hU : s.unhandledMessagesForPeer q = U) (c : Hash32 × Hash16) :
    SameEntries s (queue.foldl (processHandled q H U) s)
      ∧ ((queue.foldl (processHandled q H U) s).marks.handled c
        ↔ s.marks.handled c
          ∨ (c.2 = q ∧ s.has c.1 = true ∧ c.1 ∈ queue))
      ∧ ((queue.foldl (processHandled q H U) s).marks.unhandled c
        ↔ s.marks.unhandled c
          ∧ ¬ (c.2 = q ∧ s.has c.1 = true ∧ c.1 ∈ queue)) := by
  have hsets := Marks.foldl_sets
    (Q := fun s' => s'.marks.handled c)
    (R := fun t => c.1 = t ∧ c.2 = q ∧ s.has c.1 = true ∧ t ∉ H)
    (f := processHandled q H U) (I := SameEntries s) (s := s)
    (fun s' t hs' => ⟨processHandled_entries.1.trans hs', by
      rw [processHandled_handled, hs'.has]⟩) queue rfl
  have hclears := Marks.foldl_clears
    (Q := fun s' => s'.marks.unhandled c)
    (R := fun t => c.1 = t ∧ c.2 = q ∧ s.has c.1 = true ∧ t ∈ U)
    (f := processHandled q H U) (I := SameEntries s) (s := s)
    (fun s' t hs' => ⟨processHandled_entries.1.trans hs', by
      rw [processHandled_unhandled, hs'.has]⟩) queue rfl
  refine ⟨hsets.1, hsets.2.trans ?_, hclears.2.trans ?_⟩
  · constructor
    · rintro (hbefore | ⟨t, ht, rfl, hq, hhas, -⟩)
      · exact .inl hbefore
      · exact .inr ⟨hq, hhas, ht⟩
    · rintro (hbefore | ⟨hq, hhas, ht⟩)
      · exact .inl hbefore
      · by_cases hc : c.1 ∈ H
        · -- what the snapshot has is handled already
          subst hH hq
          exact .inl (any_mem_iff_messagesForPeer.mpr hc)
        · exact .inr ⟨c.1, ht, rfl, hq, hhas, hc⟩
  · refine and_congr_right fun hbefore => not_congr ?_
    constructor
    · rintro ⟨t, ht, rfl, hq, hhas, -⟩
      exact ⟨hq, hhas, ht⟩
    · rintro ⟨hq, hhas, ht⟩
      subst hU hq
      exact ⟨c.1, ht, rfl, rfl, hhas,
        any_mem_iff_messagesForPeer.mp hbefore⟩

/-- The second loop, from a store with the messages of the one the
snapshots are of. -/
theorem foldl_processUnhandled (queue : List Hash32)
    {s₀ : PropagationStore} (hs : SameEntries s₀ s)
    (hH : s₀.handledMessagesForPeer q = H)
    (hU : s₀.unhandledMessagesForPeer q = U) (c : Hash32 × Hash16) :
    SameEntries s₀ (queue.foldl (processUnhandled q H U) s)
      ∧ ((queue.foldl (processUnhandled q H U) s).marks.handled c
        ↔ s.marks.handled c)
      ∧ ((queue.foldl (processUnhandled q H U) s).marks.unhandled c
        ↔ s.marks.unhandled c
          ∨ ((c.2 = q ∧ s₀.has c.1 = true ∧ c.1 ∈ queue)
            ∧ ¬ s₀.marks.Marked c)) := by
  have hkept := Marks.foldl_sets
    (Q := fun s' => s'.marks.handled c) (R := fun _ => False)
    (f := processUnhandled q H U) (I := SameEntries s₀) (s := s)
    (fun s' t hs' => ⟨processUnhandled_entries.1.trans hs', by
      rw [processUnhandled_handled, or_false]⟩) queue hs
  have hsets := Marks.foldl_sets
    (Q := fun s' => s'.marks.unhandled c)
    (R := fun t => c.1 = t ∧ c.2 = q ∧ s₀.has c.1 = true
      ∧ t ∉ H ∧ t ∉ U)
    (f := processUnhandled q H U) (I := SameEntries s₀) (s := s)
    (fun s' t hs' => ⟨processUnhandled_entries.1.trans hs', by
      rw [processUnhandled_unhandled, hs'.has]⟩) queue hs
  refine ⟨hsets.1, hkept.2.trans (by simp), hsets.2.trans ?_⟩
  subst hH hU
  refine or_congr_right ?_
  constructor
  · rintro ⟨t, ht, rfl, rfl, hhas, hnotH, hnotU⟩
    refine ⟨⟨rfl, hhas, ht⟩, ?_⟩
    rintro (hhandled | hunhandled)
    · exact hnotH (any_mem_iff_messagesForPeer.mp hhandled)
    · exact hnotU (any_mem_iff_messagesForPeer.mp hunhandled)
  · rintro ⟨⟨rfl, hhas, ht⟩, hnone⟩
    refine ⟨c.1, ht, rfl, rfl, hhas, ?_, ?_⟩
    · exact fun hc => hnone (.inl (any_mem_iff_messagesForPeer.mpr hc))
    · exact fun hc => hnone (.inr (any_mem_iff_messagesForPeer.mpr hc))

/-- The queues of a peer are one demand, settled at once. -/
theorem processQueues_settles (peer : Peer) (s : PropagationStore) :
    (peer.demand s).Settles s.marks (peer.processQueues s).2.marks := by
  have hfirst := foldl_processHandled (s := s) (q := peer.id)
    peer.handledMessagesQueue rfl rfl
  have hsecond (c : Hash32 × Hash16) := foldl_processUnhandled
    (q := peer.id) peer.unhandledMessagesQueue (hfirst c).1 rfl rfl c
  refine ⟨fun c => ?_, fun c => ?_⟩
  · exact (hsecond c).2.1.trans (hfirst c).2.1
  · exact (hsecond c).2.2.trans (or_congr_left (hfirst c).2.2)

end Peer

-- ============================================================ the flush

namespace LxmfRouter

variable {σ : Type} {r : LxmfRouter σ} {k : Hash16}

/-- The message waits for the peer under `k`: in the second queue of the
peer, or in the distribution queue and not from this peer. -/
def QueuedFor (r : LxmfRouter σ) (k : Hash16) (peer : Peer)
    (id : Hash32) : Prop :=
  id ∈ peer.unhandledMessagesQueue
    ∨ ∃ fromPeer, (id, fromPeer) ∈ r.peerDistributionQueue
      ∧ fromPeer ≠ some k

/-- What a flush asks of the marks for the peer under `k`. -/
def flushDemand (r : LxmfRouter σ) (k : Hash16) :
    Marks (Hash32 × Hash16) where
  handled c := ∃ peer, r.peers.lookup k = some peer ∧ c.2 = peer.id
    ∧ r.propagationStore.has c.1 = true ∧ c.1 ∈ peer.handledMessagesQueue
  unhandled c := ∃ peer, r.peers.lookup k = some peer ∧ c.2 = peer.id
    ∧ r.propagationStore.has c.1 = true ∧ r.QueuedFor k peer c.1

/-- What the loop over the peers asks, the distribution queue gone. -/
def demandOf (r : LxmfRouter σ) (k : Hash16) :
    Marks (Hash32 × Hash16) where
  handled c := ∃ peer, r.peers.lookup k = some peer
    ∧ (peer.demand r.propagationStore).handled c
  unhandled c := ∃ peer, r.peers.lookup k = some peer
    ∧ (peer.demand r.propagationStore).unhandled c

-- ----------------------------------------------- the distribution queue

theorem mem_distribute {queue : List (Hash32 × Option Hash16)}
    {peer : Peer} {id : Hash32} :
    id ∈ (distribute queue k peer).unhandledMessagesQueue
      ↔ id ∈ peer.unhandledMessagesQueue
        ∨ ∃ fromPeer, (id, fromPeer) ∈ queue ∧ fromPeer ≠ some k := by
  rw [distribute_eq, List.mem_append]
  refine or_congr_right ?_
  simp only [List.mem_map, List.mem_filter, decide_eq_true_eq,
    Prod.exists, exists_and_right, exists_eq_right]

theorem flushPeerDistributionQueue_lookup (r : LxmfRouter σ)
    (k : Hash16) :
    r.flushPeerDistributionQueue.peers.lookup k
      = (r.peers.lookup k).map (distribute r.peerDistributionQueue k) :=
  PeerTable.lookup_modify_keys _ r.peers k

/-- Once the distribution queue is handed out, all that is asked for is
in the queues of the peers. -/
theorem flushPeerDistributionQueue_demandOf (r : LxmfRouter σ)
    (k : Hash16) :
    r.flushPeerDistributionQueue.demandOf k = r.flushDemand k := by
  have hstore : r.flushPeerDistributionQueue.propagationStore
      = r.propagationStore := rfl
  unfold demandOf flushDemand
  rw [flushPeerDistributionQueue_lookup, hstore]
  cases r.peers.lookup k with
  | none => simp
  | some peer =>
      have hid : (distribute r.peerDistributionQueue k peer).id
          = peer.id := (distribute_sameSync _ k peer).id
      have hhandled : (distribute r.peerDistributionQueue k
          peer).handledMessagesQueue = peer.handledMessagesQueue := by
        rw [distribute_eq]
      simp [Peer.demand, hid, hhandled, mem_distribute, QueuedFor]

-- ------------------------------------------------------------ the peers

/-- One turn of the loop settles the queues of one peer. -/
theorem flushPeer_settles (r : LxmfRouter σ) (k : Hash16) :
    (r.demandOf k).Settles r.propagationStore.marks
      (r.flushPeer k).propagationStore.marks := by
  rcases r.flushPeer_cases k with ⟨heq, hidle⟩ | ⟨peer, hpeer, heq⟩
  · rw [heq]
    refine .of_unmarked ?_
    rintro c (⟨peer, hpeer, -, -, hmem⟩ | ⟨peer, hpeer, -, -, hmem⟩)
    · obtain ⟨hhandled, -⟩ :=
        Peer.not_queuedItems_iff.mp (hidle peer hpeer)
      rw [hhandled] at hmem
      cases hmem
    · obtain ⟨-, hunhandled⟩ :=
        Peer.not_queuedItems_iff.mp (hidle peer hpeer)
      rw [hunhandled] at hmem
      cases hmem
  · have hdemand : r.demandOf k = peer.demand r.propagationStore := by
      unfold demandOf
      rw [hpeer]
      simp
    rw [hdemand, heq]
    exact peer.processQueues_settles r.propagationStore

/-- The peer of that turn is left with nothing queued. -/
theorem flushPeer_lookup (r : LxmfRouter σ) (k other : Hash16) :
    (r.flushPeer k).peers.lookup other
      = if other = k then (r.peers.lookup other).map Peer.drained
        else r.peers.lookup other := by
  rcases r.flushPeer_cases k with ⟨heq, hidle⟩ | ⟨peer, hpeer, heq⟩
  · rw [heq]
    split
    case isFalse => rfl
    case isTrue h =>
      rw [h]
      cases hpeer : r.peers.lookup k with
      | none => rfl
      | some peer =>
          rw [Option.map_some, Peer.drained_eq (hidle peer hpeer)]
  · rw [heq]
    dsimp only
    split
    case isTrue h =>
      rw [h, hpeer, AList.lookup_insert]
      rfl
    case isFalse h => exact AList.lookup_insert_ne h

theorem flushPeer_has (r : LxmfRouter σ) (k : Hash16) (id : Hash32) :
    (r.flushPeer k).propagationStore.has id
      = r.propagationStore.has id := by
  rcases r.flushPeer_cases k with ⟨heq, -⟩ | ⟨peer, -, heq⟩
  · rw [heq]
  · rw [heq]
    exact Peer.SameEntries.has (processQueues_entries peer _).1 id

theorem flushPeer_demandOf_of_ne {other : Hash16} (h : other ≠ k) :
    (r.flushPeer k).demandOf other = r.demandOf other := by
  unfold demandOf Peer.demand
  simp only [flushPeer_lookup, if_neg h, flushPeer_has]

theorem foldl_flushPeer_queue (ks : List Hash16) (r : LxmfRouter σ) :
    (ks.foldl flushPeer r).peerDistributionQueue
      = r.peerDistributionQueue := by
  induction ks generalizing r with
  | nil => rfl
  | cons k ks ih =>
      rw [List.foldl_cons, ih]
      rcases r.flushPeer_cases k with ⟨heq, -⟩ | ⟨peer, -, heq⟩
      · rw [heq]
      · rw [heq]

theorem foldl_flushPeer_lookup (ks : List Hash16) (r : LxmfRouter σ)
    (other : Hash16) :
    (ks.foldl flushPeer r).peers.lookup other
      = if other ∈ ks then (r.peers.lookup other).map Peer.drained
        else r.peers.lookup other := by
  induction ks generalizing r with
  | nil => rfl
  | cons k ks ih =>
      rw [List.foldl_cons, ih, flushPeer_lookup]
      by_cases h : other = k
      · subst h
        cases r.peers.lookup other with
        | none => simp
        | some peer => simp [Peer.drained]
      · simp [h]

/-- The loop settles the queues of one peer after the other; a turn does
not change what the next ones ask for. -/
theorem foldl_flushPeer_settlesAll (ks : List Hash16) (hnodup : ks.Nodup)
    (r : LxmfRouter σ) :
    Marks.SettlesAll (ks.map r.demandOf) r.propagationStore.marks
      (ks.foldl flushPeer r).propagationStore.marks := by
  induction ks generalizing r with
  | nil => exact .nil
  | cons k ks ih =>
      obtain ⟨hnew, hrest⟩ := List.nodup_cons.mp hnodup
      have hlater : ks.map (r.flushPeer k).demandOf
          = ks.map r.demandOf := by
        refine List.map_congr_left fun other hother => ?_
        refine flushPeer_demandOf_of_ne ?_
        rintro rfl
        exact hnew hother
      have htail := ih hrest (r.flushPeer k)
      rw [hlater] at htail
      exact .cons (r.flushPeer_settles k) htail

-- ------------------------------------------------------------ the whole

theorem flushQueues_empty (h : r.peers = ∅) : r.flushQueues = r := by
  have hkeys : r.peers.keys.isEmpty = true := by
    rw [h]
    rfl
  unfold flushQueues
  rw [if_pos hkeys]

theorem flushQueues_eq (h : r.peers ≠ ∅) :
    r.flushQueues = r.flushPeerDistributionQueue.peers.keys.foldl flushPeer
      r.flushPeerDistributionQueue := by
  have hkeys : ¬ r.peers.keys.isEmpty = true := by
    intro hempty
    have hentries : r.peers.entries = [] :=
      List.map_eq_nil_iff.mp (List.isEmpty_iff.mp hempty)
    exact h (AList.ext hentries)
  unfold flushQueues
  rw [if_neg hkeys]

/-- Every record is left with nothing queued, and as it was otherwise. -/
theorem flushQueues_lookup (h : r.peers ≠ ∅) (k : Hash16) :
    r.flushQueues.peers.lookup k
      = (r.peers.lookup k).map Peer.drained := by
  rw [flushQueues_eq h, foldl_flushPeer_lookup]
  have hdrained (peer : Peer) :
      (distribute r.peerDistributionQueue k peer).drained
        = peer.drained := by
    rw [distribute_eq]
    rfl
  have hlookup := r.flushPeerDistributionQueue_lookup k
  split
  case isTrue =>
    rw [hlookup]
    cases r.peers.lookup k with
    | none => rfl
    | some peer => exact congrArg some (hdrained peer)
  case isFalse hout =>
    have hnone := AList.lookup_eq_none.mpr hout
    rw [hnone]
    rw [hlookup] at hnone
    rw [Option.map_eq_none_iff.mp hnone]
    rfl

/-- The flush is the demands of the peers, settled in some order. -/
theorem flushQueues_settlesAll (h : r.peers ≠ ∅) :
    ∃ ks : List Hash16, ks.Nodup
      ∧ (∀ k peer, r.peers.lookup k = some peer → k ∈ ks)
      ∧ Marks.SettlesAll (ks.map r.flushDemand) r.propagationStore.marks
        r.flushQueues.propagationStore.marks := by
  refine ⟨r.flushPeerDistributionQueue.peers.keys, AList.keys_nodup _, ?_,
    ?_⟩
  · intro k peer hpeer
    refine AList.mem_keys.mp (AList.lookup_isSome.mp ?_)
    rw [flushPeerDistributionQueue_lookup, hpeer]
    rfl
  · have hall := foldl_flushPeer_settlesAll
      r.flushPeerDistributionQueue.peers.keys (AList.keys_nodup _)
      r.flushPeerDistributionQueue
    rw [List.map_congr_left fun k _ =>
      r.flushPeerDistributionQueue_demandOf k] at hall
    rw [flushQueues_eq h]
    exact hall

/-- What a flush with a peer leaves: the queues are empty, everything
stored that was queued has one of the two marks, and a peer is newly
unhandled only for a message that was queued for it and had neither. -/
structure Distributed (r r' : LxmfRouter σ) : Prop where
  queue : r'.peerDistributionQueue = []
  peers : ∀ k, r'.peers.lookup k = (r.peers.lookup k).map fun peer =>
    { peer with handledMessagesQueue := [], unhandledMessagesQueue := [] }
  reached : ∀ id fromPeer, (id, fromPeer) ∈ r.peerDistributionQueue →
    r.propagationStore.has id = true →
    ∀ k peer, r.peers.lookup k = some peer → fromPeer ≠ some k →
      r'.propagationStore.isPeerHandled id peer.id = true
        ∨ r'.propagationStore.isPeerUnhandled id peer.id = true
  added : ∀ id p, r'.propagationStore.isPeerUnhandled id p = true →
    r.propagationStore.isPeerUnhandled id p = false →
      r.propagationStore.isPeerHandled id p = false
        ∧ ∃ k peer, r.peers.lookup k = some peer ∧ peer.id = p
          ∧ r.QueuedFor k peer id

/-- A flush distributes what is queued; without a peer it does nothing. -/
theorem flushQueues_distributes (r : LxmfRouter σ) :
    (r.peers = ∅ → r.flushQueues = r)
      ∧ (r.peers ≠ ∅ → Distributed r r.flushQueues) := by
  refine ⟨flushQueues_empty, fun h => ?_⟩
  obtain ⟨ks, -, hmem, hall⟩ := flushQueues_settlesAll h
  refine ⟨?_, flushQueues_lookup h, ?_, ?_⟩
  · rw [flushQueues_eq h, foldl_flushPeer_queue]
    rfl
  · intro id fromPeer hqueued hhas k peer hpeer hother
    have hasked : (r.flushDemand k).unhandled (id, peer.id) :=
      ⟨peer, hpeer, rfl, hhas, .inr ⟨fromPeer, hqueued, hother⟩⟩
    exact hall.serves (List.mem_map_of_mem (hmem k peer hpeer)) hasked
  · intro id p hafter hbefore
    have hnew : r.flushQueues.propagationStore.marks.unhandled (id, p) :=
      hafter
    rcases hall.newly hnew with hold | ⟨hnone, d, hd, hasked⟩
    · cases hbefore.symm.trans hold
    · obtain ⟨k, -, rfl⟩ := List.mem_map.mp hd
      obtain ⟨peer, hpeer, hp, -, hqueued⟩ := hasked
      refine ⟨?_, k, peer, hpeer, hp.symm, hqueued⟩
      exact Bool.eq_false_iff.mpr fun hhandled => hnone (.inl hhandled)

-- ============================================================= the runs

/-- What fills the queues, and the flush. -/
inductive QueueEvent where
  | queueHandledMessage (peerId : Hash16) (transientId : Hash32)
  | queueUnhandledMessage (peerId : Hash16) (transientId : Hash32)
  | enqueuePeerDistribution (transientId : Hash32)
      (fromPeer : Option Hash16)
  | flushQueues

def handleQueueEvent (r : LxmfRouter σ) : QueueEvent → LxmfRouter σ
  | .queueHandledMessage peerId transientId =>
      { r with
        peers := PeerTable.modify r.peers peerId fun peer =>
          peer.queueHandledMessage transientId }
  | .queueUnhandledMessage peerId transientId =>
      { r with
        peers := PeerTable.modify r.peers peerId fun peer =>
          peer.queueUnhandledMessage transientId }
  | .enqueuePeerDistribution transientId fromPeer =>
      r.enqueuePeerDistribution transientId fromPeer
  | .flushQueues => r.flushQueues

/-- The event is not a flush that finds a stored message in both queues
of a peer, with neither mark. -/
def FlushesApart (r : LxmfRouter σ) : QueueEvent → Prop
  | .flushQueues => ∀ k peer id, r.peers.lookup k = some peer →
      r.propagationStore.has id = true →
      id ∈ peer.handledMessagesQueue → r.QueuedFor k peer id →
        r.propagationStore.isPeerHandled id peer.id = true
          ∨ r.propagationStore.isPeerUnhandled id peer.id = true
  | _ => True

theorem flushesApart_iff :
    r.FlushesApart .flushQueues
      ↔ ∀ k c, ¬ (r.flushDemand k).Clashes r.propagationStore.marks c := by
  constructor
  · rintro h k c ⟨⟨peer, hpeer, hid, hhas, hhandled⟩, hunhandled, hnone⟩
    obtain ⟨peer', hpeer', -, -, hqueued⟩ := hunhandled
    rw [hpeer] at hpeer'
    injection hpeer' with hsame
    subst hsame
    refine hnone ?_
    have hmarked := h k peer c.1 hpeer hhas hhandled hqueued
    rw [← hid] at hmarked
    exact hmarked
  · intro h k peer id hpeer hhas hhandled hqueued
    by_contra hnone
    exact h k (id, peer.id) ⟨⟨peer, hpeer, rfl, hhas, hhandled⟩,
      ⟨peer, hpeer, rfl, hhas, hqueued⟩, hnone⟩

/-- The table is keyed and no message has both marks for a peer. -/
structure ApartInv (r : LxmfRouter σ) : Prop where
  keyed : r.peers.Keyed
  exclusive : r.propagationStore.marks.Exclusive

theorem flushQueues_keyed (h : r.peers.Keyed) :
    r.flushQueues.peers.Keyed := by
  by_cases hempty : r.peers = ∅
  · rw [flushQueues_empty hempty]
    exact h
  · intro k peer hpeer
    rw [flushQueues_lookup hempty] at hpeer
    obtain ⟨record, hrecord, rfl⟩ := Option.map_eq_some_iff.mp hpeer
    exact h k record hrecord

theorem handleQueueEvent_keyed (h : r.peers.Keyed) (e : QueueEvent) :
    (r.handleQueueEvent e).peers.Keyed := by
  cases e with
  | queueHandledMessage => exact h.modify fun _ => rfl
  | queueUnhandledMessage => exact h.modify fun _ => rfl
  | enqueuePeerDistribution => exact h
  | flushQueues => exact flushQueues_keyed h

theorem handleQueueEvent_exclusive
    (h : r.propagationStore.marks.Exclusive) {e : QueueEvent}
    (hapart : r.FlushesApart e) :
    (r.handleQueueEvent e).propagationStore.marks.Exclusive := by
  cases e with
  | queueHandledMessage => exact h
  | queueUnhandledMessage => exact h
  | enqueuePeerDistribution => exact h
  | flushQueues =>
      show r.flushQueues.propagationStore.marks.Exclusive
      by_cases hempty : r.peers = ∅
      · rw [flushQueues_empty hempty]
        exact h
      · obtain ⟨ks, -, -, hall⟩ := flushQueues_settlesAll hempty
        refine hall.exclusive h fun d hd c => ?_
        obtain ⟨k, -, rfl⟩ := List.mem_map.mp hd
        exact flushesApart_iff.mp hapart k c

/-- Peers under their own ids ask for different cells, so that a clash
is not undone by a later peer. -/
theorem flushDemand_pairwise (h : r.peers.Keyed) {ks : List Hash16}
    (hnodup : ks.Nodup) :
    (ks.map r.flushDemand).Pairwise fun d e =>
      ∀ c, ¬ (d.Marked c ∧ e.Marked c) := by
  have hkey {k : Hash16} {c : Hash32 × Hash16}
      (hc : (r.flushDemand k).Marked c) : c.2 = k := by
    rcases hc with ⟨peer, hpeer, hid, -⟩ | ⟨peer, hpeer, hid, -⟩
    · exact hid.trans (h k peer hpeer)
    · exact hid.trans (h k peer hpeer)
  refine List.pairwise_map.mpr (hnodup.imp ?_)
  rintro k k' hne c ⟨hc, hc'⟩
  exact hne ((hkey hc).symm.trans (hkey hc'))

theorem handleQueueEvent_apart (h : r.peers.Keyed) {e : QueueEvent}
    (hafter : (r.handleQueueEvent e).propagationStore.marks.Exclusive) :
    r.FlushesApart e := by
  cases e with
  | queueHandledMessage => trivial
  | queueUnhandledMessage => trivial
  | enqueuePeerDistribution => trivial
  | flushQueues =>
      refine flushesApart_iff.mpr fun k c hclash => ?_
      obtain ⟨peer, hpeer, -⟩ := hclash.1
      have hsome : r.peers ≠ ∅ := by
        intro hempty
        rw [hempty] at hpeer
        cases hpeer
      obtain ⟨ks, hnodup, hmem, hall⟩ := flushQueues_settlesAll hsome
      exact hall.not_clashes (flushDemand_pairwise h hnodup) hafter _
        (List.mem_map_of_mem (hmem k peer hpeer)) c hclash

/-- From empty peer sets no message is ever handled and unhandled for
one peer, if no flush finds it in both queues of the peer with neither
mark; in a table of peers under their own ids, only if. -/
theorem handled_unhandled_apart (r : LxmfRouter σ)
    (hempty : ∀ id p, r.propagationStore.isPeerHandled id p = false
      ∧ r.propagationStore.isPeerUnhandled id p = false)
    (es : List QueueEvent) :
    ((∀ done e, done ++ [e] <+: es →
        (done.foldl handleQueueEvent r).FlushesApart e) →
      ∀ done, done <+: es →
        (done.foldl handleQueueEvent r).propagationStore.SetsApart)
    ∧ (r.peers.Keyed →
      (∀ done, done <+: es →
        (done.foldl handleQueueEvent r).propagationStore.SetsApart) →
      ∀ done e, done ++ [e] <+: es →
        (done.foldl handleQueueEvent r).FlushesApart e) := by
  have hstart : r.propagationStore.marks.Exclusive := by
    rintro c ⟨hhandled, -⟩
    cases (hempty c.1 c.2).1.symm.trans hhandled
  refine ⟨fun hapart done hdone id p => ?_, fun hkeyed hexclusive => ?_⟩
  · exact @Run.throughout (LxmfRouter σ) QueueEvent handleQueueEvent
      FlushesApart (fun r => r.propagationStore.marks.Exclusive) r es
      hstart (fun _ _ h => handleQueueEvent_exclusive h) hapart done hdone
      (id, p)
  · refine (@Run.holds_throughout_iff (LxmfRouter σ) QueueEvent
      handleQueueEvent FlushesApart ApartInv r es (fun _ _ => True)
      (fun r => r.propagationStore.marks.Exclusive) ⟨hkeyed, hstart⟩
      (fun _ h => h.exclusive) ?_ ?_ (fun _ _ _ => trivial)).mp
      fun done hdone c => hexclusive done hdone c.1 c.2
    · exact fun r e h _ hapart => ⟨handleQueueEvent_keyed h.keyed e,
        handleQueueEvent_exclusive h.exclusive hapart⟩
    · exact fun r e h _ hafter => handleQueueEvent_apart h.keyed hafter

section Instance

open Reference
open PropagationStore (docEntry)

/-- A node with one peer and one stored message. -/
def queueNode : LxmfRouter InMemoryStore :=
  { docNode with
    peers := (∅ : PeerTable).insert stampless (Peer.new stampless 0)
    propagationStore :=
      PropagationStore.new.insertWithStampValue docEntry 0 }

theorem queueNode_unmarked (id : Hash32) (p : Hash16) :
    queueNode.propagationStore.isPeerHandled id p = false
      ∧ queueNode.propagationStore.isPeerUnhandled id p = false :=
  ⟨rfl, rfl⟩

/-- The message is distributed, and is in one set only. -/
theorem handled_unhandled_apart_doc :
    (queueNode.enqueuePeerDistribution docEntry.transientId
        none).flushQueues.propagationStore.SetsApart
      ∧ (queueNode.enqueuePeerDistribution docEntry.transientId
          none).flushQueues.propagationStore.isPeerUnhandled
            docEntry.transientId stampless = true := by
  refine ⟨?_, by decide +kernel⟩
  refine (handled_unhandled_apart queueNode queueNode_unmarked
    [.enqueuePeerDistribution docEntry.transientId none, .flushQueues]).1
    ?_ _ (List.prefix_refl _)
  refine (@Run.forall_step_cons (LxmfRouter InMemoryStore) QueueEvent
    handleQueueEvent FlushesApart queueNode _ _).mpr ⟨trivial, ?_⟩
  intro done e hprefix
  obtain ⟨rfl, rfl⟩ := Run.prefix_singleton hprefix
  have hnothing : ∀ e ∈ queueNode.peers.entries,
      e.2.handledMessagesQueue = [] := by decide +kernel
  intro k peer id hpeer _ hhandled
  rw [hnothing ⟨k, peer⟩ (AList.mem_lookup_iff.mp hpeer)] at hhandled
  cases hhandled

/-- The peer queues the message as handled and as unhandled, and has it
in both sets after one flush. -/
theorem queued_both_ways_not_apart :
    ¬ ∀ (r : LxmfRouter InMemoryStore) (es done : List QueueEvent),
      (∀ id p, r.propagationStore.isPeerHandled id p = false
        ∧ r.propagationStore.isPeerUnhandled id p = false) →
      done <+: es →
        (done.foldl handleQueueEvent r).propagationStore.SetsApart := by
  intro h
  refine h queueNode [.queueHandledMessage stampless docEntry.transientId,
    .queueUnhandledMessage stampless docEntry.transientId, .flushQueues] _
    queueNode_unmarked (List.prefix_refl _) docEntry.transientId stampless
    ?_
  decide +kernel

end Instance

end LxmfRouter

end Lxmf
