/-
What one peer-sync request can do to a router.

# Frames

Every handler is summarised once, as the router it returns: the record
it was given with the fields it may touch replaced. What a handler
leaves alone is read off that equation.
-/
import Lxmf.Library.Except
import Lxmf.Router.Jobs
import Lxmf.Proofs.Transport

namespace Lxmf

section Frames

variable {σ : Type} {P : Platform}

namespace LxmfRouter

-- ================================================ one equation a handler

theorem fileEntry_eq (r : LxmfRouter σ) (entry : PropagationEntry)
    (nowMs : Nat) :
    ∃ root, r.fileEntry P entry nowMs =
      { r with
        propagationStore := r.propagationStore.insert P entry
        locallyProcessed :=
          r.locallyProcessed.insert entry.transientId (nowS nowMs)
        persistenceRoot := root } :=
  ⟨_, rfl⟩

theorem processPropagated_eq (r : LxmfRouter σ) (timestamp : F64)
    (lxmData : Bytes) (nowMs : Nat) (sourceHash : Option Hash16)
    (countClientReceive : Bool) :
    ∃ store processed root stats,
      (r.processPropagated P timestamp lxmData nowMs sourceHash
        countClientReceive).2 =
      { r with
        propagationStore := store
        locallyProcessed := processed
        persistenceRoot := root
        nodeStats := stats } := by
  unfold processPropagated
  split
  case h_1 => exact ⟨_, _, _, _, rfl⟩
  case h_2 =>
    split
    case isTrue => exact ⟨_, _, _, _, rfl⟩
    case isFalse => exact ⟨_, _, _, _, rfl⟩

theorem handlePeerSyncOffer_eq (r : LxmfRouter σ) (peerId : Hash16)
    (req : PeerSyncRequest) (nowMs : Nat) :
    ∃ peers, (r.handlePeerSyncOffer P peerId req nowMs).2
      = { r with peers := peers } := by
  unfold handlePeerSyncOffer
  split
  case h_1 =>
    dsimp only
    split
    case isTrue => exact ⟨_, rfl⟩
    case isFalse => exact ⟨_, rfl⟩
  case h_2 => exact ⟨_, rfl⟩

theorem peerSyncMessageGet_eq (r : LxmfRouter σ) (peerId : Hash16)
    (response : PeerSyncResponse) (limit : Option F64) (nowMs : Nat) :
    ∃ peers, (r.peerSyncMessageGet peerId response limit nowMs).2
      = { r with peers := peers } := by
  unfold peerSyncMessageGet
  dsimp only
  split
  case isTrue => exact ⟨_, rfl⟩
  case isFalse => exact ⟨_, rfl⟩

theorem handlePeerSyncMessageGet_eq (r : LxmfRouter σ) (peerId : Hash16)
    (req : PeerSyncRequest) (nowMs : Nat) :
    ∃ peers stats, (r.handlePeerSyncMessageGet P peerId req nowMs).2
      = { r with peers := peers, nodeStats := stats } := by
  unfold handlePeerSyncMessageGet
  split
  case h_1 => exact ⟨_, _, rfl⟩
  case h_2 => exact ⟨_, _, rfl⟩
  case h_3 => exact ⟨_, _, rfl⟩

theorem removeEntry_eq (r : LxmfRouter σ) (id : Hash32) :
    ∃ root, r.removeEntry id =
      { r with
        propagationStore := r.propagationStore.remove id
        persistenceRoot := root } := by
  unfold removeEntry
  dsimp only
  split
  case h_1 =>
    unfold removePropagationEntryExact
    split
    case h_1 => exact ⟨_, rfl⟩
    case h_2 => exact ⟨_, rfl⟩
  case h_2 => exact ⟨_, rfl⟩

theorem removeEntries_eq (r : LxmfRouter σ) (ids : List Hash32) :
    ∃ root, ids.foldl removeEntry r =
      { r with
        propagationStore := ids.foldl PropagationStore.remove
          r.propagationStore
        persistenceRoot := root } := by
  induction ids generalizing r with
  | nil => exact ⟨_, rfl⟩
  | cons id ids ih =>
      obtain ⟨root, hid⟩ := removeEntry_eq r id
      obtain ⟨root', hids⟩ := ih (r.removeEntry id)
      rw [List.foldl_cons, List.foldl_cons, hids, hid]
      exact ⟨root', rfl⟩

/-- The eviction loop drops entries and does nothing else. -/
theorem evictEntries_drops (bytesNeeded : Nat)
    (weighted : List (Hash32 × Nat)) (cleaned : Nat) (r : LxmfRouter σ) :
    ∃ ids : List Hash32, (evictEntries bytesNeeded weighted cleaned r).2
      = ids.foldl removeEntry r := by
  induction weighted generalizing cleaned r with
  | nil => exact ⟨[], rfl⟩
  | cons entry weighted ih =>
      unfold evictEntries
      split
      case isTrue => exact ⟨[], rfl⟩
      case isFalse =>
        split
        case isTrue =>
          obtain ⟨ids, hids⟩ := ih (satAdd64 cleaned entry.2)
            (r.removeEntry entry.1)
          exact ⟨entry.1 :: ids, hids⟩
        case isFalse => exact ih cleaned r

/-- Cleaning the store drops every expired entry, and some others. -/
theorem cleanPropagationStore_drops (r : LxmfRouter σ) (nowMs : Nat) :
    ∃ ids : List Hash32,
      (r.cleanPropagationStore nowMs).2 = ids.foldl removeEntry r
      ∧ ∀ id entry, r.propagationStore.entries.lookup id = some entry →
        expiredEntry (nowS nowMs) entry = true → id ∈ ids := by
  unfold cleanPropagationStore
  dsimp only
  generalize hexpired : ((r.propagationStore.entries.entries.filter
    fun e => expiredEntry (nowS nowMs) e.2).map (·.1)) = expired
  have hmem : ∀ id entry,
      r.propagationStore.entries.lookup id = some entry →
      expiredEntry (nowS nowMs) entry = true → id ∈ expired := by
    intro id entry hget hold
    rw [← hexpired]
    refine List.mem_map.mpr ⟨⟨id, entry⟩, List.mem_filter.mpr ⟨?_, hold⟩,
      rfl⟩
    exact AList.mem_lookup_iff.mp hget
  split
  case h_1 limitBytes _ =>
    split
    case isTrue =>
      obtain ⟨ids, hids⟩ := evictEntries_drops
        ((expired.foldl removeEntry r).propagationStore.totalSizeBytes
          - limitBytes)
        ((expired.foldl removeEntry r).byWeight (nowS nowMs)) 0
        (expired.foldl removeEntry r)
      refine ⟨expired ++ ids, ?_, ?_⟩
      · rw [List.foldl_append]
        exact hids
      · intro id entry hget hold
        exact List.mem_append_left _ (hmem id entry hget hold)
    case isFalse => exact ⟨expired, rfl, hmem⟩
  case h_2 => exact ⟨expired, rfl, hmem⟩

theorem applyItem_eq (minCost : Option Nat) (nowMs : Nat)
    (acc : PayloadTally × LxmfRouter σ) (item : Bytes) :
    ∃ store processed root,
      (applyItem P minCost nowMs acc item).2 =
      { acc.2 with
        propagationStore := store
        locallyProcessed := processed
        persistenceRoot := root } := by
  unfold applyItem
  dsimp only
  split
  case h_1 => exact ⟨_, _, _, rfl⟩
  case h_2 =>
    split
    case h_1 entry _ =>
      unfold acceptItem
      dsimp only
      split
      case isTrue => exact ⟨_, _, _, rfl⟩
      case isFalse => exact ⟨_, _, _, rfl⟩
    case h_2 => exact ⟨_, _, _, rfl⟩

theorem applyItems_eq (r : LxmfRouter σ) (response : PeerSyncResponse)
    (nowMs : Nat) :
    ∃ store processed root,
      (r.applyItems P response nowMs).2 =
      { r with
        propagationStore := store
        locallyProcessed := processed
        persistenceRoot := root } := by
  unfold applyItems
  split
  case h_2 => exact ⟨_, _, _, rfl⟩
  case h_1 items =>
    generalize ({} : PayloadTally) = tally
    generalize r.minStampCost = minCost
    induction items generalizing tally r with
    | nil => exact ⟨_, _, _, rfl⟩
    | cons item items ih =>
        obtain ⟨store, processed, root, h⟩ := applyItem_eq (P := P) minCost
          nowMs (tally, r) item
        obtain ⟨store', processed', root', h'⟩ := ih
          (applyItem P minCost nowMs (tally, r) item).2
          (applyItem P minCost nowMs (tally, r) item).1
        refine ⟨store', processed', root', ?_⟩
        rw [List.foldl_cons]
        refine h'.trans ?_
        rw [h]

theorem applyPeerSyncPayload_eq (r : LxmfRouter σ) (peerId : Hash16)
    (response : PeerSyncResponse) (nowMs : Nat) :
    ∃ peers store processed root,
      (r.applyPeerSyncPayload P peerId response nowMs).2 =
      { r with
        peers := peers
        propagationStore := store
        locallyProcessed := processed
        persistenceRoot := root } := by
  obtain ⟨store, processed, root, h⟩ := applyItems_eq (P := P) r response
    nowMs
  unfold applyPeerSyncPayload
  dsimp only
  rw [h]
  exact ⟨_, store, processed, root, rfl⟩

theorem unpeer_eq (r : LxmfRouter σ) (peerId : Hash16) :
    ∃ peers root, (r.unpeer peerId).2 =
      { r with peers := peers, persistenceRoot := root } := by
  unfold unpeer
  split
  case isTrue =>
    exact ⟨r.peers.erase peerId,
      r.persistenceRoot.map (Disk.removePeer peerId), rfl⟩
  case isFalse => exact ⟨r.peers, r.persistenceRoot, rfl⟩

theorem buildPeerSyncRequest_router (r : LxmfRouter σ) (peerId : Hash16)
    (req : PeerSyncRequest) (nowMs : Nat) :
    (r.buildPeerSyncRequest P peerId req nowMs).2.runtime.router
      = r.runtime.router := by
  unfold buildPeerSyncRequest
  split
  case h_1 => rfl
  case h_2 =>
    split
    case h_1 => rfl
    case h_2 => rfl

/-- The ids an acknowledgement names. -/
def acknowledged : PeerSyncRequest → List Hash32
  | .messageAck delivered => delivered
  | _ => []

theorem handlePeerSyncAck_eq (r : LxmfRouter σ) (peerId : Hash16)
    (req : PeerSyncRequest) (nowMs : Nat) :
    ∃ peers root, (r.handlePeerSyncAck peerId req nowMs).2 =
      { r with
        peers := peers
        propagationStore := (acknowledged req).foldl
          PropagationStore.remove r.propagationStore
        persistenceRoot := root } := by
  unfold handlePeerSyncAck
  split
  case h_1 delivered =>
    obtain ⟨root, h⟩ := removeEntries_eq r delivered
    dsimp only
    rw [h]
    exact ⟨_, root, rfl⟩
  case h_2 hreq =>
    have hnone : acknowledged req = [] := by
      unfold acknowledged
      split
      case h_1 delivered => exact absurd rfl (hreq delivered)
      case h_2 => rfl
    rw [hnone]
    exact ⟨_, _, rfl⟩

/-- A decoded request: the store loses the acknowledged ids, and nothing
else of it changes. -/
theorem respondPeerSync_eq (r : LxmfRouter σ) (peerId : Hash16)
    (req : PeerSyncRequest) (nowMs : Nat) :
    ∃ peers root queue stats,
      (r.respondPeerSync P peerId req nowMs).2 =
      { r with
        peers := peers
        propagationStore := (acknowledged req).foldl
          PropagationStore.remove r.propagationStore
        persistenceRoot := root
        peerSyncQueue := queue
        nodeStats := stats } := by
  unfold respondPeerSync
  split
  case h_1 key available =>
    obtain ⟨peers, hoffer⟩ := handlePeerSyncOffer_eq (P := P) r peerId
      (.offer key available) nowMs
    dsimp only
    rw [hoffer]
    generalize (r.handlePeerSyncOffer P peerId (.offer key available)
      nowMs).1 = response
    obtain ⟨peers', hget⟩ := peerSyncMessageGet_eq
      { r with peers := peers } peerId response none nowMs
    split
    case h_1 heq =>
      rw [heq] at hget
      cases hget
      exact ⟨_, _, _, _, rfl⟩
    case h_2 heq =>
      rw [heq] at hget
      cases hget
      exact ⟨_, _, _, _, rfl⟩
  case h_2 =>
    obtain ⟨peers, stats, h⟩ := handlePeerSyncMessageGet_eq (P := P) r
      peerId .messageGetList nowMs
    exact ⟨peers, _, _, stats, h⟩
  case h_3 wants haves limit =>
    obtain ⟨peers, stats, h⟩ := handlePeerSyncMessageGet_eq (P := P) r
      peerId (.messageGet wants haves limit) nowMs
    exact ⟨peers, _, _, stats, h⟩
  case h_4 delivered =>
    obtain ⟨peers, root, h⟩ := handlePeerSyncAck_eq r peerId
      (.messageAck delivered) nowMs
    exact ⟨peers, root, _, _, h⟩

/-- The ids the bytes of a request acknowledge. -/
def acknowledgedByBytes (P : Platform) (payload : Bytes) : List Hash32 :=
  match decodePeerSyncRequest P payload with
  | .ok req => acknowledged req
  | .error _ => []

/-- The ids a request acknowledges. -/
def acknowledgedBy (P : Platform) (req : RnsRequest) : List Hash32 :=
  match valueToBytes req.data with
  | some payload => acknowledgedByBytes P payload
  | none => []

theorem handlePeerSyncRequestBytes_eq (r : LxmfRouter σ)
    (peerId : Hash16) (payload : Bytes) (nowMs : Nat) :
    ∃ peers root queue stats,
      (r.handlePeerSyncRequestBytes P peerId payload nowMs).2 =
      { r with
        peers := peers
        propagationStore := (acknowledgedByBytes P payload).foldl
          PropagationStore.remove r.propagationStore
        persistenceRoot := root
        peerSyncQueue := queue
        nodeStats := stats } := by
  unfold handlePeerSyncRequestBytes acknowledgedByBytes
  dsimp only
  split
  case h_1 e hdec =>
    rw [hdec]
    exact ⟨_, _, _, _, rfl⟩
  case h_2 req hdec =>
    rw [hdec]
    obtain ⟨peers, root, queue, stats, h⟩ := respondPeerSync_eq (P := P)
      { r with peers := r.peers.upsert peerId nowMs (·.markHeard nowMs) }
      peerId req nowMs
    exact ⟨peers, root, queue, stats, h⟩

/-- A request of any bytes: the store loses the ids it acknowledges. -/
theorem handlePeerSyncRequest_eq (r : LxmfRouter σ) (peerId : Hash16)
    (req : RnsRequest) (nowMs : Nat) :
    ∃ peers root queue stats,
      (r.handlePeerSyncRequest P peerId req nowMs).2 =
      { r with
        peers := peers
        propagationStore := (acknowledgedBy P req).foldl
          PropagationStore.remove r.propagationStore
        persistenceRoot := root
        peerSyncQueue := queue
        nodeStats := stats } := by
  unfold handlePeerSyncRequest acknowledgedBy
  split
  case h_1 hdata =>
    rw [hdata]
    exact ⟨_, _, _, _, rfl⟩
  case h_2 payload hdata =>
    rw [hdata]
    obtain ⟨peers, root, queue, stats, h⟩ := handlePeerSyncRequestBytes_eq
      (P := P) r peerId payload nowMs
    refine ⟨peers, root, queue, stats, ?_⟩
    split
    case h_1 heq =>
      rw [heq] at h
      exact h
    case h_2 heq =>
      rw [heq] at h
      exact h

end LxmfRouter

end Frames

-- ============================== what a sequence of requests does to it

section Requests

variable {σ : Type} {P : Platform}

/-- A sequence of requests from one remote, each with its time. -/
def LxmfRouter.handleRequests (P : Platform) (r : LxmfRouter σ)
    (peerId : Hash16) (reqs : List (RnsRequest × Nat)) : LxmfRouter σ :=
  reqs.foldl (fun r q => (r.handlePeerSyncRequest P peerId q.1 q.2).2) r

/-- The remote never shows a key that validates. -/
def NeverAuthenticates (P : Platform) (v : PeeringValidation)
    (peerId : Hash16) (reqs : List (RnsRequest × Nat)) : Prop :=
  ∀ q ∈ reqs, ∀ payload key available, valueToBytes q.1.data = some payload →
    decodePeerSyncRequest P payload = .ok (.offer key available) →
    validatePeeringKey P (v.localIdentityHash.toList ++ peerId.toList) key
      v.targetCost = false

/-- The store has an entry, a stamp value or a file name for the id. -/
def PropagationStore.Knows (s : PropagationStore) (id : Hash32) : Prop :=
  id ∈ s.entries ∨ id ∈ s.stampValues ∨ id ∈ s.filenames

namespace PropagationStore

theorem knows_remove {s : PropagationStore} {id t : Hash32} :
    (s.remove id).Knows t ↔ t ≠ id ∧ s.Knows t := by
  unfold Knows remove
  simp only [AList.mem_erase]
  tauto

/-- The removal loop keeps of an id what none of the removals named. -/
theorem knows_removes {s : PropagationStore} {ids : List Hash32}
    {t : Hash32} :
    (ids.foldl remove s).Knows t ↔ t ∉ ids ∧ s.Knows t := by
  induction ids generalizing s with
  | nil => simp
  | cons id ids ih =>
      rw [List.foldl_cons, ih, knows_remove, List.mem_cons]
      tauto

theorem remove_of_not_knows {s : PropagationStore} {id : Hash32}
    (h : ¬ s.Knows id) : s.remove id = s := by
  have herase : ∀ {V : Type} (m : HashMap Hash32 V), id ∉ m →
      m.erase id = m := by
    intro V m hm
    exact AList.ext (List.kerase_of_notMem_keys hm)
  unfold Knows at h
  push Not at h
  unfold remove
  rw [herase _ h.1, herase _ h.2.1, herase _ h.2.2]

/-- Removals change the store exactly when one of them names something
it knows. -/
theorem removes_eq_self_iff {s : PropagationStore} {ids : List Hash32} :
    ids.foldl remove s = s ↔ ∀ id ∈ ids, ¬ s.Knows id := by
  constructor
  · intro h id hid hknows
    rw [← h, knows_removes] at hknows
    exact hknows.1 hid
  · intro h
    induction ids with
    | nil => rfl
    | cons id ids ih =>
        rw [List.foldl_cons, remove_of_not_knows (h id List.mem_cons_self)]
        exact ih fun t ht => h t (List.mem_cons_of_mem id ht)

end PropagationStore

/-- The store after a sequence of requests: it has lost what they
acknowledged, one after the other. -/
theorem handleRequests_store (r : LxmfRouter σ) (peerId : Hash16)
    (reqs : List (RnsRequest × Nat)) :
    (r.handleRequests P peerId reqs).propagationStore
      = (reqs.flatMap fun q => LxmfRouter.acknowledgedBy P q.1).foldl
        PropagationStore.remove r.propagationStore := by
  induction reqs generalizing r with
  | nil => rfl
  | cons q reqs ih =>
      obtain ⟨_, _, _, _, h⟩ := LxmfRouter.handlePeerSyncRequest_eq (P := P)
        r peerId q.1 q.2
      have hstep : r.handleRequests P peerId (q :: reqs)
          = ((r.handlePeerSyncRequest P peerId q.1 q.2).2).handleRequests P
            peerId reqs := rfl
      rw [hstep, ih, h, List.flatMap_cons, List.foldl_append]

/-- A remote's requests leave the store as it was exactly when none of
its acknowledgements names an id the store knows. A peering key, valid
or not, makes no difference. -/
theorem handleRequests_store_eq_iff (r : LxmfRouter σ) (peerId : Hash16)
    (reqs : List (RnsRequest × Nat)) :
    (r.handleRequests P peerId reqs).propagationStore = r.propagationStore
      ↔ ∀ q ∈ reqs, ∀ id ∈ LxmfRouter.acknowledgedBy P q.1,
        ¬ r.propagationStore.Knows id := by
  rw [handleRequests_store, PropagationStore.removes_eq_self_iff]
  constructor
  · intro h q hq id hid
    exact h id (List.mem_flatMap.mpr ⟨q, hq, hid⟩)
  · intro h id hid
    obtain ⟨q, hq, hid⟩ := List.mem_flatMap.mp hid
    exact h q hq id hid

end Requests

section RequestsInstance

open Reference

/-- A router of the documentation example, as `new` builds it. -/
def docNode : LxmfRouter InMemoryStore :=
  .new (RnsRouter.empty docOutbound {}) 0

/-- Its identity checks peering keys at the default cost. -/
theorem docNode_peeringValidation :
    docNode.peeringValidation
      = some ⟨docOutbound.sourceIdentity, defaultPeeringCost⟩ := rfl

/-- Propagated data of twenty bytes. -/
def docData : Bytes := List.replicate 20 0x44

/-- The router with this data in its store. -/
noncomputable def storingNode : LxmfRouter InMemoryStore :=
  (docNode.clearPropagationValidation.processPropagated platform (.fin 1)
    docData 0 none true).2

/-- An acknowledgement of that data, without a peering key. -/
noncomputable def docAck : RnsRequest where
  requestId := List.Vector.replicate 16 0
  requestedAt := .fin 0
  pathHash := List.Vector.replicate 16 0
  data := .binary ([0x92, 0xc0, 0x91, 0xc4, 0x20]
    ++ (fullHash platform docData).toList)

theorem docAck_decodes :
    decodePeerSyncRequest platform ([0x92, 0xc0, 0x91, 0xc4, 0x20]
      ++ (fullHash platform docData).toList)
      = .ok (.messageAck [fullHash platform docData]) := by
  decide +kernel

/-- A remote that never shows a key empties the store of a router that
asks for keys. -/
theorem docAck_empties_store :
    ∃ v peerId, storingNode.peeringValidation = some v
      ∧ NeverAuthenticates platform v peerId [(docAck, 0)]
      ∧ (storingNode.handleRequests platform peerId
          [(docAck, 0)]).propagationStore ≠ storingNode.propagationStore := by
  refine ⟨_, List.Vector.replicate 16 0x55, docNode_peeringValidation, ?_, ?_⟩
  · intro q hq payload key available hdata hdec
    rw [List.mem_singleton.mp hq] at hdata
    cases hdata
    rw [docAck_decodes] at hdec
    cases hdec
  · intro h
    have hbefore : storingNode.propagationStore.has
        (fullHash platform docData) = true := by decide +kernel
    have hafter : (storingNode.handleRequests platform
        (List.Vector.replicate 16 0x55) [(docAck, 0)]).propagationStore.has
          (fullHash platform docData) = false := by decide +kernel
    rw [h, hbefore] at hafter
    cases hafter

end RequestsInstance

end Lxmf
