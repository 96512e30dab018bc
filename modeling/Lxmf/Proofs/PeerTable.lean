/-
What requests, responses and ticks do to the peer table.

A request or a response changes one record, that of the peer it comes
from, and makes one if there is none (`requestEffect`,
`responseEffect`). A tick takes a few kinds of steps (`TickStep`): a
sync that takes too long fails, the peer that is due first gets an
offer, rotation drops a peer, queues are flushed, and a request without
an answer fails the peer it went to.
-/
import Mathlib.Logic.Relation
import Lxmf.Proofs.PeerSync
import Lxmf.Router.Tick

namespace Lxmf

-- ============================================================ the table

namespace PeerTable

variable {t : PeerTable} {id other : Hash16} {nowMs : Nat}
  {f g : Peer → Peer}

@[simp] theorem lookup_upsert_self :
    (t.upsert id nowMs f).lookup id
      = some (f ((t.lookup id).getD (Peer.new id nowMs))) :=
  AList.lookup_insert t

@[simp] theorem lookup_upsert_of_ne (h : other ≠ id) :
    (t.upsert id nowMs f).lookup other = t.lookup other :=
  AList.lookup_insert_ne h

theorem upsert_upsert :
    (t.upsert id nowMs f).upsert id nowMs g
      = t.upsert id nowMs fun peer => g (f peer) := by
  unfold upsert
  rw [AList.lookup_insert, AList.insert_insert]
  rfl

theorem modify_upsert :
    (t.upsert id nowMs f).modify id g
      = t.upsert id nowMs fun peer => g (f peer) := by
  unfold modify upsert
  rw [AList.lookup_insert]
  exact AList.insert_insert t

@[simp] theorem lookup_modify_self :
    (t.modify id f).lookup id = (t.lookup id).map f := by
  unfold modify
  split
  case h_1 peer hpeer =>
    rw [AList.lookup_insert, hpeer]
    rfl
  case h_2 hnone =>
    rw [hnone]
    rfl

@[simp] theorem lookup_modify_of_ne (h : other ≠ id) :
    (t.modify id f).lookup other = t.lookup other := by
  unfold modify
  split
  case h_1 => exact AList.lookup_insert_ne h
  case h_2 => rfl

/-- Every record is changed, each by a function of its own. -/
theorem lookup_modify_keys (f : Hash16 → Peer → Peer) (t : PeerTable)
    (p : Hash16) :
    (t.keys.foldl (fun t id => PeerTable.modify t id (f id)) t).lookup p
      = (t.lookup p).map (f p) := by
  have hfold (ids : List Hash16) (hnodup : ids.Nodup) (t : PeerTable) :
      (ids.foldl (fun t id => PeerTable.modify t id (f id)) t).lookup p
        = if p ∈ ids then (t.lookup p).map (f p) else t.lookup p := by
    induction ids generalizing t with
    | nil => rfl
    | cons id ids ih =>
        obtain ⟨hnew, hrest⟩ := List.nodup_cons.mp hnodup
        rw [List.foldl_cons, ih hrest]
        by_cases hp : p = id
        · subst hp
          rw [if_neg hnew, if_pos List.mem_cons_self, lookup_modify_self]
        · rw [lookup_modify_of_ne hp]
          simp only [List.mem_cons, hp, false_or]
  rw [hfold t.keys t.keys_nodup]
  split
  case isTrue => rfl
  case isFalse hout =>
    have hnone : t.lookup p = none := AList.lookup_eq_none.mpr hout
    rw [hnone]
    rfl

/-- A peer that is selected is one of the records, and ready. -/
theorem nextReady_spec (h : t.nextReady nowMs = some id) :
    ∃ key peer, t.lookup key = some peer ∧ peer.id = id
      ∧ peer.shouldSync nowMs = true := by
  obtain ⟨peer, hpeer, hid⟩ := Option.map_eq_some_iff.mp h
  have hmem := List.argmin_mem hpeer
  obtain ⟨hvalue, hready⟩ := List.mem_filter.mp hmem
  obtain ⟨e, he, rfl⟩ := List.mem_map.mp hvalue
  exact ⟨e.1, e.2, AList.mem_lookup_iff.mpr he, hid, hready⟩

end PeerTable

-- ============================================================= requests

namespace LxmfRouter

section Requests

variable {σ : Type} {P : Platform}

/-- What the bytes of a request do to the record of the peer they come
from. -/
def requestEffect (P : Platform) (r : LxmfRouter σ) (peerId : Hash16)
    (payload : Bytes) (nowMs : Nat) (peer : Peer) : Peer :=
  let peer := peer.markHeard nowMs
  match decodePeerSyncRequest P payload with
  | .error _ => peer
  | .ok (.offer key available) =>
      if r.offerKeyValid P peerId key then
        let wants := available.filter fun id => !r.propagationStore.has id
        { peer with
          lastAttemptMs := nowMs
          state := if wants.isEmpty then .idle else .awaitingPayload }
      else peer.onFailure nowMs
  | .ok .messageGetList => peer
  | .ok (.messageGet wants _ limitKb) =>
      let (items, totalBytes) := selectItems P r.propagationStore
        (limitKb.map fun kb => (kb.mul (.fin 1000)).toU64) wants ([], 0)
      { peer with
        messagesOutgoing := satAdd64 peer.messagesOutgoing items.length
        txBytes := satAdd64 peer.txBytes totalBytes }
  | .ok (.messageAck _) => peer.onPayloadComplete nowMs

/-- An offer with a valid key: asked for what is missing, if anything. -/
theorem respondOffer_peers_valid {r : LxmfRouter σ} {peerId : Hash16}
    {key : Bytes} (hkey : r.offerKeyValid P peerId key = true)
    (available : List Hash32) (nowMs : Nat) :
    (r.respondPeerSync P peerId (.offer key available) nowMs).2.peers
      = r.peers.upsert peerId nowMs fun peer =>
        { peer with
          lastAttemptMs := nowMs
          state := if (available.filter fun id =>
              !r.propagationStore.has id).isEmpty then .idle
            else .awaitingPayload } := by
  simp only [respondPeerSync, handlePeerSyncOffer, if_pos hkey]
  generalize (available.filter fun id => !r.propagationStore.has id)
    = wants
  cases wants with
  | nil => rfl
  | cons id wants =>
      simp only [answerOffer, List.isEmpty_cons, Bool.false_eq_true,
        if_false, peerSyncMessageGet, wantedIds]
      exact PeerTable.upsert_upsert

theorem respondOffer_peers_invalid {r : LxmfRouter σ} {peerId : Hash16}
    {key : Bytes} (hkey : r.offerKeyValid P peerId key = false)
    (available : List Hash32) (nowMs : Nat) :
    (r.respondPeerSync P peerId (.offer key available) nowMs).2.peers
      = r.peers.upsert peerId nowMs (·.onFailure nowMs) := by
  simp only [respondPeerSync, handlePeerSyncOffer, hkey,
    Bool.false_eq_true, if_false]
  rfl

theorem handlePeerSyncAck_peers (r : LxmfRouter σ) (peerId : Hash16)
    (delivered : List Hash32) (nowMs : Nat) :
    (r.handlePeerSyncAck peerId (.messageAck delivered) nowMs).2.peers
      = r.peers.upsert peerId nowMs (·.onPayloadComplete nowMs) := by
  obtain ⟨_, h⟩ := removeEntries_eq r delivered
  simp only [handlePeerSyncAck]
  rw [h]

theorem handlePeerSyncRequestBytes_peers (r : LxmfRouter σ)
    (peerId : Hash16) (payload : Bytes) (nowMs : Nat) :
    (r.handlePeerSyncRequestBytes P peerId payload nowMs).2.peers
      = r.peers.upsert peerId nowMs
        (r.requestEffect P peerId payload nowMs) := by
  unfold handlePeerSyncRequestBytes requestEffect
  dsimp only
  generalize hheard : ({ r with
    peers := r.peers.upsert peerId nowMs (·.markHeard nowMs) }
      : LxmfRouter σ) = heard
  have hpeers : heard.peers
      = r.peers.upsert peerId nowMs (·.markHeard nowMs) := by rw [← hheard]
  have hstore : heard.propagationStore = r.propagationStore := by
    rw [← hheard]
  have hvalid : ∀ key, heard.offerKeyValid P peerId key
      = r.offerKeyValid P peerId key := by
    intro key
    rw [← hheard]
    rfl
  cases decodePeerSyncRequest P payload with
  | error e => exact hpeers
  | ok req =>
      dsimp only
      cases req with
      | offer key available =>
          cases hkey : r.offerKeyValid P peerId key with
          | true =>
              rw [respondOffer_peers_valid ((hvalid key).trans hkey), hpeers,
                hstore, PeerTable.upsert_upsert]
              simp only [hkey, if_true]
          | false =>
              rw [respondOffer_peers_invalid ((hvalid key).trans hkey),
                hpeers, PeerTable.upsert_upsert]
              simp only [hkey, Bool.false_eq_true, if_false]
      | messageGetList => exact hpeers
      | messageGet wants haves limit =>
          simp only [respondPeerSync, handlePeerSyncMessageGet]
          rw [hpeers, hstore, PeerTable.modify_upsert]
      | messageAck delivered =>
          simp only [respondPeerSync]
          rw [handlePeerSyncAck_peers, hpeers, PeerTable.upsert_upsert]

/-- A request that is no bytes changes nothing. -/
theorem handlePeerSyncRequest_peers (r : LxmfRouter σ) (peerId : Hash16)
    (req : RnsRequest) (nowMs : Nat) :
    (r.handlePeerSyncRequest P peerId req nowMs).2.peers
      = match valueToBytes req.data with
        | some payload => r.peers.upsert peerId nowMs
            (r.requestEffect P peerId payload nowMs)
        | none => r.peers := by
  unfold handlePeerSyncRequest
  cases valueToBytes req.data with
  | none => rfl
  | some payload =>
      have h := handlePeerSyncRequestBytes_peers (P := P) r peerId payload
        nowMs
      dsimp only
      split
      case h_1 heq =>
        rw [heq] at h
        exact h
      case h_2 heq =>
        rw [heq] at h
        exact h

end Requests

-- ============================================================ responses

section Responses

variable {σ : Type} {P : Platform}

/-- The item decodes, and its stamp is refused. -/
def InvalidItem (P : Platform) (minCost : Option Nat) (item : Bytes) :
    Prop :=
  ∃ entry, PropagationEntry.fromBytes P item = .ok entry
    ∧ stampChecked P minCost entry = none

/-- The payload has an item whose stamp is refused. -/
def HasInvalid (P : Platform) (minCost : Option Nat) :
    PeerSyncResponse → Prop
  | .payload items => ∃ item ∈ items, InvalidItem P minCost item
  | _ => False

theorem satAdd64_pos (n : Nat) : 0 < satAdd64 n 1 := by
  unfold satAdd64 u64Max
  omega

theorem applyItem_invalid_iff (minCost : Option Nat) (nowMs : Nat)
    (acc : PayloadTally × LxmfRouter σ) (item : Bytes) :
    0 < (applyItem P minCost nowMs acc item).1.invalidCount
      ↔ 0 < acc.1.invalidCount ∨ InvalidItem P minCost item := by
  unfold applyItem InvalidItem
  dsimp only
  cases PropagationEntry.fromBytes P item with
  | error e => simp
  | ok entry =>
      dsimp only
      cases hchecked : stampChecked P minCost entry with
      | none => simp [satAdd64_pos, hchecked]
      | some filed => simp [acceptItem, hchecked]

/-- The loop counts an invalid item exactly when there is one. -/
theorem applyItems_invalid_iff (r : LxmfRouter σ)
    (response : PeerSyncResponse) (nowMs : Nat) :
    0 < (r.applyItems P response nowMs).1.invalidCount
      ↔ HasInvalid P r.minStampCost response := by
  cases response with
  | error code => exact ⟨fun h => absurd h (Nat.lt_irrefl 0), False.elim⟩
  | bool flag => exact ⟨fun h => absurd h (Nat.lt_irrefl 0), False.elim⟩
  | idList ids => exact ⟨fun h => absurd h (Nat.lt_irrefl 0), False.elim⟩
  | payload items =>
      suffices ∀ acc : PayloadTally × LxmfRouter σ,
          0 < (items.foldl (applyItem P r.minStampCost nowMs)
              acc).1.invalidCount
            ↔ 0 < acc.1.invalidCount
              ∨ ∃ item ∈ items, InvalidItem P r.minStampCost item by
        refine (this ({}, r)).trans ?_
        simp only [HasInvalid]
        exact ⟨fun h => h.resolve_left (Nat.lt_irrefl 0), .inr⟩
      induction items with
      | nil => simp
      | cons item items ih =>
          intro acc
          rw [List.foldl_cons, ih, applyItem_invalid_iff, or_assoc]
          simp only [List.mem_cons, exists_eq_or_imp]

/-- What a response does to the record of the peer asked. -/
def responseEffect (P : Platform) (r : LxmfRouter σ)
    (request : PeerSyncRequest) (response : PeerSyncResponse)
    (nowMs : Nat) (peer : Peer) : Peer :=
  match request with
  | .offer _ _ => peer.onOfferResponse response nowMs
  | .messageGet _ _ _ | .messageGetList =>
      tallyPeer (r.applyItems P response nowMs).1 nowMs peer
  | .messageAck _ =>
      match response with
      | .bool true => peer.onPayloadComplete nowMs
      | _ => peer.onFailure nowMs

theorem applyPeerSyncPayload_peers (r : LxmfRouter σ) (peerId : Hash16)
    (response : PeerSyncResponse) (nowMs : Nat) :
    (r.applyPeerSyncPayload P peerId response nowMs).2.peers
      = r.peers.upsert peerId nowMs
        (tallyPeer (r.applyItems P response nowMs).1 nowMs) := by
  obtain ⟨_, _, _, h⟩ := applyItems_eq (P := P) r response nowMs
  unfold applyPeerSyncPayload
  dsimp only
  rw [h]

theorem buildPeerSyncRequest_peers (r : LxmfRouter σ) (peerId : Hash16)
    (req : PeerSyncRequest) (nowMs : Nat) :
    (r.buildPeerSyncRequest P peerId req nowMs).2.peers = r.peers := by
  unfold buildPeerSyncRequest
  split
  case h_1 => rfl
  case h_2 =>
    split
    case h_1 => rfl
    case h_2 => rfl

theorem receivePayload_peers (r : LxmfRouter σ) (peerId : Hash16)
    (response : PeerSyncResponse) (nowMs : Nat) :
    (r.receivePayload P peerId response nowMs).2.peers
      = r.peers.upsert peerId nowMs
        (tallyPeer (r.applyItems P response nowMs).1 nowMs) := by
  have h := applyPeerSyncPayload_peers (P := P) r peerId response nowMs
  unfold receivePayload
  split
  case h_1 heq =>
    rw [heq] at h
    exact h
  case h_2 ackReq r' heq =>
    rw [heq] at h
    have hbuild := buildPeerSyncRequest_peers (P := P) r' peerId ackReq
      nowMs
    split
    case h_1 heq' =>
      rw [heq'] at hbuild
      exact hbuild.trans h
    case h_2 heq' =>
      rw [heq'] at hbuild
      exact hbuild.trans h

/-- The router no longer waits for the answer to a request. -/
def withoutPending (r : LxmfRouter σ) (requestId : Hash16) :
    LxmfRouter σ :=
  { r with peerSyncPending := r.peerSyncPending.erase requestId }

/-- A response nobody asked for, or that does not decode, changes no
record. -/
theorem handlePeerSyncResponseBytesWithPeer_peers (r : LxmfRouter σ)
    (requestId : Hash16) (payload : Bytes) (nowMs : Nat) :
    (r.handlePeerSyncResponseBytesWithPeer P requestId payload
        nowMs).2.peers
      = match r.peerSyncPending.lookup requestId,
          decodePeerSyncResponse P payload with
        | some pending, .ok response =>
            r.peers.upsert pending.peerId nowMs
              ((r.withoutPending requestId).responseEffect P
                pending.request response nowMs)
        | _, _ => r.peers := by
  unfold handlePeerSyncResponseBytesWithPeer
  cases r.peerSyncPending.lookup requestId with
  | none => rfl
  | some pending =>
      dsimp only
      cases decodePeerSyncResponse P payload with
      | error e => rfl
      | ok response =>
          dsimp only
          unfold responseEffect
          cases pending.request with
          | offer key available => rfl
          | messageGetList => exact receivePayload_peers ..
          | messageGet wants haves limit => exact receivePayload_peers ..
          | messageAck delivered => rfl

end Responses

end LxmfRouter

-- ================================================================ ticks

/-- The two records differ in counters and queues only. -/
structure Peer.SameSync (p p' : Peer) : Prop where
  id : p'.id = p.id
  state : p'.state = p.state
  nextSyncMs : p'.nextSyncMs = p.nextSyncMs

/-- What a tick may do to the table. `awaited` tells the peers that owe an
answer. -/
inductive TickStep (awaited : Hash16 → Prop) (nowMs : Nat) :
    PeerTable → PeerTable → Prop where
  | touch (t : PeerTable) (id : Hash16) (f : Peer → Peer)
      (hf : ∀ peer : Peer, f peer = peer.onTimeout nowMs
        ∨ peer.SameSync (f peer)) :
      TickStep awaited nowMs t (t.modify id f)
  | offer (t : PeerTable) (id : Hash16) (f : Peer → Peer)
      (hready : t.nextReady nowMs = some id)
      (hf : ∀ peer : Peer, (peer.onOfferSent nowMs).SameSync (f peer)) :
      TickStep awaited nowMs t (t.upsert id nowMs f)
  | drop (t : PeerTable) (id : Hash16) :
      TickStep awaited nowMs t (t.erase id)
  | expire (t : PeerTable) (id : Hash16) (h : awaited id) :
      TickStep awaited nowMs t (t.upsert id nowMs (·.onTimeout nowMs))

namespace LxmfRouter

open Relation

section Ticks

variable {σ : Type} {P : Platform}

/-- A peer-sync request to the peer is pending. -/
def Awaits (r : LxmfRouter σ) (peerId : Hash16) : Prop :=
  ∃ requestId pending, r.peerSyncPending.lookup requestId = some pending
    ∧ pending.peerId = peerId

/-- The one router comes from the other by steps of a tick. -/
structure Ticked (nowMs : Nat) (r r' : LxmfRouter σ) : Prop where
  steps : ReflTransGen (TickStep r.Awaits nowMs) r.peers r'.peers
  pending : ∀ requestId pending,
    r'.peerSyncPending.lookup requestId = some pending →
      r.peerSyncPending.lookup requestId = some pending

theorem Ticked.of_eq {nowMs : Nat} {r r' : LxmfRouter σ}
    (hpeers : r'.peers = r.peers)
    (hpending : r'.peerSyncPending = r.peerSyncPending) :
    Ticked nowMs r r' := by
  refine ⟨?_, ?_⟩
  · rw [hpeers]
  · intro requestId pending h
    rw [hpending] at h
    exact h

theorem Ticked.awaits {nowMs : Nat} {r r' : LxmfRouter σ}
    (h : Ticked nowMs r r') {peerId : Hash16} (hawaits : r'.Awaits peerId) :
    r.Awaits peerId := by
  obtain ⟨requestId, pending, hpending, hid⟩ := hawaits
  exact ⟨requestId, pending, h.pending requestId pending hpending, hid⟩

theorem Ticked.trans {nowMs : Nat} {r r' r'' : LxmfRouter σ}
    (h : Ticked nowMs r r') (h' : Ticked nowMs r' r'') :
    Ticked nowMs r r'' := by
  refine ⟨h.steps.trans (ReflTransGen.mono ?_ _ _ h'.steps), ?_⟩
  · intro t t' hstep
    cases hstep with
    | touch id f hf => exact .touch t id f hf
    | offer id f hready hf => exact .offer t id f hready hf
    | drop id => exact .drop t id
    | expire id hawaited => exact .expire t id (h.awaits hawaited)
  · intro requestId pending hpending
    exact h.pending requestId pending (h'.pending requestId pending hpending)

/-- A job that runs now and then. -/
theorem Ticked.ite {nowMs : Nat} (ran : Bool) {r r' : LxmfRouter σ}
    (h : Ticked nowMs r r') :
    Ticked nowMs r (if ran then r' else r) := by
  split
  case isTrue => exact h
  case isFalse => exact .of_eq rfl rfl

theorem Ticked.foldl {nowMs : Nat} {α : Type}
    {f : LxmfRouter σ → α → LxmfRouter σ}
    (hf : ∀ r a, Ticked nowMs r (f r a)) (as : List α)
    (r : LxmfRouter σ) : Ticked nowMs r (as.foldl f r) := by
  induction as generalizing r with
  | nil => exact .of_eq rfl rfl
  | cons a as ih => exact (hf r a).trans (ih (f r a))

/-- A change of every record in turn. -/
theorem Ticked.modifies {nowMs : Nat} {f : Hash16 → Peer → Peer}
    (hf : ∀ id peer, f id peer = peer.onTimeout nowMs
      ∨ peer.SameSync (f id peer)) (r : LxmfRouter σ) (ids : List Hash16) :
    ReflTransGen (TickStep r.Awaits nowMs) r.peers
      (ids.foldl (fun t id => PeerTable.modify t id (f id)) r.peers) := by
  generalize r.peers = t
  induction ids generalizing t with
  | nil => exact .refl
  | cons id ids ih => exact .head (.touch t id (f id) (hf id)) (ih _)

-- ------------------------------------------------------------ its jobs

theorem cleanLinks_ticked (r : LxmfRouter σ) (nowMs : Nat) :
    Ticked nowMs r (r.cleanLinks nowMs) := by
  obtain ⟨tracker, h | ⟨failure, h⟩⟩ := r.cleanLinks_cases nowMs
  · rw [h]
    exact .of_eq rfl rfl
  · rw [h]
    exact .of_eq rfl rfl

theorem cleanTransientIdCaches_ticked (r : LxmfRouter σ) (nowMs : Nat) :
    Ticked nowMs r (r.cleanTransientIdCaches P nowMs).2 := by
  unfold cleanTransientIdCaches
  dsimp only
  split
  case isTrue => exact .of_eq rfl rfl
  case isFalse => exact .of_eq rfl rfl

theorem pollPeerSyncTimeouts_ticked (r : LxmfRouter σ) (nowMs : Nat) :
    Ticked nowMs r (r.pollPeerSyncTimeouts nowMs) := by
  refine ⟨?_, fun _ _ h => h⟩
  refine Ticked.modifies ?_ r r.peers.keys
  intro id peer
  split
  case isTrue => exact .inl rfl
  case isFalse => exact .inr ⟨rfl, rfl, rfl⟩

theorem schedulePeerSync_ticked (r : LxmfRouter σ) (nowMs : Nat)
    (rng : OsRng) : Ticked nowMs r (r.schedulePeerSync P nowMs rng) := by
  unfold schedulePeerSync
  split
  case h_1 => exact .of_eq rfl rfl
  case h_2 peerId hready =>
    refine ⟨.single ?_, fun _ _ h => h⟩
    dsimp only [peerSyncOffer]
    refine TickStep.offer r.peers peerId _ hready ?_
    exact fun peer => ⟨rfl, rfl, rfl⟩

/-- Cleaning the store touches nothing but the store and its files. -/
theorem cleanPropagationStore_eq (r : LxmfRouter σ) (nowMs : Nat) :
    ∃ store root, (r.cleanPropagationStore nowMs).2 =
      { r with propagationStore := store, persistenceRoot := root } := by
  obtain ⟨ids, hids, _⟩ := cleanPropagationStore_drops r nowMs
  obtain ⟨root, hroot⟩ := removeEntries_eq r ids
  exact ⟨_, root, hids.trans hroot⟩

theorem cleanPropagationStore_ticked (r : LxmfRouter σ) (nowMs : Nat) :
    Ticked nowMs r (r.cleanPropagationStore nowMs).2 := by
  obtain ⟨store, root, h⟩ := cleanPropagationStore_eq r nowMs
  rw [h]
  exact .of_eq rfl rfl

theorem unpeer_lookup (r : LxmfRouter σ) (peerId p : Hash16) :
    (r.unpeer peerId).2.peers.lookup p
      = if p = peerId then none else r.peers.lookup p := by
  unfold unpeer
  split
  case isTrue =>
    show (r.peers.erase peerId).lookup p = _
    by_cases hp : p = peerId
    · subst hp
      rw [if_pos rfl, AList.lookup_erase]
    · rw [if_neg hp, AList.lookup_erase_ne hp]
  case isFalse hout =>
    by_cases hp : p = peerId
    · subst hp
      rw [if_pos rfl, AList.lookup_eq_none.mpr hout]
    · rw [if_neg hp]

/-- The peers of a list are gone, the others as they were. -/
theorem foldl_unpeer_lookup (ids : List Hash16) (r : LxmfRouter σ)
    (p : Hash16) :
    (ids.foldl (fun r id => (r.unpeer id).2) r).peers.lookup p
      = if p ∈ ids then none else r.peers.lookup p := by
  induction ids generalizing r with
  | nil => rfl
  | cons id ids ih =>
      rw [List.foldl_cons, ih, unpeer_lookup]
      by_cases hid : p = id
      · simp [hid]
      · simp [hid]

theorem unpeer_ticked (nowMs : Nat) (r : LxmfRouter σ) (peerId : Hash16) :
    Ticked nowMs r (r.unpeer peerId).2 := by
  unfold unpeer
  split
  case isTrue =>
    exact ⟨.single (.drop r.peers peerId), fun _ _ h => h⟩
  case isFalse => exact .of_eq rfl rfl

theorem rotatePeers_ticked (nowMs : Nat) (r : LxmfRouter σ) :
    Ticked nowMs r r.rotatePeers := by
  rcases r.rotatePeers_eq with heq | ⟨maxPeers, -, -, heq⟩
  · rw [heq]
    exact .of_eq rfl rfl
  · rw [heq]
    exact .foldl (unpeer_ticked nowMs) _ r

/-- A peer gets what did not come from it, at the end of its queue. -/
theorem distribute_eq (queue : List (Hash32 × Option Hash16))
    (k : Hash16) (peer : Peer) :
    distribute queue k peer
      = { peer with
          unhandledMessagesQueue := peer.unhandledMessagesQueue
            ++ (queue.filter fun item => decide (item.2 ≠ some k)).map
              (·.1) } := by
  unfold distribute
  induction queue generalizing peer with
  | nil => simp
  | cons item queue ih =>
      obtain ⟨transientId, fromPeer⟩ := item
      rw [List.foldl_cons]
      dsimp only
      by_cases h : fromPeer = some k
      · rw [if_pos h, ih]
        simp [h]
      · rw [if_neg h, ih]
        simp [h, Peer.queueUnhandledMessage]

theorem distribute_sameSync (queue : List (Hash32 × Option Hash16))
    (peerId : Hash16) (peer : Peer) :
    peer.SameSync (distribute queue peerId peer) := by
  rw [distribute_eq]
  exact ⟨rfl, rfl, rfl⟩

theorem flushPeer_ticked (nowMs : Nat) (r : LxmfRouter σ)
    (peerId : Hash16) : Ticked nowMs r (r.flushPeer peerId) := by
  rcases r.flushPeer_cases peerId with ⟨heq, -⟩ | ⟨peer, hpeer, heq⟩
  · rw [heq]
    exact .of_eq rfl rfl
  · rw [heq]
    refine ⟨.single ?_, fun _ _ h => h⟩
    have hmodify : r.peers.insert peerId
        (peer.processQueues r.propagationStore).1
        = PeerTable.modify r.peers peerId fun peer =>
          (peer.processQueues r.propagationStore).1 := by
      unfold PeerTable.modify
      rw [hpeer]
    dsimp only
    rw [hmodify]
    exact .touch r.peers peerId _ fun peer => .inr ⟨rfl, rfl, rfl⟩

theorem flushQueues_ticked (nowMs : Nat) (r : LxmfRouter σ) :
    Ticked nowMs r r.flushQueues := by
  unfold flushQueues
  split
  case isTrue => exact .of_eq rfl rfl
  case isFalse =>
    have hdistributed : Ticked nowMs r r.flushPeerDistributionQueue := by
      refine ⟨?_, fun _ _ h => h⟩
      refine Ticked.modifies ?_ r r.peers.keys
      exact fun id peer => .inr (distribute_sameSync _ id peer)
    exact hdistributed.trans (.foldl (flushPeer_ticked nowMs) _ _)

theorem handleRequestTimeouts_ticked (r : LxmfRouter σ)
    (timeouts : List Hash16) (nowMs : Nat) :
    Ticked nowMs r (r.handleRequestTimeouts timeouts nowMs) := by
  refine .foldl ?_ timeouts r
  intro r requestId
  split
  case h_1 => exact .of_eq rfl rfl
  case h_2 pending hpending =>
    refine ⟨.single (.expire r.peers pending.peerId
      ⟨requestId, pending, hpending, rfl⟩), ?_⟩
    intro id pending' hpending'
    exact (HashMap.lookup_of_lookup_erase hpending').2

theorem tickJobs_ticked (r : LxmfRouter σ) (tick : RuntimeTick)
    (nowMs : Nat) (rng : OsRng) :
    Ticked nowMs r (r.tickJobs P tick nowMs rng) := by
  have hpn (r : LxmfRouter σ) : Ticked nowMs r
      (((r.cleanTransientIdCaches P nowMs).2.pollPeerSyncTimeouts
        nowMs).schedulePeerSync P nowMs rng) :=
    ((cleanTransientIdCaches_ticked r nowMs).trans
      (pollPeerSyncTimeouts_ticked _ nowMs)).trans
      (schedulePeerSync_ticked _ nowMs rng)
  refine Ticked.trans (.ite tick.linksRan (cleanLinks_ticked r nowMs)) ?_
  refine Ticked.trans (.ite tick.pnRan (hpn _)) ?_
  refine Ticked.trans (.ite tick.storeRan
    (cleanPropagationStore_ticked _ nowMs)) ?_
  refine Ticked.trans (.ite tick.rotateRan
    (rotatePeers_ticked nowMs _)) ?_
  exact .ite tick.peeringestRan (flushQueues_ticked nowMs _)

variable [MessageStore σ]

theorem receiveProcessed_ticked (nowMs left : Nat) (r : LxmfRouter σ) :
    Ticked nowMs r (receiveProcessed left r).2 := by
  induction left generalizing r with
  | zero => exact .of_eq rfl rfl
  | succ left ih =>
      unfold receiveProcessed
      split
      case h_1 =>
        refine Ticked.trans ?_ (ih _)
        exact .of_eq rfl rfl
      case h_2 => exact .of_eq rfl rfl

theorem tickBegin_ticked (r : LxmfRouter σ) (nowMs : Nat)
    (deliver : Nat → Deliver) (rng : OsRng) :
    Ticked nowMs r (r.tickBegin P nowMs deliver rng).2.2 := by
  unfold tickBegin
  dsimp only
  generalize r.runtime.tick nowMs deliver = ticked
  have hruntime : Ticked nowMs r { r with runtime := ticked.2 } :=
    .of_eq rfl rfl
  have hjobs := hruntime.trans (tickJobs_ticked (P := P)
    { r with runtime := ticked.2 } ticked.1 nowMs rng)
  generalize tickJobs P { r with runtime := ticked.2 } ticked.1 nowMs rng
    = r' at hjobs ⊢
  split
  case isTrue =>
    have hopened : Ticked nowMs r' r'.openChannel := .of_eq rfl rfl
    exact (hjobs.trans hopened).trans (receiveProcessed_ticked nowMs 100 _)
  case isFalse => exact hjobs

/-- A whole tick is a sequence of such steps. -/
theorem tick_ticked (r : LxmfRouter σ) (nowMs : Nat)
    (deliver : Nat → Deliver) (rng : OsRng) (free : Bool) :
    Ticked nowMs r (r.tick P nowMs deliver rng free).2 := by
  have hbegin := tickBegin_ticked (P := P) r nowMs deliver rng
  unfold tick tickEnd
  dsimp only
  generalize r.tickBegin P nowMs deliver rng = begun at hbegin ⊢
  generalize hspawned : (if begun.2.2.spawns begun.1 free = true then
    { begun.2.2 with stampProcessingActive := true } else begun.2.2)
      = spawned
  have hspawn : Ticked nowMs begun.2.2 spawned := by
    rw [← hspawned]
    split
    case isTrue => exact .of_eq rfl rfl
    case isFalse => exact .of_eq rfl rfl
  have htimeouts := handleRequestTimeouts_ticked spawned
    begun.1.requestTimeouts nowMs
  generalize spawned.handleRequestTimeouts begun.1.requestTimeouts nowMs
    = r' at htimeouts ⊢
  have hend : Ticked nowMs r' { r' with peerSyncQueue := [] } :=
    .of_eq rfl rfl
  exact ((hbegin.trans hspawn).trans htimeouts).trans hend

end Ticks

end LxmfRouter

end Lxmf
