/-
How long a throttled peer stays throttled.

A peer whose payload has an invalid stamp is not to be synced with for
three minutes. The throttle is a time in the peer's record, and every
other event writes the same field. A failure sets it later still; the
end of a sync sets it to now. A peer can end a sync by itself: with an
acknowledgement nobody asked for, or with an answer to a request that is
still pending. And a record that rotation dropped comes back without a
throttle.

The theorem is about every run of requests, responses and ticks after
the throttle in which none of these happens before it is over.
-/
import Lxmf.Library.Run
import Lxmf.Proofs.PeerTable
import Lxmf.Proofs.Store
import Lxmf.Router.Inbound

namespace Lxmf

-- ========================================================== one record

namespace Peer

variable {peer : Peer} {t nowMs : Nat}

/-- A failure is a longer pause than a throttle. -/
theorem onFailure_nextSyncMs
    (ht : t + propagationInvalidStampThrottleMs ≤ u64Max)
    (hnow : t ≤ nowMs) :
    t + propagationInvalidStampThrottleMs
      ≤ (peer.onFailure nowMs).nextSyncMs := by
  unfold onFailure satAdd64
  dsimp only
  unfold u64Max at *
  simp only [propagationInvalidStampThrottleMs, peerBackoffStepMs,
    peerBackoffMaxMs] at *
  split
  case isTrue => omega
  case isFalse => omega

theorem throttle_nextSyncMs
    (ht : t + propagationInvalidStampThrottleMs ≤ u64Max)
    (hnow : t ≤ nowMs) :
    t + propagationInvalidStampThrottleMs
      ≤ (peer.throttle nowMs propagationInvalidStampThrottleMs).nextSyncMs
    := by
  unfold throttle satAdd64
  dsimp only
  omega

/-- Nothing is synced before the time in the record. -/
theorem shouldSync_eq_false (h : nowMs < peer.nextSyncMs) :
    peer.shouldSync nowMs = false := by
  unfold shouldSync
  rw [decide_eq_false (not_le.mpr h), Bool.and_false]

end Peer

-- =========================================================== the table

namespace PeerTable

/-- Every record is under its own id. -/
def Keyed (t : PeerTable) : Prop :=
  ∀ id peer, t.lookup id = some peer → peer.id = id

/-- The record of `p`, if there is one, is not due before `deadline`. -/
def Held (p : Hash16) (deadline : Nat) (t : PeerTable) : Prop :=
  ∀ peer, t.lookup p = some peer → deadline ≤ peer.nextSyncMs

variable {t : PeerTable} {p id : Hash16} {deadline nowMs : Nat}
  {f : Peer → Peer}

theorem Keyed.upsert (h : t.Keyed) (hf : ∀ peer, (f peer).id = peer.id) :
    (t.upsert id nowMs f).Keyed := by
  intro other peer hpeer
  by_cases hother : other = id
  · subst hother
    rw [lookup_upsert_self] at hpeer
    injection hpeer with hpeer
    rw [← hpeer, hf]
    cases hrecord : t.lookup other with
    | none => rfl
    | some record => exact h other record hrecord
  · rw [lookup_upsert_of_ne hother] at hpeer
    exact h other peer hpeer

theorem Keyed.modify (h : t.Keyed) (hf : ∀ peer, (f peer).id = peer.id) :
    (t.modify id f).Keyed := by
  intro other peer hpeer
  by_cases hother : other = id
  · subst hother
    rw [lookup_modify_self] at hpeer
    obtain ⟨record, hrecord, rfl⟩ := Option.map_eq_some_iff.mp hpeer
    rw [hf]
    exact h other record hrecord
  · rw [lookup_modify_of_ne hother] at hpeer
    exact h other peer hpeer

theorem Keyed.erase (h : t.Keyed) : Keyed (t.erase id) := by
  intro other peer hpeer
  exact h other peer (HashMap.lookup_of_lookup_erase hpeer).2

/-- The record an upsert starts from. -/
theorem Held.record (h : Held p deadline t)
    (hout : p ∉ t → deadline ≤ nowMs) :
    deadline ≤ ((t.lookup p).getD (Peer.new p nowMs)).nextSyncMs := by
  cases hrecord : t.lookup p with
  | none => exact hout (AList.lookup_eq_none.mp hrecord)
  | some record => exact h record hrecord

theorem Held.upsert (h : Held p deadline t)
    (hf : id = p → deadline
      ≤ (f ((t.lookup p).getD (Peer.new p nowMs))).nextSyncMs) :
    Held p deadline (t.upsert id nowMs f) := by
  intro peer hpeer
  by_cases hid : id = p
  · subst hid
    rw [lookup_upsert_self] at hpeer
    injection hpeer with hpeer
    rw [← hpeer]
    exact hf rfl
  · rw [lookup_upsert_of_ne (Ne.symm hid)] at hpeer
    exact h peer hpeer

theorem Held.modify (h : Held p deadline t)
    (hf : ∀ peer : Peer, deadline ≤ peer.nextSyncMs →
      deadline ≤ (f peer).nextSyncMs) :
    Held p deadline (t.modify id f) := by
  intro peer hpeer
  by_cases hid : p = id
  · subst hid
    rw [lookup_modify_self] at hpeer
    obtain ⟨record, hrecord, rfl⟩ := Option.map_eq_some_iff.mp hpeer
    exact hf record (h record hrecord)
  · rw [lookup_modify_of_ne hid] at hpeer
    exact h peer hpeer

theorem Held.erase (h : Held p deadline t) :
    Held p deadline (t.erase id) := by
  intro peer hpeer
  exact h peer (HashMap.lookup_of_lookup_erase hpeer).2

/-- The table is in order and holds `p` back. -/
structure Throttled (p : Hash16) (deadline : Nat) (t : PeerTable) :
    Prop where
  keyed : t.Keyed
  held : t.Held p deadline

variable {throttledAt : Nat}

/-- No step of a tick ends a throttle early. -/
theorem Throttled.tickStep {awaited : Hash16 → Prop} {t t' : PeerTable}
    (h : t.Throttled p (throttledAt + propagationInvalidStampThrottleMs))
    (ht : throttledAt + propagationInvalidStampThrottleMs ≤ u64Max)
    (hnow : throttledAt ≤ nowMs) (hstep : TickStep awaited nowMs t t') :
    t'.Throttled p (throttledAt + propagationInvalidStampThrottleMs) := by
  cases hstep with
  | touch id f hf =>
      refine ⟨h.keyed.modify ?_, h.held.modify ?_⟩
      · intro peer
        rcases hf peer with heq | hsame
        · rw [heq]; rfl
        · exact hsame.id
      · intro peer hpeer
        rcases hf peer with heq | hsame
        · rw [heq]
          exact Peer.onFailure_nextSyncMs ht hnow
        · rw [hsame.nextSyncMs]
          exact hpeer
  | offer id f hready hf =>
      refine ⟨h.keyed.upsert fun peer => (hf peer).id, h.held.upsert ?_⟩
      rintro rfl
      rw [(hf _).nextSyncMs]
      refine h.held.record fun hout => ?_
      -- the selected record is under its own id
      obtain ⟨key, peer, hkey, hid, _⟩ := nextReady_spec hready
      rw [h.keyed key peer hkey] at hid
      subst hid
      rw [AList.lookup_eq_none.mpr hout] at hkey
      cases hkey
  | drop id => exact ⟨h.keyed.erase, h.held.erase⟩
  | expire id hawaited =>
      refine ⟨h.keyed.upsert fun peer => rfl, h.held.upsert fun _ => ?_⟩
      exact Peer.onFailure_nextSyncMs ht hnow

theorem Throttled.tickSteps {awaited : Hash16 → Prop} {t t' : PeerTable}
    (h : t.Throttled p (throttledAt + propagationInvalidStampThrottleMs))
    (ht : throttledAt + propagationInvalidStampThrottleMs ≤ u64Max)
    (hnow : throttledAt ≤ nowMs)
    (hsteps : Relation.ReflTransGen (TickStep awaited nowMs) t t') :
    t'.Throttled p (throttledAt + propagationInvalidStampThrottleMs) := by
  induction hsteps with
  | refl => exact h
  | tail _ hstep ih => exact ih.tickStep ht hnow hstep

end PeerTable

-- ============================================================== events

namespace LxmfRouter

/-- What happens at a peer's instance, and ticks. -/
inductive PeerEvent where
  | request (peerId : Hash16) (req : RnsRequest) (nowMs : Nat)
  | response (requestId : Hash16) (payload : Bytes) (nowMs : Nat)
  | queuedResponse (response : RnsResponse) (nowMs : Nat)
  | build (peerId : Hash16) (req : PeerSyncRequest) (nowMs : Nat)
  | tick (nowMs : Nat) (deliver : Nat → Deliver) (rng : OsRng)
      (free : Bool)

def PeerEvent.nowMs : PeerEvent → Nat
  | .request _ _ nowMs => nowMs
  | .response _ _ nowMs => nowMs
  | .queuedResponse _ nowMs => nowMs
  | .build _ _ nowMs => nowMs
  | .tick nowMs _ _ _ => nowMs

section Events

variable {σ : Type} {P : Platform}

/-- The response ends the sync the request belongs to. -/
def Completes (P : Platform) (minCost : Option Nat)
    (request : PeerSyncRequest) (response : PeerSyncResponse) : Prop :=
  match request with
  | .offer _ _ => response = .bool false ∨ ∃ items, response = .payload items
  | .messageGet _ _ _ | .messageGetList => ¬ HasInvalid P minCost response
  | .messageAck _ => response = .bool true

/-- The event takes the throttle off `p`: it ends a sync, or makes a new
record. -/
def Clears (P : Platform) (p : Hash16) (r : LxmfRouter σ) :
    PeerEvent → Prop
  | .request peerId req _ => peerId = p
      ∧ ∃ payload, valueToBytes req.data = some payload
        ∧ (p ∉ r.peers ∨ ∃ delivered,
          decodePeerSyncRequest P payload = .ok (.messageAck delivered))
  | .response requestId payload _ =>
      ∃ pending, r.peerSyncPending.lookup requestId = some pending
        ∧ pending.peerId = p
        ∧ (p ∉ r.peers ∨ ∃ response,
          decodePeerSyncResponse P payload = .ok response
          ∧ Completes P r.minStampCost pending.request response)
  | .queuedResponse resp _ =>
      ∃ payload pending response, valueToBytes resp.data = some payload
        ∧ r.peerSyncPending.lookup resp.requestId = some pending
        ∧ pending.peerId = p
        ∧ decodePeerSyncResponse P payload = .ok response
        ∧ (p ∉ r.peers ∨ Completes P r.minStampCost pending.request response)
  | .build _ _ _ | .tick _ _ _ _ => False

variable {p : Hash16} {throttledAt nowMs : Nat}

theorem requestEffect_id (r : LxmfRouter σ) (peerId : Hash16)
    (payload : Bytes) (nowMs : Nat) (peer : Peer) :
    (r.requestEffect P peerId payload nowMs peer).id = peer.id := by
  unfold requestEffect
  dsimp only
  split
  case h_1 => rfl
  case h_2 =>
    split
    case isTrue => rfl
    case isFalse => rfl
  case h_3 => rfl
  case h_4 => rfl
  case h_5 => rfl

/-- Of all requests an acknowledgement alone ends a sync. -/
theorem requestEffect_nextSyncMs {r : LxmfRouter σ} {peerId : Hash16}
    {payload : Bytes} {peer : Peer}
    (ht : throttledAt + propagationInvalidStampThrottleMs ≤ u64Max)
    (hnow : throttledAt ≤ nowMs)
    (hack : nowMs < throttledAt + propagationInvalidStampThrottleMs →
      ∀ delivered,
        decodePeerSyncRequest P payload ≠ .ok (.messageAck delivered))
    (hpeer : throttledAt + propagationInvalidStampThrottleMs
      ≤ peer.nextSyncMs) :
    throttledAt + propagationInvalidStampThrottleMs
      ≤ (r.requestEffect P peerId payload nowMs peer).nextSyncMs := by
  unfold requestEffect
  dsimp only
  split
  case h_1 => exact hpeer
  case h_2 =>
    split
    case isTrue => exact hpeer
    case isFalse => exact Peer.onFailure_nextSyncMs ht hnow
  case h_3 => exact hpeer
  case h_4 => exact hpeer
  case h_5 delivered hdecode =>
    refine not_lt.mp fun hearly => ?_
    exact hack hearly delivered hdecode

theorem tallyPeer_id (tally : PayloadTally) (nowMs : Nat) (peer : Peer) :
    (tallyPeer tally nowMs peer).id = peer.id := by
  unfold tallyPeer
  dsimp only
  split
  case isTrue => rfl
  case isFalse => rfl

theorem responseEffect_id (r : LxmfRouter σ) (request : PeerSyncRequest)
    (response : PeerSyncResponse) (nowMs : Nat) (peer : Peer) :
    (r.responseEffect P request response nowMs peer).id = peer.id := by
  cases request with
  | offer key available =>
      simp only [responseEffect]
      unfold Peer.onOfferResponse
      split
      case h_1 => rfl
      case h_2 => rfl
      case h_3 => rfl
      case h_4 => rfl
      case h_5 => rfl
  | messageGetList => exact tallyPeer_id ..
  | messageGet wants haves limit => exact tallyPeer_id ..
  | messageAck delivered =>
      simp only [responseEffect]
      split
      case h_1 => rfl
      case h_2 => rfl

/-- A payload with an invalid item throttles again. -/
theorem tallyPeer_nextSyncMs {r : LxmfRouter σ}
    {response : PeerSyncResponse} {peer : Peer}
    (ht : throttledAt + propagationInvalidStampThrottleMs ≤ u64Max)
    (hnow : throttledAt ≤ nowMs)
    (hinvalid : nowMs < throttledAt + propagationInvalidStampThrottleMs →
      HasInvalid P r.minStampCost response) :
    throttledAt + propagationInvalidStampThrottleMs
      ≤ (tallyPeer (r.applyItems P response nowMs).1 nowMs
        peer).nextSyncMs := by
  unfold tallyPeer
  dsimp only
  split
  case isTrue => exact Peer.throttle_nextSyncMs ht hnow
  case isFalse hnone =>
    refine not_lt.mp fun hearly => ?_
    exact hnone ((applyItems_invalid_iff r response nowMs).mpr
      (hinvalid hearly))

theorem responseEffect_nextSyncMs {r : LxmfRouter σ}
    {request : PeerSyncRequest} {response : PeerSyncResponse}
    {peer : Peer}
    (ht : throttledAt + propagationInvalidStampThrottleMs ≤ u64Max)
    (hnow : throttledAt ≤ nowMs)
    (hends : nowMs < throttledAt + propagationInvalidStampThrottleMs →
      ¬ Completes P r.minStampCost request response)
    (hpeer : throttledAt + propagationInvalidStampThrottleMs
      ≤ peer.nextSyncMs) :
    throttledAt + propagationInvalidStampThrottleMs
      ≤ (r.responseEffect P request response nowMs peer).nextSyncMs := by
  cases request with
  | offer key available =>
      simp only [responseEffect]
      unfold Peer.onOfferResponse
      split
      case h_1 => exact hpeer
      case h_2 => exact hpeer
      case h_3 =>
        refine not_lt.mp fun hearly => ?_
        exact hends hearly (.inl rfl)
      case h_4 items =>
        refine not_lt.mp fun hearly => ?_
        exact hends hearly (.inr ⟨items, rfl⟩)
      case h_5 => exact Peer.onFailure_nextSyncMs ht hnow
  | messageGetList =>
      refine tallyPeer_nextSyncMs ht hnow fun hearly => ?_
      exact not_not.mp (hends hearly)
  | messageGet wants haves limit =>
      refine tallyPeer_nextSyncMs ht hnow fun hearly => ?_
      exact not_not.mp (hends hearly)
  | messageAck delivered =>
      simp only [responseEffect]
      split
      case h_1 =>
        refine not_lt.mp fun hearly => ?_
        exact hends hearly rfl
      case h_2 => exact Peer.onFailure_nextSyncMs ht hnow

-- ============================================================= one step

theorem handlePeerSyncRequest_throttled {r : LxmfRouter σ}
    (h : r.peers.Throttled p
      (throttledAt + propagationInvalidStampThrottleMs))
    (ht : throttledAt + propagationInvalidStampThrottleMs ≤ u64Max)
    (hnow : throttledAt ≤ nowMs) {peerId : Hash16} {req : RnsRequest}
    (hclears : nowMs < throttledAt + propagationInvalidStampThrottleMs →
      ¬ Clears P p r (.request peerId req nowMs)) :
    (r.handlePeerSyncRequest P peerId req nowMs).2.peers.Throttled p
      (throttledAt + propagationInvalidStampThrottleMs) := by
  rw [handlePeerSyncRequest_peers]
  cases hdata : valueToBytes req.data with
  | none => exact h
  | some payload =>
      refine ⟨h.keyed.upsert (requestEffect_id r peerId payload nowMs),
        h.held.upsert ?_⟩
      rintro rfl
      refine requestEffect_nextSyncMs ht hnow ?_ (h.held.record ?_)
      · intro hearly delivered hdecode
        exact hclears hearly
          ⟨rfl, payload, hdata, .inr ⟨delivered, hdecode⟩⟩
      · intro hout
        refine not_lt.mp fun hearly => ?_
        exact hclears hearly ⟨rfl, payload, hdata, .inl hout⟩

theorem responseWithPeer_throttled {r : LxmfRouter σ}
    (h : r.peers.Throttled p
      (throttledAt + propagationInvalidStampThrottleMs))
    (ht : throttledAt + propagationInvalidStampThrottleMs ≤ u64Max)
    (hnow : throttledAt ≤ nowMs) {requestId : Hash16} {payload : Bytes}
    (hclears : nowMs < throttledAt + propagationInvalidStampThrottleMs →
      ∀ pending response,
        r.peerSyncPending.lookup requestId = some pending →
        pending.peerId = p →
        decodePeerSyncResponse P payload = .ok response →
        p ∈ r.peers
          ∧ ¬ Completes P r.minStampCost pending.request response) :
    (r.handlePeerSyncResponseBytesWithPeer P requestId payload
      nowMs).2.peers.Throttled p
        (throttledAt + propagationInvalidStampThrottleMs) := by
  rw [handlePeerSyncResponseBytesWithPeer_peers]
  cases hpending : r.peerSyncPending.lookup requestId with
  | none => exact h
  | some pending =>
      cases hdecode : decodePeerSyncResponse P payload with
      | error e => exact h
      | ok response =>
          refine ⟨h.keyed.upsert (responseEffect_id _ _ _ nowMs),
            h.held.upsert fun hid => ?_⟩
          refine responseEffect_nextSyncMs ht hnow ?_ (h.held.record ?_)
          · intro hearly
            exact (hclears hearly pending response hpending hid hdecode).2
          · intro hout
            refine not_lt.mp fun hearly => hout ?_
            exact (hclears hearly pending response hpending hid hdecode).1

theorem handlePeerSyncResponseBytes_throttled {r : LxmfRouter σ}
    (h : r.peers.Throttled p
      (throttledAt + propagationInvalidStampThrottleMs))
    (ht : throttledAt + propagationInvalidStampThrottleMs ≤ u64Max)
    (hnow : throttledAt ≤ nowMs) {requestId : Hash16} {payload : Bytes}
    (hclears : nowMs < throttledAt + propagationInvalidStampThrottleMs →
      ¬ Clears P p r (.response requestId payload nowMs)) :
    (r.handlePeerSyncResponseBytes P requestId payload
      nowMs).2.peers.Throttled p
        (throttledAt + propagationInvalidStampThrottleMs) := by
  unfold handlePeerSyncResponseBytes
  dsimp only
  cases hpending : r.peerSyncPending.lookup requestId with
  | none =>
      refine responseWithPeer_throttled h ht hnow ?_
      intro _ pending response hsome
      rw [hpending] at hsome
      cases hsome
  | some pending =>
      -- the peer is heard before the bytes are decoded
      have hheard : PeerTable.Throttled p
          (throttledAt + propagationInvalidStampThrottleMs)
          (r.peers.upsert pending.peerId nowMs (·.markHeard nowMs)) := by
        refine ⟨h.keyed.upsert fun _ => rfl, h.held.upsert fun hid => ?_⟩
        refine h.held.record fun hout => not_lt.mp fun hearly => ?_
        exact hclears hearly ⟨pending, hpending, hid, .inl hout⟩
      refine responseWithPeer_throttled (r := { r with
        peers := r.peers.upsert pending.peerId nowMs (·.markHeard nowMs) })
        hheard ht hnow ?_
      intro hearly pending' response hsome hid hdecode
      change r.peerSyncPending.lookup requestId = some pending' at hsome
      refine ⟨?_, ?_⟩
      · rw [hpending] at hsome
        injection hsome with hsame
        rw [← hsame] at hid
        rw [← hid]
        exact HashMap.mem_iff_lookup.mpr ⟨_, PeerTable.lookup_upsert_self⟩
      · intro hcompletes
        exact hclears hearly ⟨pending', hsome, hid,
          .inr ⟨response, hdecode, hcompletes⟩⟩

theorem receiveResponse_peers (r : LxmfRouter σ) (response : RnsResponse)
    (nowMs : Nat) :
    (r.receiveResponse P response nowMs).peers
      = match valueToBytes response.data with
        | some payload => (r.handlePeerSyncResponseBytesWithPeer P
            response.requestId payload nowMs).2.peers
        | none => r.peers := by
  unfold receiveResponse
  cases valueToBytes response.data with
  | none => rfl
  | some payload =>
      dsimp only
      split
      case h_1 heq => rw [heq]
      case h_2 heq => rw [heq]

theorem receiveResponse_throttled {r : LxmfRouter σ}
    (h : r.peers.Throttled p
      (throttledAt + propagationInvalidStampThrottleMs))
    (ht : throttledAt + propagationInvalidStampThrottleMs ≤ u64Max)
    (hnow : throttledAt ≤ nowMs) {resp : RnsResponse}
    (hclears : nowMs < throttledAt + propagationInvalidStampThrottleMs →
      ¬ Clears P p r (.queuedResponse resp nowMs)) :
    (r.receiveResponse P resp nowMs).peers.Throttled p
      (throttledAt + propagationInvalidStampThrottleMs) := by
  rw [receiveResponse_peers]
  cases hdata : valueToBytes resp.data with
  | none => exact h
  | some payload =>
      refine responseWithPeer_throttled h ht hnow ?_
      intro hearly pending response hpending hid hdecode
      have hnot := hclears hearly
      refine ⟨?_, ?_⟩
      · by_contra hout
        exact hnot ⟨payload, pending, response, hdata, hpending, hid,
          hdecode, .inl hout⟩
      · intro hcompletes
        exact hnot ⟨payload, pending, response, hdata, hpending, hid,
          hdecode, .inr hcompletes⟩

variable [MessageStore σ]

def handlePeerEvent (P : Platform) (r : LxmfRouter σ) :
    PeerEvent → LxmfRouter σ
  | .request peerId req nowMs =>
      (r.handlePeerSyncRequest P peerId req nowMs).2
  | .response requestId payload nowMs =>
      (r.handlePeerSyncResponseBytes P requestId payload nowMs).2
  | .queuedResponse response nowMs => r.receiveResponse P response nowMs
  | .build peerId req nowMs =>
      (r.buildPeerSyncRequest P peerId req nowMs).2
  | .tick nowMs deliver rng free => (r.tick P nowMs deliver rng free).2

/-- An event from the throttle on that does not clear it keeps it. -/
theorem handlePeerEvent_throttled {r : LxmfRouter σ}
    (h : r.peers.Throttled p
      (throttledAt + propagationInvalidStampThrottleMs))
    (ht : throttledAt + propagationInvalidStampThrottleMs ≤ u64Max)
    {e : PeerEvent} (hnow : throttledAt ≤ e.nowMs)
    (hclears : e.nowMs < throttledAt + propagationInvalidStampThrottleMs →
      ¬ Clears P p r e) :
    (r.handlePeerEvent P e).peers.Throttled p
      (throttledAt + propagationInvalidStampThrottleMs) := by
  cases e with
  | request peerId req nowMs =>
      exact handlePeerSyncRequest_throttled h ht hnow hclears
  | response requestId payload nowMs =>
      exact handlePeerSyncResponseBytes_throttled h ht hnow hclears
  | queuedResponse response nowMs =>
      exact receiveResponse_throttled h ht hnow hclears
  | build peerId req nowMs =>
      simp only [handlePeerEvent]
      rw [buildPeerSyncRequest_peers]
      exact h
  | tick nowMs deliver rng free =>
      have hticked := (tick_ticked (P := P) r nowMs deliver rng free).steps
      simp only [handlePeerEvent]
      exact h.tickSteps ht hnow hticked

end Events

-- ============================================================ whole runs

/-- In every run after a throttle in which, as long as it lasts, the peer
neither acknowledges, nor answers a pending request so as to end a sync,
nor is heard without a record, the peer is not due before its end. -/
theorem throttle_lasts {σ : Type} [MessageStore σ] (P : Platform)
    (r : LxmfRouter σ) (hkeyed : r.peers.Keyed) (p : Hash16)
    (response : PeerSyncResponse) (t : Nat)
    (hinvalid : HasInvalid P r.minStampCost response)
    (ht : t + propagationInvalidStampThrottleMs ≤ u64Max)
    (events : List PeerEvent) (hlater : ∀ e ∈ events, t ≤ e.nowMs)
    (h : ∀ done e, done ++ [e] <+: events →
      e.nowMs < t + propagationInvalidStampThrottleMs →
      ¬ Clears P p (done.foldl (handlePeerEvent P)
        (r.applyPeerSyncPayload P p response t).2) e)
    {done : List PeerEvent} (hdone : done <+: events) {peer : Peer}
    (hpeer : (done.foldl (handlePeerEvent P)
      (r.applyPeerSyncPayload P p response t).2).peers.lookup p
        = some peer)
    {t' : Nat} (ht' : t' < t + propagationInvalidStampThrottleMs) :
    peer.shouldSync t' = false := by
  have hstart : (r.applyPeerSyncPayload P p response t).2.peers.Throttled p
      (t + propagationInvalidStampThrottleMs) := by
    rw [applyPeerSyncPayload_peers]
    refine ⟨hkeyed.upsert (tallyPeer_id _ t), ?_⟩
    intro record hrecord
    rw [PeerTable.lookup_upsert_self] at hrecord
    injection hrecord with hrecord
    rw [← hrecord]
    exact tallyPeer_nextSyncMs ht le_rfl fun _ => hinvalid
  have hstep (r : LxmfRouter σ) (e : PeerEvent)
      (hr : r.peers.Throttled p (t + propagationInvalidStampThrottleMs))
      (hgood : t ≤ e.nowMs
        ∧ (e.nowMs < t + propagationInvalidStampThrottleMs →
          ¬ Clears P p r e)) :
      (r.handlePeerEvent P e).peers.Throttled p
        (t + propagationInvalidStampThrottleMs) :=
    handlePeerEvent_throttled hr ht hgood.1 hgood.2
  have hgood (before : List PeerEvent) (e : PeerEvent)
      (hbefore : before ++ [e] <+: events) :
      t ≤ e.nowMs ∧ (e.nowMs < t + propagationInvalidStampThrottleMs →
        ¬ Clears P p (before.foldl (handlePeerEvent P)
          (r.applyPeerSyncPayload P p response t).2) e) := by
    refine ⟨hlater e (hbefore.subset ?_), h before e hbefore⟩
    exact List.mem_append_right before List.mem_cons_self
  have hthrottled := @Run.throughout (LxmfRouter σ) PeerEvent
    (handlePeerEvent P) _ (fun r => r.peers.Throttled p
      (t + propagationInvalidStampThrottleMs)) _ events
    hstart hstep hgood done hdone
  exact Peer.shouldSync_eq_false
    (lt_of_lt_of_le ht' (hthrottled.held peer hpeer))

section ThrottleInstance

open Reference
open PropagationStore (docEntry)

/-- The peer whose payload is refused. -/
def stampless : Hash16 := List.Vector.replicate 16 0x55

/-- Its payload: one entry too short to hold a stamp. -/
noncomputable def stamplessPayload : PeerSyncResponse :=
  .payload [((docEntry.toBytes platform).toOption).getD []]

theorem stamplessPayload_hasInvalid :
    HasInvalid platform docNode.minStampCost stamplessPayload := by
  have hdecodes : PropagationEntry.fromBytes platform
      (((docEntry.toBytes platform).toOption).getD []) = .ok docEntry := by
    decide +kernel
  have hrefused : stampChecked platform docNode.minStampCost docEntry
      = none := by decide +kernel
  exact ⟨_, List.mem_cons_self, docEntry, hdecodes, hrefused⟩

theorem docNode_keyed : docNode.peers.Keyed := by
  intro id peer hpeer
  cases hpeer

/-- A request in the two values of a message request. -/
def stamplessRequest (payload : Bytes) : PeerEvent :=
  .request stampless ⟨List.Vector.replicate 16 0, .fin 0,
    List.Vector.replicate 16 0, .binary payload⟩ 9001

/-- It asks for the list of messages and stays throttled. -/
theorem throttle_lasts_listing :
    ∃ peer, (docNode.applyPeerSyncPayload platform stampless
        stamplessPayload 9000 |>.2.handlePeerEvent platform
          (stamplessRequest [0x92, 0xc0, 0xc0])).peers.lookup stampless
        = some peer
      ∧ peer.shouldSync 188999 = false := by
  have hlists : decodePeerSyncRequest platform [0x92, 0xc0, 0xc0]
      = .ok .messageGetList := by decide +kernel
  have hknown : stampless ∈ (docNode.applyPeerSyncPayload platform
      stampless stamplessPayload 9000).2.peers := by decide +kernel
  have hrecord : ((docNode.applyPeerSyncPayload platform stampless
      stamplessPayload 9000 |>.2.handlePeerEvent platform
        (stamplessRequest [0x92, 0xc0, 0xc0])).peers.lookup
          stampless).isSome = true := by decide +kernel
  obtain ⟨peer, hpeer⟩ := Option.isSome_iff_exists.mp hrecord
  refine ⟨peer, hpeer, ?_⟩
  refine throttle_lasts platform docNode docNode_keyed stampless
    stamplessPayload 9000 stamplessPayload_hasInvalid (by decide)
    [stamplessRequest [0x92, 0xc0, 0xc0]] ?_ ?_ (List.prefix_refl _) hpeer
    (by decide)
  · intro e he
    rw [List.mem_singleton.mp he]
    decide
  · intro done e hprefix _ hclears
    obtain ⟨rfl, rfl⟩ := Run.prefix_singleton hprefix
    obtain ⟨_, payload, hpayload, hclears⟩ := hclears
    cases hpayload
    rcases hclears with hout | hack
    · exact hout hknown
    · obtain ⟨delivered, hdecode⟩ := hack
      rw [hlists] at hdecode
      cases hdecode

/-- It acknowledges nothing, and is due again at once. -/
theorem acknowledgement_ends_throttle :
    ¬ ∀ (r : LxmfRouter InMemoryStore) (p : Hash16)
      (response : PeerSyncResponse) (t : Nat), r.peers.Keyed →
      HasInvalid platform r.minStampCost response →
      ∀ events : List PeerEvent, (∀ e ∈ events, t ≤ e.nowMs) →
      ∀ peer, (events.foldl (handlePeerEvent platform)
        (r.applyPeerSyncPayload platform p response t).2).peers.lookup p
          = some peer →
      ∀ t' < t + propagationInvalidStampThrottleMs,
        peer.shouldSync t' = false := by
  intro h
  have hready : (((docNode.applyPeerSyncPayload platform stampless
      stamplessPayload 9000 |>.2.handlePeerEvent platform
        (stamplessRequest [0x92, 0xc0, 0x90])).peers.lookup
          stampless).map (·.shouldSync 9001)) = some true := by
    decide +kernel
  obtain ⟨peer, hpeer, hdue⟩ := Option.map_eq_some_iff.mp hready
  have hheld := h docNode stampless stamplessPayload 9000 docNode_keyed
    stamplessPayload_hasInvalid [stamplessRequest [0x92, 0xc0, 0x90]]
    (fun e he => by rw [List.mem_singleton.mp he]; decide) peer hpeer 9001
    (by decide)
  rw [hdue] at hheld
  cases hheld

end ThrottleInstance

end LxmfRouter

end Lxmf
