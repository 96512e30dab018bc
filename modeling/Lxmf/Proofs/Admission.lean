/-
Who gets into the peer table.

A peering key that does not validate keeps nobody out of the table. The
handler of requests makes a record for the sender before it decodes
anything, and a key that fails is a failure of that record: the peer is
tried again after a pause. A new record is due at once.

The first half of the theorem is about every run of requests,
responses and ticks in which the remote asks for nothing and is asked
nothing: it stays out of the table and is never selected. The second
half is about every sequence of requests without a valid offer: it ends
with a record of the remote that is selected as soon as it is due and
no other peer is due as early.
-/
import Lxmf.Proofs.Throttle

namespace Lxmf

-- =========================================================== the table

namespace PeerTable

/-- The table is in order and has no record of `p`. -/
structure Stranger (p : Hash16) (t : PeerTable) : Prop where
  keyed : t.Keyed
  absent : p ∉ t

variable {t t' : PeerTable} {p id : Hash16} {nowMs : Nat}
  {f : Peer → Peer} {peer : Peer}

theorem mem_upsert : p ∈ t.upsert id nowMs f ↔ p = id ∨ p ∈ t :=
  AList.mem_insert t

theorem mem_modify : p ∈ t.modify id f ↔ p ∈ t := by
  rw [← AList.lookup_isSome, ← AList.lookup_isSome]
  by_cases hid : p = id
  · subst hid
    rw [lookup_modify_self, Option.isSome_map]
  · rw [lookup_modify_of_ne hid]

theorem Stranger.upsert (h : t.Stranger p) (hid : id ≠ p)
    (hf : ∀ peer, (f peer).id = peer.id) :
    Stranger p (t.upsert id nowMs f) := by
  refine ⟨h.keyed.upsert hf, ?_⟩
  intro hmem
  rcases mem_upsert.mp hmem with heq | hin
  · exact hid heq.symm
  · exact h.absent hin

/-- The record of a selected peer is under its id. -/
theorem Keyed.nextReady_mem (h : t.Keyed)
    (hready : t.nextReady nowMs = some id) : id ∈ t := by
  obtain ⟨key, peer, hkey, hid, _⟩ := nextReady_spec hready
  rw [← hid, h key peer hkey]
  exact HashMap.mem_iff_lookup.mpr ⟨peer, hkey⟩

theorem Stranger.nextReady_ne (h : t.Stranger p) :
    t.nextReady nowMs ≠ some p :=
  fun hready => h.absent (h.keyed.nextReady_mem hready)

/-- A tick makes no record of a peer that owes nothing. -/
theorem Stranger.tickStep {awaited : Hash16 → Prop}
    (h : t.Stranger p) (hawaited : ¬ awaited p)
    (hstep : TickStep awaited nowMs t t') : t'.Stranger p := by
  cases hstep with
  | touch id f hf =>
      refine ⟨h.keyed.modify ?_, fun hmem => h.absent (mem_modify.mp hmem)⟩
      intro peer
      rcases hf peer with heq | hsame
      · rw [heq]; rfl
      · exact hsame.id
  | offer id f hready hf =>
      refine h.upsert ?_ fun peer => (hf peer).id
      rintro rfl
      exact h.nextReady_ne hready
  | drop id =>
      refine ⟨h.keyed.erase, fun hmem => ?_⟩
      exact h.absent (AList.mem_erase.mp hmem).2
  | expire id hid =>
      refine h.upsert ?_ fun peer => rfl
      rintro rfl
      exact hawaited hid

theorem Stranger.tickSteps {awaited : Hash16 → Prop}
    (h : t.Stranger p) (hawaited : ¬ awaited p)
    (hsteps : Relation.ReflTransGen (TickStep awaited nowMs) t t') :
    t'.Stranger p := by
  induction hsteps with
  | refl => exact h
  | tail _ hstep ih => exact ih.tickStep hawaited hstep

/-- A peer whose record is not ready is not selected. -/
theorem Keyed.nextReady_ne (h : t.Keyed) (hpeer : t.lookup p = some peer)
    (hnot : peer.shouldSync nowMs = false) : t.nextReady nowMs ≠ some p := by
  intro hready
  obtain ⟨key, other, hkey, hid, hdue⟩ := nextReady_spec hready
  rw [h key other hkey] at hid
  subst hid
  rw [hpeer] at hkey
  injection hkey with hsame
  rw [← hsame, hnot] at hdue
  cases hdue

/-- A ready record that is due before every other ready one is selected. -/
theorem nextReady_eq_some (hpeer : t.lookup p = some peer)
    (hready : peer.shouldSync nowMs = true)
    (hfirst : ∀ key other, t.lookup key = some other → key ≠ p →
      other.shouldSync nowMs = true → peer.nextSyncMs < other.nextSyncMs) :
    t.nextReady nowMs = some peer.id := by
  have hmem : peer ∈ t.values.filter (Peer.shouldSync · nowMs) := by
    refine List.mem_filter.mpr ⟨List.mem_map.mpr ⟨⟨p, peer⟩, ?_, rfl⟩,
      hready⟩
    exact AList.mem_lookup_iff.mp hpeer
  unfold nextReady
  cases hmin : (t.values.filter (Peer.shouldSync · nowMs)).argmin
      Peer.nextSyncMs with
  | none =>
      rw [List.argmin_eq_none.mp hmin] at hmem
      cases hmem
  | some other =>
      have hle := List.le_of_mem_argmin hmem hmin
      obtain ⟨hvalue, hdue⟩ := List.mem_filter.mp (List.argmin_mem hmin)
      obtain ⟨e, he, rfl⟩ := List.mem_map.mp hvalue
      have hlookup := AList.mem_lookup_iff.mpr he
      by_cases hkey : e.1 = p
      · rw [hkey] at hlookup
        have hsame : e.2 = peer :=
          Option.some.inj (hlookup.symm.trans hpeer)
        rw [hsame]
        rfl
      · have hlt := hfirst e.1 e.2 hlookup hkey hdue
        exact absurd hle (not_le.mpr hlt)

end PeerTable

-- ================================================= what the router awaits

namespace LxmfRouter

section Awaiting

variable {σ : Type} {P : Platform} {p : Hash16}

theorem Awaits.congr {r r' : LxmfRouter σ}
    (h : r'.peerSyncPending = r.peerSyncPending) :
    r'.Awaits p ↔ r.Awaits p := by
  unfold Awaits
  rw [h]

/-- A request to a peer makes the router wait for that peer. -/
theorem buildPeerSyncRequest_awaits {r : LxmfRouter σ} {peerId : Hash16}
    {req : PeerSyncRequest} {nowMs : Nat}
    (h : (r.buildPeerSyncRequest P peerId req nowMs).2.Awaits p) :
    p = peerId ∨ r.Awaits p := by
  unfold buildPeerSyncRequest at h
  split at h
  case h_1 => exact .inr h
  case h_2 =>
    split at h
    case h_1 => exact .inr h
    case h_2 request requests _ =>
      obtain ⟨requestId, pending, hpending, hid⟩ := h
      dsimp only at hpending
      by_cases hsame : requestId = request.requestId
      · subst hsame
        rw [AList.lookup_insert] at hpending
        injection hpending with hpending
        rw [← hid, ← hpending]
        exact .inl rfl
      · rw [AList.lookup_insert_ne hsame] at hpending
        exact .inr ⟨requestId, pending, hpending, hid⟩

theorem receivePayload_awaits {r : LxmfRouter σ} {peerId : Hash16}
    {response : PeerSyncResponse} {nowMs : Nat}
    (h : (r.receivePayload P peerId response nowMs).2.Awaits p) :
    p = peerId ∨ r.Awaits p := by
  obtain ⟨_, _, _, _, happlied⟩ := applyPeerSyncPayload_eq (P := P) r peerId
    response nowMs
  have hpending : (r.applyPeerSyncPayload P peerId response
      nowMs).2.peerSyncPending = r.peerSyncPending := by
    rw [happlied]
  unfold receivePayload at h
  split at h
  case h_1 heq =>
    rw [heq] at hpending
    exact .inr ((Awaits.congr hpending).mp h)
  case h_2 ackReq r' heq =>
    rw [heq] at hpending
    have hbuilt : (r'.buildPeerSyncRequest P peerId ackReq nowMs).2.Awaits
        p := by
      split at h
      case h_1 heq' => rw [heq']; exact h
      case h_2 heq' => rw [heq']; exact h
    rcases buildPeerSyncRequest_awaits hbuilt with hid | hawaits
    · exact .inl hid
    · exact .inr ((Awaits.congr hpending).mp hawaits)

theorem withoutPending_awaits {r : LxmfRouter σ} {requestId : Hash16}
    (h : (r.withoutPending requestId).Awaits p) : r.Awaits p := by
  obtain ⟨other, pending, hpending, hid⟩ := h
  have hbefore := (HashMap.lookup_of_lookup_erase hpending).2
  exact ⟨other, pending, hbefore, hid⟩

/-- A response may make the router ask again, but only the same peer. -/
theorem responseWithPeer_awaits {r : LxmfRouter σ} {requestId : Hash16}
    {payload : Bytes} {nowMs : Nat}
    (h : (r.handlePeerSyncResponseBytesWithPeer P requestId payload
      nowMs).2.Awaits p) : r.Awaits p := by
  unfold handlePeerSyncResponseBytesWithPeer at h
  cases hpending : r.peerSyncPending.lookup requestId with
  | none =>
      rw [hpending] at h
      exact h
  | some pending =>
      rw [hpending] at h
      dsimp only at h
      have hsame (hid : p = pending.peerId) : r.Awaits p :=
        ⟨requestId, pending, hpending, hid.symm⟩
      cases hdecode : decodePeerSyncResponse P payload with
      | error e =>
          rw [hdecode] at h
          exact withoutPending_awaits h
      | ok response =>
          rw [hdecode] at h
          dsimp only at h
          cases hrequest : pending.request with
          | offer key available =>
              rw [hrequest] at h
              exact withoutPending_awaits h
          | messageGetList =>
              rw [hrequest] at h
              exact (receivePayload_awaits h).elim hsame
                withoutPending_awaits
          | messageGet wants haves limit =>
              rw [hrequest] at h
              exact (receivePayload_awaits h).elim hsame
                withoutPending_awaits
          | messageAck delivered =>
              rw [hrequest] at h
              exact withoutPending_awaits h

end Awaiting

-- ============================================================= strangers

section Strangers

variable {σ : Type} {P : Platform} {p : Hash16}

/-- The router has no record of `p` and waits for no answer of it. -/
structure Unmet (p : Hash16) (r : LxmfRouter σ) : Prop where
  stranger : r.peers.Stranger p
  owesNothing : ¬ r.Awaits p

/-- The event brings `p` in: it sends a request, whatever the bytes, or
is sent one. -/
def Admits (p : Hash16) : PeerEvent → Prop
  | .request peerId req _ => peerId = p
      ∧ ∃ payload, valueToBytes req.data = some payload
  | .build peerId _ _ => peerId = p
  | .response _ _ _ | .queuedResponse _ _ | .tick _ _ _ _ => False

theorem Unmet.request {r : LxmfRouter σ} (h : r.Unmet p)
    {peerId : Hash16} {req : RnsRequest} {nowMs : Nat}
    (hadmits : ¬ Admits p (.request peerId req nowMs)) :
    (r.handlePeerSyncRequest P peerId req nowMs).2.Unmet p := by
  refine ⟨?_, ?_⟩
  · rw [handlePeerSyncRequest_peers]
    cases hdata : valueToBytes req.data with
    | none => exact h.stranger
    | some payload =>
        refine h.stranger.upsert ?_
          (requestEffect_id r peerId payload nowMs)
        exact fun hid => hadmits ⟨hid, payload, hdata⟩
  · obtain ⟨_, _, _, _, heq⟩ := handlePeerSyncRequest_eq (P := P) r peerId
      req nowMs
    rw [heq]
    exact h.owesNothing

/-- The peer a pending request went to is known. -/
theorem Unmet.pending_ne {r : LxmfRouter σ} (h : r.Unmet p)
    {requestId : Hash16} {pending : PeerSyncPending}
    (hpending : r.peerSyncPending.lookup requestId = some pending) :
    pending.peerId ≠ p :=
  fun hid => h.owesNothing ⟨requestId, pending, hpending, hid⟩

theorem Unmet.responseWithPeer {r : LxmfRouter σ} (h : r.Unmet p)
    (requestId : Hash16) (payload : Bytes) (nowMs : Nat) :
    (r.handlePeerSyncResponseBytesWithPeer P requestId payload
      nowMs).2.Unmet p := by
  refine ⟨?_, fun hawaits => h.owesNothing ?_⟩
  · rw [handlePeerSyncResponseBytesWithPeer_peers]
    cases hpending : r.peerSyncPending.lookup requestId with
    | none => exact h.stranger
    | some pending =>
        cases decodePeerSyncResponse P payload with
        | error e => exact h.stranger
        | ok response =>
            exact h.stranger.upsert (h.pending_ne hpending)
              (responseEffect_id _ _ _ nowMs)
  · exact responseWithPeer_awaits hawaits

theorem Unmet.response {r : LxmfRouter σ} (h : r.Unmet p)
    (requestId : Hash16) (payload : Bytes) (nowMs : Nat) :
    (r.handlePeerSyncResponseBytes P requestId payload nowMs).2.Unmet p := by
  unfold handlePeerSyncResponseBytes
  dsimp only
  cases hpending : r.peerSyncPending.lookup requestId with
  | none => exact h.responseWithPeer requestId payload nowMs
  | some pending =>
      have hstranger : PeerTable.Stranger p
          (r.peers.upsert pending.peerId nowMs (·.markHeard nowMs)) :=
        h.stranger.upsert (h.pending_ne hpending) fun peer => rfl
      have hheard : Unmet p { r with
          peers := r.peers.upsert pending.peerId nowMs
            (·.markHeard nowMs) } := ⟨hstranger, h.owesNothing⟩
      exact hheard.responseWithPeer requestId payload nowMs

theorem receiveResponse_awaits {r : LxmfRouter σ} {resp : RnsResponse}
    {nowMs : Nat} (h : (r.receiveResponse P resp nowMs).Awaits p) :
    r.Awaits p := by
  unfold receiveResponse at h
  cases hdata : valueToBytes resp.data with
  | none =>
      rw [hdata] at h
      exact h
  | some payload =>
      rw [hdata] at h
      dsimp only at h
      have hhandled : (r.handlePeerSyncResponseBytesWithPeer P
          resp.requestId payload nowMs).2.Awaits p := by
        split at h
        case h_1 heq => rw [heq]; exact h
        case h_2 heq => rw [heq]; exact h
      exact responseWithPeer_awaits hhandled

theorem Unmet.queuedResponse {r : LxmfRouter σ} (h : r.Unmet p)
    (resp : RnsResponse) (nowMs : Nat) :
    (r.receiveResponse P resp nowMs).Unmet p := by
  refine ⟨?_, fun hawaits => h.owesNothing (receiveResponse_awaits hawaits)⟩
  rw [receiveResponse_peers]
  cases valueToBytes resp.data with
  | none => exact h.stranger
  | some payload =>
      exact (h.responseWithPeer resp.requestId payload nowMs).stranger

variable [MessageStore σ]

/-- An event that does not bring `p` in leaves it out. -/
theorem Unmet.handlePeerEvent {r : LxmfRouter σ} (h : r.Unmet p)
    {e : PeerEvent} (hadmits : ¬ Admits p e) :
    (r.handlePeerEvent P e).Unmet p := by
  cases e with
  | request peerId req nowMs => exact h.request hadmits
  | response requestId payload nowMs =>
      exact h.response requestId payload nowMs
  | queuedResponse resp nowMs => exact h.queuedResponse resp nowMs
  | build peerId req nowMs =>
      simp only [LxmfRouter.handlePeerEvent]
      refine ⟨?_, fun hawaits => ?_⟩
      · rw [buildPeerSyncRequest_peers]
        exact h.stranger
      · rcases buildPeerSyncRequest_awaits hawaits with hid | hbefore
        · exact hadmits hid.symm
        · exact h.owesNothing hbefore
  | tick nowMs deliver rng free =>
      have hticked := tick_ticked (P := P) r nowMs deliver rng free
      refine ⟨?_, fun hawaits => h.owesNothing (hticked.awaits hawaits)⟩
      exact h.stranger.tickSteps h.owesNothing hticked.steps

end Strangers

-- ============================================================= requests

section Requests

variable {σ : Type} {P : Platform} {p : Hash16}

/-- Requests of one remote, each with its time. -/
def handleRequestBytes (P : Platform) (r : LxmfRouter σ) (p : Hash16)
    (reqs : List (Bytes × Nat)) : LxmfRouter σ :=
  reqs.foldl (fun r q => (r.handlePeerSyncRequestBytes P p q.1 q.2).2) r

/-- None of them is an offer with a key that validates. -/
def NoValidOffer (P : Platform) (v : PeeringValidation) (p : Hash16)
    (reqs : List (Bytes × Nat)) : Prop :=
  ∀ q ∈ reqs, ∀ key available,
    decodePeerSyncRequest P q.1 = .ok (.offer key available) →
    validatePeeringKey P (v.localIdentityHash.toList ++ p.toList) key
      v.targetCost = false

/-- The record is that of `p`, and in a state that waits for its time
only. -/
structure Pausing (p : Hash16) (peer : Peer) : Prop where
  id : peer.id = p
  state : peer.state = .idle ∨ peer.state = .backoff

theorem Pausing.shouldSync {peer : Peer} (h : Pausing p peer) {nowMs : Nat}
    (hdue : peer.nextSyncMs ≤ nowMs) : peer.shouldSync nowMs = true := by
  unfold Peer.shouldSync
  rw [decide_eq_true hdue, Bool.and_true]
  rcases h.state with hidle | hbackoff
  · rw [hidle]; rfl
  · rw [hbackoff]; rfl

/-- A request without a valid key starts no exchange. -/
theorem Pausing.request {r : LxmfRouter σ} {v : PeeringValidation}
    (hv : r.peeringValidation = some v) {payload : Bytes} {nowMs : Nat}
    (hinvalid : ∀ key available,
      decodePeerSyncRequest P payload = .ok (.offer key available) →
      validatePeeringKey P (v.localIdentityHash.toList ++ p.toList) key
        v.targetCost = false)
    {peer : Peer} (h : Pausing p peer) :
    Pausing p (r.requestEffect P p payload nowMs peer) := by
  refine ⟨(requestEffect_id r p payload nowMs peer).trans h.id, ?_⟩
  unfold requestEffect
  dsimp only
  split
  case h_1 => exact h.state
  case h_2 key available hdecode =>
    have hkey : r.offerKeyValid P p key = false := by
      unfold offerKeyValid
      rw [hv]
      exact hinvalid key available hdecode
    rw [hkey]
    exact .inr rfl
  case h_3 => exact h.state
  case h_4 => exact h.state
  case h_5 => exact .inl rfl

/-- Whatever is asked, there is a record afterwards. -/
theorem Pausing.requests {v : PeeringValidation}
    {reqs : List (Bytes × Nat)} (hinvalid : NoValidOffer P v p reqs)
    {r : LxmfRouter σ} (hv : r.peeringValidation = some v)
    (hrecord : ∀ peer, r.peers.lookup p = some peer → Pausing p peer)
    (hsome : reqs ≠ [] ∨ p ∈ r.peers) :
    ∃ peer, (r.handleRequestBytes P p reqs).peers.lookup p = some peer
      ∧ Pausing p peer := by
  induction reqs generalizing r with
  | nil =>
      have hmem := hsome.resolve_left fun hne => hne rfl
      obtain ⟨peer, hpeer⟩ := HashMap.mem_iff_lookup.mp hmem
      exact ⟨peer, hpeer, hrecord peer hpeer⟩
  | cons q reqs ih =>
      have hpeers := handlePeerSyncRequestBytes_peers (P := P) r p q.1 q.2
      have hlookup : (r.handlePeerSyncRequestBytes P p q.1
          q.2).2.peers.lookup p = some (r.requestEffect P p q.1 q.2
            ((r.peers.lookup p).getD (Peer.new p q.2))) := by
        rw [hpeers, PeerTable.lookup_upsert_self]
      have hpausing : Pausing p
          ((r.peers.lookup p).getD (Peer.new p q.2)) := by
        cases hbefore : r.peers.lookup p with
        | none => exact ⟨rfl, .inl rfl⟩
        | some peer => exact hrecord peer hbefore
      refine ih (fun q' hq' => hinvalid q' (List.mem_cons_of_mem q hq'))
        ?_ ?_ (.inr ?_)
      · obtain ⟨_, _, _, _, heq⟩ := handlePeerSyncRequestBytes_eq (P := P)
          r p q.1 q.2
        dsimp only
        rw [heq]
        exact hv
      · intro peer hpeer
        rw [hlookup] at hpeer
        injection hpeer with hpeer
        rw [← hpeer]
        exact hpausing.request hv (hinvalid q List.mem_cons_self)
      · exact HashMap.mem_iff_lookup.mpr ⟨_, hlookup⟩

theorem handleRequestBytes_peeringValidation (r : LxmfRouter σ)
    (reqs : List (Bytes × Nat)) :
    (r.handleRequestBytes P p reqs).peeringValidation
      = r.peeringValidation := by
  induction reqs generalizing r with
  | nil => rfl
  | cons q reqs ih =>
      obtain ⟨_, _, _, _, heq⟩ := handlePeerSyncRequestBytes_eq (P := P) r p
        q.1 q.2
      refine (ih _).trans ?_
      dsimp only
      rw [heq]

/-- The last request decides, over what the others left. -/
theorem lookup_handleRequestBytes_concat (r : LxmfRouter σ)
    (reqs : List (Bytes × Nat)) (payload : Bytes) (nowMs : Nat) :
    (r.handleRequestBytes P p (reqs ++ [(payload, nowMs)])).peers.lookup p
      = some ((r.handleRequestBytes P p reqs).requestEffect P p payload
        nowMs (((r.handleRequestBytes P p reqs).peers.lookup p).getD
          (Peer.new p nowMs))) := by
  unfold handleRequestBytes
  rw [List.foldl_append]
  generalize List.foldl _ r reqs = r'
  simp only [List.foldl_cons, List.foldl_nil]
  rw [handlePeerSyncRequestBytes_peers, PeerTable.lookup_upsert_self]

theorem handleRequestBytes_keyed {r : LxmfRouter σ} (h : r.peers.Keyed)
    (reqs : List (Bytes × Nat)) :
    (r.handleRequestBytes P p reqs).peers.Keyed := by
  induction reqs generalizing r with
  | nil => exact h
  | cons q reqs ih =>
      refine ih ?_
      dsimp only
      rw [handlePeerSyncRequestBytes_peers]
      exact h.upsert (requestEffect_id r p q.1 q.2)

/-- An offer with a key that does not validate is a failure of the
sender. -/
theorem requestEffect_invalidOffer {r : LxmfRouter σ} {payload key : Bytes}
    {available : List Hash32} {nowMs : Nat} {peer : Peer}
    (hdecode : decodePeerSyncRequest P payload
      = .ok (.offer key available))
    (hkey : r.offerKeyValid P p key = false) :
    satAdd64 nowMs peerBackoffStepMs
      ≤ (r.requestEffect P p payload nowMs peer).nextSyncMs := by
  unfold requestEffect
  dsimp only
  rw [hdecode]
  dsimp only
  rw [hkey, if_neg Bool.false_ne_true]
  unfold Peer.onFailure Peer.markHeard satAdd64
  dsimp only
  unfold u64Max peerBackoffStepMs peerBackoffMaxMs
  split
  case isTrue => omega
  case isFalse => omega

/-- `schedule_peer_sync` queues an offer for `p`. -/
def Schedules (P : Platform) (r : LxmfRouter σ) (nowMs : Nat)
    (rng : OsRng) (p : Hash16) : Prop :=
  ∃ req, (r.schedulePeerSync P nowMs rng).peerSyncQueue
    = r.peerSyncQueue ++ [(p, req)]

theorem schedules_iff {r : LxmfRouter σ} {nowMs : Nat} {rng : OsRng} :
    Schedules P r nowMs rng p ↔ r.peers.nextReady nowMs = some p := by
  unfold Schedules schedulePeerSync
  cases r.peers.nextReady nowMs with
  | none => simp
  | some peerId =>
      dsimp only [peerSyncOffer]
      constructor
      · rintro ⟨req, hqueue⟩
        have hlast := List.append_cancel_left hqueue
        injection hlast with hlast
        injection hlast with hid
        rw [hid]
      · intro hid
        injection hid with hid
        exact ⟨_, by rw [hid]⟩

end Requests

-- ============================================================ whole runs

/-- A remote that asks nothing and is asked nothing stays out and is
never selected. One that asks, without ever showing a valid key, has a
record: it is selected from the record's time on, when no other peer is
due as early, and not before; a key that does not validate sets that
time a pause later. -/
theorem stranger_selected_once_it_asks {σ : Type} [MessageStore σ]
    (P : Platform) (r : LxmfRouter σ) (v : PeeringValidation)
    (hv : r.peeringValidation = some v) (hkeyed : r.peers.Keyed)
    (p : Hash16) (hout : p ∉ r.peers) (howes : ¬ r.Awaits p) :
    (∀ events : List PeerEvent, (∀ e ∈ events, ¬ Admits p e) →
      ∀ done, done <+: events → ∀ nowMs rng,
        (done.foldl (handlePeerEvent P) r).peers.nextReady nowMs ≠ some p
        ∧ ¬ Schedules P (done.foldl (handlePeerEvent P) r) nowMs rng p)
    ∧ ∀ reqs, NoValidOffer P v p reqs → reqs ≠ [] →
      ∃ peer, (r.handleRequestBytes P p reqs).peers.lookup p = some peer
        ∧ (∀ nowMs, peer.nextSyncMs ≤ nowMs →
          (∀ key other,
            (r.handleRequestBytes P p reqs).peers.lookup key = some other →
            key ≠ p → other.shouldSync nowMs = true →
            peer.nextSyncMs < other.nextSyncMs) →
          ∀ rng, (r.handleRequestBytes P p reqs).peers.nextReady nowMs
              = some p
            ∧ Schedules P (r.handleRequestBytes P p reqs) nowMs rng p)
        ∧ (∀ nowMs < peer.nextSyncMs, ∀ rng,
          (r.handleRequestBytes P p reqs).peers.nextReady nowMs ≠ some p
          ∧ ¬ Schedules P (r.handleRequestBytes P p reqs) nowMs rng p)
        ∧ ∀ before payload nowMs key available,
          reqs = before ++ [(payload, nowMs)] →
          decodePeerSyncRequest P payload = .ok (.offer key available) →
          satAdd64 nowMs peerBackoffStepMs ≤ peer.nextSyncMs := by
  refine ⟨?_, ?_⟩
  · intro events hevents done hdone nowMs rng
    have hunmet := @Run.throughout (LxmfRouter σ) PeerEvent
      (handlePeerEvent P) (fun _ e => ¬ Admits p e) (Unmet p) r events
      ⟨⟨hkeyed, hout⟩, howes⟩ (fun _ _ h hadmits => h.handlePeerEvent hadmits)
      (fun before e hbefore => hevents e (hbefore.subset
        (List.mem_append_right before List.mem_cons_self))) done hdone
    have hnot : PeerTable.nextReady _ nowMs ≠ some p :=
      hunmet.stranger.nextReady_ne
    exact ⟨hnot, fun hqueued => hnot (schedules_iff.mp hqueued)⟩
  · intro reqs hinvalid hsome
    obtain ⟨peer, hpeer, hpausing⟩ := Pausing.requests hinvalid hv
      (fun peer hpeer => absurd (HashMap.mem_iff_lookup.mpr ⟨peer, hpeer⟩)
        hout) (.inl hsome)
    refine ⟨peer, hpeer, ?_, ?_, ?_⟩
    · intro nowMs hdue hfirst rng
      have hready := PeerTable.nextReady_eq_some hpeer
        (hpausing.shouldSync hdue) hfirst
      rw [hpausing.id] at hready
      exact ⟨hready, schedules_iff.mpr hready⟩
    · intro nowMs hearly rng
      have hnot := (handleRequestBytes_keyed hkeyed reqs).nextReady_ne hpeer
        (Peer.shouldSync_eq_false hearly)
      exact ⟨hnot, fun hqueued => hnot (schedules_iff.mp hqueued)⟩
    · intro before payload nowMs key available hreqs hdecode
      subst hreqs
      have hoffer := hinvalid (payload, nowMs)
        (List.mem_append_right before List.mem_cons_self) key available
        hdecode
      rw [lookup_handleRequestBytes_concat] at hpeer
      injection hpeer with hpeer
      rw [← hpeer]
      refine requestEffect_invalidOffer hdecode ?_
      unfold offerKeyValid
      rw [handleRequestBytes_peeringValidation, hv]
      exact hoffer

section AdmissionInstance

open Reference

/-- One request of no bytes at all. -/
def emptyRequest : List (Bytes × Nat) := [([], 0)]

theorem emptyRequest_noValidOffer :
    NoValidOffer platform ⟨docOutbound.sourceIdentity, defaultPeeringCost⟩
      stampless emptyRequest := by
  intro q hq key available hdecode
  rw [List.mem_singleton.mp hq] at hdecode
  have herror : (decodePeerSyncRequest platform []).isOk = false := by
    decide +kernel
  rw [hdecode] at herror
  cases herror

theorem emptyRequest_due :
    ((docNode.handleRequestBytes platform stampless
      emptyRequest).peers.lookup stampless).map (·.nextSyncMs) = some 0 := by
  decide +kernel

theorem emptyRequest_alone :
    (docNode.handleRequestBytes platform stampless emptyRequest).peers.keys
      = [stampless] := by
  decide +kernel

/-- A response nobody waits for leaves the remote out; a request of no
bytes brings it in. -/
theorem stranger_selected_doc :
    (docNode.handlePeerEvent platform (.response stampless [] 5)
      ).peers.nextReady 5 ≠ some stampless
    ∧ (docNode.handleRequestBytes platform stampless
      emptyRequest).peers.nextReady 0 = some stampless := by
  have howes : ¬ docNode.Awaits stampless := by
    rintro ⟨requestId, pending, hpending, _⟩
    cases hpending
  have h := stranger_selected_once_it_asks platform docNode _
    docNode_peeringValidation docNode_keyed stampless (by decide +kernel)
    howes
  refine ⟨?_, ?_⟩
  · have hleft := h.1 [.response stampless [] 5]
      (fun e he => by rw [List.mem_singleton.mp he]; exact id) _
      (List.prefix_refl _) 5 fun _ => 0
    exact hleft.1
  · obtain ⟨peer, hpeer, hselected⟩ := h.2 emptyRequest
      emptyRequest_noValidOffer (List.cons_ne_nil _ _)
    have hdue := emptyRequest_due
    rw [hpeer] at hdue
    injection hdue with hdue
    refine (hselected.1 0 (le_of_eq hdue) ?_ fun _ => 0).1
    intro key other hkey hne _
    have hmem := AList.mem_keys.mp (HashMap.mem_iff_lookup.mpr ⟨_, hkey⟩)
    rw [emptyRequest_alone] at hmem
    exact absurd (List.mem_singleton.mp hmem) hne

/-- The remote has shown no key, and is the next to sync with. -/
theorem emptyRequest_selected :
    ¬ ∀ (r : LxmfRouter InMemoryStore) (v : PeeringValidation),
      r.peeringValidation = some v → r.peers.Keyed →
      ∀ p, p ∉ r.peers → ∀ reqs, NoValidOffer platform v p reqs →
      ∀ ticks : List PeerEvent,
        (∀ e ∈ ticks, ∃ nowMs deliver rng free,
          e = .tick nowMs deliver rng free) →
      ∀ nowMs, (ticks.foldl (handlePeerEvent platform)
        (r.handleRequestBytes platform p reqs)).peers.nextReady nowMs
          ≠ some p := by
  intro h
  refine h docNode _ docNode_peeringValidation docNode_keyed stampless
    (by decide +kernel) emptyRequest emptyRequest_noValidOffer [] ?_ 0 ?_
  · intro e he
    cases he
  · decide +kernel

end AdmissionInstance

end LxmfRouter

end Lxmf
