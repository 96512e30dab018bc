/-
What messages, the inbound queue and the tick do to a shelf.

A peer-sync message files the entries of a payload or drops the ids of
an acknowledgement, an item of the inbound queue does what its handler
does, and a tick only takes away. `RouterEvent` collects them: a run of
a router is a run of these events, and one event files a batch of
entries (`eventEntries`) or takes entries away.
-/
import Lxmf.Proofs.Shelf

namespace Lxmf

namespace LxmfRouter

section Messages

variable {σ : Type} {P : Platform}

-- ==================================================== peer-sync messages

theorem handlePeerSyncOffer_shelf (r : LxmfRouter σ) (peerId : Hash16)
    (req : PeerSyncRequest) (nowMs : Nat) :
    (r.handlePeerSyncOffer P peerId req nowMs).2.shelf = r.shelf := by
  obtain ⟨_, h⟩ := handlePeerSyncOffer_eq (P := P) r peerId req nowMs
  rw [h]
  rfl

theorem peerSyncMessageGet_shelf (r : LxmfRouter σ) (peerId : Hash16)
    (response : PeerSyncResponse) (limit : Option F64) (nowMs : Nat) :
    (r.peerSyncMessageGet peerId response limit nowMs).2.shelf
      = r.shelf := by
  obtain ⟨_, h⟩ := peerSyncMessageGet_eq r peerId response limit nowMs
  rw [h]
  rfl

theorem handlePeerSyncMessageGet_shelf (r : LxmfRouter σ)
    (peerId : Hash16) (req : PeerSyncRequest) (nowMs : Nat) :
    (r.handlePeerSyncMessageGet P peerId req nowMs).2.shelf
      = r.shelf := by
  obtain ⟨_, _, h⟩ := handlePeerSyncMessageGet_eq (P := P) r peerId req
    nowMs
  rw [h]
  rfl

/-- Of the requests of a peer only an acknowledgement reaches the shelf. -/
theorem respondPeerSync_shelf (r : LxmfRouter σ) (peerId : Hash16)
    (req : PeerSyncRequest) (nowMs : Nat) :
    (r.respondPeerSync P peerId req nowMs).2.shelf
      = r.shelf.run P ((acknowledged req).map ShelfOp.drop) := by
  cases req with
  | offer key available =>
      have hoffer := handlePeerSyncOffer_shelf (P := P) r peerId
        (.offer key available) nowMs
      simp only [respondPeerSync]
      generalize r.handlePeerSyncOffer P peerId (.offer key available)
        nowMs = answered at hoffer ⊢
      have hget := peerSyncMessageGet_shelf answered.2 peerId answered.1
        none nowMs
      split
      case h_1 heq =>
        rw [heq] at hget
        exact hget.trans hoffer
      case h_2 heq =>
        rw [heq] at hget
        exact hget.trans hoffer
  | messageGetList => exact handlePeerSyncMessageGet_shelf ..
  | messageGet wants haves limit => exact handlePeerSyncMessageGet_shelf ..
  | messageAck delivered => exact handlePeerSyncAck_shelf ..

/-- Bytes that do not decode reach nothing. -/
theorem handlePeerSyncRequestBytes_shelf (r : LxmfRouter σ)
    (peerId : Hash16) (payload : Bytes) (nowMs : Nat) :
    (r.handlePeerSyncRequestBytes P peerId payload nowMs).2.shelf
      = r.shelf.run P
        ((acknowledgedByBytes P payload).map ShelfOp.drop) := by
  unfold handlePeerSyncRequestBytes acknowledgedByBytes
  dsimp only
  cases decodePeerSyncRequest P payload with
  | error e => rfl
  | ok req => exact respondPeerSync_shelf ..

/-- A request drops what it acknowledges. -/
theorem handlePeerSyncRequest_shelf (r : LxmfRouter σ) (peerId : Hash16)
    (req : RnsRequest) (nowMs : Nat) :
    (r.handlePeerSyncRequest P peerId req nowMs).2.shelf
      = r.shelf.run P ((acknowledgedBy P req).map ShelfOp.drop) := by
  unfold handlePeerSyncRequest acknowledgedBy
  cases valueToBytes req.data with
  | none => rfl
  | some payload =>
      have h := handlePeerSyncRequestBytes_shelf (P := P) r peerId payload
        nowMs
      dsimp only
      split
      case h_1 heq =>
        rw [heq] at h
        exact h
      case h_2 heq =>
        rw [heq] at h
        exact h

theorem buildPeerSyncRequest_shelf (r : LxmfRouter σ) (peerId : Hash16)
    (req : PeerSyncRequest) (nowMs : Nat) :
    (r.buildPeerSyncRequest P peerId req nowMs).2.shelf = r.shelf := by
  unfold buildPeerSyncRequest
  split
  case h_1 => rfl
  case h_2 =>
    split
    case h_1 => rfl
    case h_2 => rfl

/-- A payload is received entry by entry. -/
theorem receivePayload_shelf (r : LxmfRouter σ) (peerId : Hash16)
    (response : PeerSyncResponse) (nowMs : Nat) :
    (r.receivePayload P peerId response nowMs).2.shelf
      = r.shelf.receive P nowMs
        (payloadEntries P r.minStampCost response) := by
  have h := applyPeerSyncPayload_shelf (P := P) r peerId response nowMs
  unfold receivePayload
  split
  case h_1 heq =>
    rw [heq] at h
    exact h
  case h_2 ackReq r' heq =>
    rw [heq] at h
    have hbuild := buildPeerSyncRequest_shelf (P := P) r' peerId ackReq
      nowMs
    split
    case h_1 heq' =>
      rw [heq'] at hbuild
      exact hbuild.trans h
    case h_2 heq' =>
      rw [heq'] at hbuild
      exact hbuild.trans h

/-- The entries the response to a request brings: those of a payload,
when the request is a pending get. -/
def responseEntries (P : Platform) (r : LxmfRouter σ) (requestId : Hash16)
    (payload : Bytes) : List PropagationEntry :=
  match r.peerSyncPending.lookup requestId,
      decodePeerSyncResponse P payload with
  | some pending, .ok response =>
      match pending.request with
      | .messageGet _ _ _ | .messageGetList =>
          payloadEntries P r.minStampCost response
      | _ => []
  | _, _ => []

/-- A response counts if its request is pending. -/
theorem handlePeerSyncResponseBytesWithPeer_shelf (r : LxmfRouter σ)
    (requestId : Hash16) (payload : Bytes) (nowMs : Nat) :
    (r.handlePeerSyncResponseBytesWithPeer P requestId payload
      nowMs).2.shelf
      = r.shelf.receive P nowMs
        (responseEntries P r requestId payload) := by
  unfold handlePeerSyncResponseBytesWithPeer responseEntries
  cases r.peerSyncPending.lookup requestId with
  | none => rfl
  | some pending =>
      dsimp only
      cases decodePeerSyncResponse P payload with
      | error e => rfl
      | ok response =>
          dsimp only
          cases pending.request with
          | offer key available => rfl
          | messageGetList => exact receivePayload_shelf ..
          | messageGet wants haves limit => exact receivePayload_shelf ..
          | messageAck delivered => rfl

theorem handlePeerSyncResponseBytes_shelf (r : LxmfRouter σ)
    (requestId : Hash16) (payload : Bytes) (nowMs : Nat) :
    (r.handlePeerSyncResponseBytes P requestId payload nowMs).2.shelf
      = r.shelf.receive P nowMs
        (responseEntries P r requestId payload) := by
  unfold handlePeerSyncResponseBytes
  dsimp only
  rw [handlePeerSyncResponseBytesWithPeer_shelf]
  unfold responseEntries
  cases hpending : r.peerSyncPending.lookup requestId with
  | none =>
      dsimp only
      rw [hpending]
  | some pending =>
      dsimp only
      rw [hpending]
      rfl

-- ==================================================== the inbound queue

theorem learnTicket_shelf (r : LxmfRouter σ) (m : LXMessage)
    (nowMs : Nat) : (r.learnTicket P m nowMs).shelf = r.shelf := by
  unfold learnTicket
  split
  case h_2 => rfl
  case h_1 expiresAtS ticket _ =>
    split
    case isFalse => rfl
    case isTrue =>
      unfold rememberTicket persistTicketStore
      refine persist_shelf _ fun disk => ?_
      exact Disk.files_saveValue (by decide) _ disk

theorem markDelivered_shelf (r : LxmfRouter σ) (m : LXMessage)
    (nowMs : Nat) : (r.markDelivered P m nowMs).shelf = r.shelf := by
  unfold markDelivered
  split
  case h_1 => exact saveLocalCaches_shelf _
  case h_2 => rfl

/-- A message for this node is not on the shelf. -/
theorem processInboundMessage_shelf (r : LxmfRouter σ) (m : LXMessage)
    (nowMs : Nat) (sv ne : Bool) :
    (r.processInboundMessage P m nowMs sv ne).2.shelf = r.shelf := by
  unfold processInboundMessage
  split
  case isTrue => rfl
  case isFalse =>
    split
    case isTrue => rfl
    case isFalse =>
      generalize hl : (if sv = true then r.learnTicket P m nowMs else r)
        = learned
      have hkeep : learned.shelf = r.shelf := by
        rw [← hl]
        split
        case isTrue => exact learnTicket_shelf r m nowMs
        case isFalse => rfl
      dsimp only
      split
      case isTrue => exact hkeep
      case isFalse => exact (markDelivered_shelf ..).trans hkeep

theorem unpeer_shelf (r : LxmfRouter σ) (peerId : Hash16) :
    (r.unpeer peerId).2.shelf = r.shelf := by
  unfold unpeer
  split
  case isFalse => rfl
  case isTrue =>
    refine persist_shelf _ fun disk => ?_
    refine Disk.files_erase_of_ne ?_ disk
    unfold Disk.peerPath
    rw [String.toList_append]
    exact fun h => nomatch h

theorem requestPeerSync_shelf (r : LxmfRouter σ) (peerId : Hash16)
    (nowMs : Nat) :
    (r.requestPeerSync peerId nowMs).2.shelf = r.shelf := by
  unfold requestPeerSync
  split
  case isTrue => rfl
  case isFalse => rfl

/-- A control request does what its operation does. -/
theorem controlPeer_shelf (r : LxmfRouter σ) (req : RnsRequest)
    (op : Hash16 → Bool × LxmfRouter σ)
    (hop : ∀ target, (op target).2.shelf = r.shelf) :
    (r.controlPeer req op).2.shelf = r.shelf := by
  unfold controlPeer
  split
  case h_1 => rfl
  case h_2 target _ =>
    have h := hop target
    split
    case h_1 heq =>
      rw [heq] at h
      exact h
    case h_2 heq =>
      rw [heq] at h
      exact h

theorem handleControlRequest_shelf (r : LxmfRouter σ) (peerId : Hash16)
    (req : RnsRequest) (nowMs : Nat) :
    (r.handleControlRequest P peerId req nowMs).2.shelf = r.shelf := by
  unfold handleControlRequest
  split
  case isTrue => rfl
  case isFalse =>
    split
    case isTrue => rfl
    case isFalse =>
      split
      case isTrue =>
        exact controlPeer_shelf r req _
          fun target => requestPeerSync_shelf r target nowMs
      case isFalse =>
        split
        case isTrue => exact controlPeer_shelf r req _ r.unpeer_shelf
        case isFalse => rfl

theorem queueControl_shelf (r : LxmfRouter σ) (peerId : Hash16)
    (req : RnsRequest) (nowMs : Nat) :
    (r.queueControl P peerId req nowMs).shelf = r.shelf := by
  have h := handleControlRequest_shelf (P := P) r peerId req nowMs
  unfold queueControl
  split
  case h_1 heq =>
    rw [heq] at h
    exact h
  case h_2 heq =>
    rw [heq] at h
    exact h

/-- The ids a received request drops. -/
def requestDrops (P : Platform) (req : RnsRequest)
    (sourceHash : Option Hash16) : List Hash32 :=
  if sourceHash.isSome ∧ req.pathHash = requestPathHash P peerSyncPath then
    acknowledgedBy P req
  else []

/-- A request that came over a link, of a peer that is known. -/
theorem receiveRequest_shelf (r : LxmfRouter σ) (req : RnsRequest)
    (sourceHash : Option Hash16) (nowMs : Nat) :
    (r.receiveRequest P req sourceHash nowMs).shelf
      = r.shelf.run P
        ((requestDrops P req sourceHash).map ShelfOp.drop) := by
  unfold receiveRequest
  cases sourceHash with
  | none => rfl
  | some peerId =>
      dsimp only
      split
      case isTrue hpath =>
        have hdrops : requestDrops P req (some peerId)
            = acknowledgedBy P req := if_pos ⟨rfl, hpath⟩
        rw [hdrops]
        have h := handlePeerSyncRequest_shelf (P := P) r peerId req nowMs
        split
        case h_1 heq =>
          rw [heq] at h
          exact h
        case h_2 heq =>
          rw [heq] at h
          exact h
      case isFalse hpath =>
        have hdrops : requestDrops P req (some peerId) = [] :=
          if_neg fun h => hpath h.2
        rw [hdrops]
        split
        case isTrue => exact queueControl_shelf ..
        case isFalse => rfl

theorem receiveControl_shelf (r : LxmfRouter σ) (req : RnsRequest)
    (sourceHash : Option Hash16) (nowMs : Nat) :
    (r.receiveControl P req sourceHash nowMs).shelf = r.shelf := by
  unfold receiveControl
  split
  case isFalse => rfl
  case isTrue =>
    split
    case h_1 => exact queueControl_shelf ..
    case h_2 => rfl

/-- A response that came over a link. -/
theorem receiveResponse_shelf (r : LxmfRouter σ) (response : RnsResponse)
    (nowMs : Nat) :
    (r.receiveResponse P response nowMs).shelf
      = r.shelf.receive P nowMs
        (((valueToBytes response.data).map
          (responseEntries P r response.requestId)).getD []) := by
  unfold receiveResponse
  cases valueToBytes response.data with
  | none => rfl
  | some payload =>
      have h := handlePeerSyncResponseBytesWithPeer_shelf (P := P) r
        response.requestId payload nowMs
      dsimp only
      split
      case h_1 heq =>
        rw [heq] at h
        exact h
      case h_2 heq =>
        rw [heq] at h
        exact h

/-- The entries an item of the inbound queue brings. -/
def receivedEntries (P : Platform) (r : LxmfRouter σ) (nowMs : Nat) :
    Received → List PropagationEntry
  | .propagated timestamp lxmData _ _ _ =>
      (stampChecked P r.minStampCost
        (propagatedEntry P timestamp lxmData)).toList
  | .propagationResource payload sourceHash =>
      match decodePropagationResourcePayload P payload with
      | .ok messages =>
          if resourceAccepted P r sourceHash none messages none then
            resourceEntries P r.minStampCost messages nowMs
          else []
      | .error _ => []
  | .response response _ =>
      ((valueToBytes response.data).map
        (responseEntries P r response.requestId)).getD []
  | _ => []

/-- The ids an item of the inbound queue drops. -/
def receivedDrops (P : Platform) : Received → List Hash32
  | .request req sourceHash => requestDrops P req sourceHash
  | _ => []

/-- Whatever was received: entries come in, or entries go. -/
theorem handleReceived_shelf (r : LxmfRouter σ) (received : Received)
    (nowMs : Nat) (sv : Bool) :
    (r.handleReceived P received nowMs sv).2.shelf
      = (r.shelf.receive P nowMs (receivedEntries P r nowMs received)).run P
        ((receivedDrops P received).map ShelfOp.drop) := by
  cases received with
  | message m => exact processInboundMessage_shelf r m nowMs sv false
  | propagated timestamp lxmData id sourceHash count =>
      exact processPropagated_shelf r timestamp lxmData nowMs sourceHash
        count
  | propagationResource payload sourceHash =>
      simp only [handleReceived, handlePropagationResourcePayload,
        receivedEntries]
      cases decodePropagationResourcePayload P payload with
      | error e => rfl
      | ok messages =>
          exact processPropagationResource_shelf r sourceHash none messages
            none nowMs
  | request req sourceHash => exact receiveRequest_shelf ..
  | controlRequest req sourceHash => exact receiveControl_shelf ..
  | response response sourceHash => exact receiveResponse_shelf ..

end Messages

-- ============================================================ the tick

section Tick

variable {σ : Type} {P : Platform}

/-- The shelf of the one comes from that of the other by drops. -/
def Sheds (P : Platform) (r r' : LxmfRouter σ) : Prop :=
  Shelf.Runs P ShelfOp.Drops r.shelf r'.shelf

theorem Sheds.of_eq {r r' : LxmfRouter σ} (h : r'.shelf = r.shelf) :
    Sheds P r r' := by
  unfold Sheds
  rw [h]
  exact .refl r.shelf

/-- One after the other. -/
theorem Sheds.trans {r r' r'' : LxmfRouter σ} (h : Sheds P r r')
    (h' : Sheds P r' r'') : Sheds P r r'' :=
  Shelf.Runs.trans h h'

/-- A job that runs now and then. -/
theorem Sheds.ite (ran : Bool) {r r' : LxmfRouter σ} (h : Sheds P r r') :
    Sheds P r (if ran then r' else r) := by
  split
  case isTrue => exact h
  case isFalse => exact .of_eq rfl

/-- To drop ids is to shed. -/
theorem Sheds.drops {r r' : LxmfRouter σ} {ids : List Hash32}
    (h : r'.shelf = r.shelf.run P (ids.map ShelfOp.drop)) :
    Sheds P r r' := by
  refine ⟨ids.map ShelfOp.drop, ?_, h⟩
  intro op hop
  obtain ⟨id, _, rfl⟩ := List.mem_map.mp hop
  trivial

/-- A loop that never touches the shelf. -/
theorem foldl_shelf {α : Type} {f : LxmfRouter σ → α → LxmfRouter σ}
    (hf : ∀ r a, (f r a).shelf = r.shelf) (as : List α)
    (r : LxmfRouter σ) : (as.foldl f r).shelf = r.shelf := by
  induction as generalizing r with
  | nil => rfl
  | cons a as ih => exact (ih (f r a)).trans (hf r a)

theorem cleanLinks_shelf (r : LxmfRouter σ) (nowMs : Nat) :
    (r.cleanLinks nowMs).shelf = r.shelf := by
  obtain ⟨tracker, h | ⟨failure, h⟩⟩ := r.cleanLinks_cases nowMs
  · rw [h]
    rfl
  · rw [h]
    rfl

theorem schedulePeerSync_shelf (r : LxmfRouter σ) (nowMs : Nat)
    (rng : OsRng) :
    (r.schedulePeerSync P nowMs rng).shelf = r.shelf := by
  unfold schedulePeerSync
  split
  case h_1 => rfl
  case h_2 => rfl

theorem rotatePeers_shelf (r : LxmfRouter σ) :
    r.rotatePeers.shelf = r.shelf := by
  rcases r.rotatePeers_eq with heq | ⟨maxPeers, -, -, heq⟩
  · rw [heq]
  · rw [heq]
    exact foldl_shelf unpeer_shelf _ r

/-- The queues of a peer mark entries and remove none. -/
theorem processHandled_entries {q : Hash16} {handled unhandled : List Hash32}
    {s : PropagationStore} {t : Hash32} :
    (Peer.processHandled q handled unhandled s t).entries = s.entries
      ∧ (Peer.processHandled q handled unhandled s t).filenames
        = s.filenames := by
  unfold Peer.processHandled
  dsimp only
  split
  case isTrue =>
    split
    case isTrue => exact ⟨rfl, rfl⟩
    case isFalse => exact ⟨rfl, rfl⟩
  case isFalse =>
    split
    case isTrue => exact ⟨rfl, rfl⟩
    case isFalse => exact ⟨rfl, rfl⟩

theorem processUnhandled_entries {q : Hash16}
    {handled unhandled : List Hash32} {s : PropagationStore} {t : Hash32} :
    (Peer.processUnhandled q handled unhandled s t).entries = s.entries
      ∧ (Peer.processUnhandled q handled unhandled s t).filenames
        = s.filenames := by
  unfold Peer.processUnhandled
  split
  case isTrue => exact ⟨rfl, rfl⟩
  case isFalse => exact ⟨rfl, rfl⟩

/-- Queues are flushed into the peer sets of the store. -/
theorem processQueues_entries (peer : Peer) (store : PropagationStore) :
    (peer.processQueues store).2.entries = store.entries
      ∧ (peer.processQueues store).2.filenames = store.filenames := by
  have hfold {f : PropagationStore → Hash32 → PropagationStore}
      (hf : ∀ s t, (f s t).entries = s.entries
        ∧ (f s t).filenames = s.filenames) (ts : List Hash32) :
      ∀ s, (ts.foldl f s).entries = s.entries
        ∧ (ts.foldl f s).filenames = s.filenames := by
    induction ts with
    | nil => exact fun s => ⟨rfl, rfl⟩
    | cons t ts ih =>
        intro s
        obtain ⟨hentries, hfilenames⟩ := ih (f s t)
        exact ⟨hentries.trans (hf s t).1, hfilenames.trans (hf s t).2⟩
  unfold Peer.processQueues
  dsimp only
  obtain ⟨hentries, hfilenames⟩ := hfold
    (fun _ _ => processUnhandled_entries) peer.unhandledMessagesQueue _
  obtain ⟨hentries', hfilenames'⟩ := hfold
    (fun _ _ => processHandled_entries) peer.handledMessagesQueue store
  exact ⟨hentries.trans hentries', hfilenames.trans hfilenames'⟩

theorem flushPeer_shelf (r : LxmfRouter σ) (peerId : Hash16) :
    (r.flushPeer peerId).shelf = r.shelf := by
  rcases r.flushPeer_cases peerId with ⟨heq, -⟩ | ⟨peer, -, heq⟩
  · rw [heq]
  · rw [heq]
    obtain ⟨hentries, hfilenames⟩ := processQueues_entries peer
      r.propagationStore
    unfold shelf
    dsimp only
    rw [hentries, hfilenames]

theorem flushQueues_shelf (r : LxmfRouter σ) :
    r.flushQueues.shelf = r.shelf := by
  unfold flushQueues
  split
  case isTrue => rfl
  case isFalse => exact foldl_shelf flushPeer_shelf _ _

theorem handleRequestTimeouts_shelf (r : LxmfRouter σ)
    (timeouts : List Hash16) (nowMs : Nat) :
    (r.handleRequestTimeouts timeouts nowMs).shelf = r.shelf := by
  refine foldl_shelf ?_ timeouts r
  intro r id
  split
  case h_1 => rfl
  case h_2 => rfl

theorem pollPeerSyncTimeouts_shelf (r : LxmfRouter σ) (nowMs : Nat) :
    (r.pollPeerSyncTimeouts nowMs).shelf = r.shelf := rfl

/-- The jobs of a tick add nothing to the shelf. -/
theorem tickJobs_sheds (r : LxmfRouter σ) (tick : RuntimeTick)
    (nowMs : Nat) (rng : OsRng) :
    Sheds P r (r.tickJobs P tick nowMs rng) := by
  have hpn (r : LxmfRouter σ) : Sheds P r
      (((r.cleanTransientIdCaches P nowMs).2.pollPeerSyncTimeouts
        nowMs).schedulePeerSync P nowMs rng) := by
    unfold Sheds
    rw [schedulePeerSync_shelf, pollPeerSyncTimeouts_shelf,
      cleanTransientIdCaches_shelf]
    exact .one r.shelf trivial
  have hstore (r : LxmfRouter σ) :
      Sheds P r (r.cleanPropagationStore nowMs).2 := by
    obtain ⟨ids, hids, _⟩ := cleanPropagationStore_shelf (P := P) r nowMs
    exact .drops hids
  refine Sheds.trans (.ite tick.linksRan
    (.of_eq (cleanLinks_shelf r nowMs))) ?_
  refine Sheds.trans (.ite tick.pnRan (hpn _)) ?_
  refine Sheds.trans (.ite tick.storeRan (hstore _)) ?_
  refine Sheds.trans (.ite tick.rotateRan
    (.of_eq (rotatePeers_shelf _))) ?_
  exact .ite tick.peeringestRan (.of_eq (flushQueues_shelf _))

variable [MessageStore σ]

theorem receiveProcessed_shelf (left : Nat) (r : LxmfRouter σ) :
    (receiveProcessed left r).2.shelf = r.shelf := by
  induction left generalizing r with
  | zero => rfl
  | succ left ih =>
      unfold receiveProcessed
      split
      case h_1 => exact ih _
      case h_2 => rfl

omit [MessageStore σ] in
theorem tickEnd_shelf (r : LxmfRouter σ) (tick : RuntimeTick)
    (nowMs : Nat) (free : Bool) :
    (r.tickEnd tick nowMs free).2.shelf = r.shelf := by
  unfold tickEnd
  dsimp only
  refine (handleRequestTimeouts_shelf ..).trans ?_
  split
  case isTrue => rfl
  case isFalse => rfl

/-- Nor does its beginning. -/
theorem tickBegin_sheds (r : LxmfRouter σ) (nowMs : Nat)
    (deliver : Nat → Deliver) (rng : OsRng) :
    Sheds P r (r.tickBegin P nowMs deliver rng).2.2 := by
  unfold tickBegin
  dsimp only
  generalize r.runtime.tick nowMs deliver = ticked
  have hjobs : Sheds P r
      (tickJobs P { r with runtime := ticked.2 } ticked.1 nowMs rng) :=
    tickJobs_sheds { r with runtime := ticked.2 } ticked.1 nowMs rng
  generalize tickJobs P { r with runtime := ticked.2 } ticked.1 nowMs rng
    = r' at hjobs ⊢
  split
  case isTrue =>
    have hreceived := receiveProcessed_shelf 100 r'.openChannel
    exact hjobs.trans (.of_eq hreceived)
  case isFalse => exact hjobs

/-- A tick only takes away. -/
theorem tick_sheds (r : LxmfRouter σ) (nowMs : Nat)
    (deliver : Nat → Deliver) (rng : OsRng) (free : Bool) :
    Sheds P r (r.tick P nowMs deliver rng free).2 := by
  have hbegin := tickBegin_sheds (P := P) r nowMs deliver rng
  unfold tick
  dsimp only
  generalize r.tickBegin P nowMs deliver rng = begun at hbegin ⊢
  exact hbegin.trans (.of_eq (tickEnd_shelf begun.2.2 begun.1 nowMs free))

end Tick

-- ============================================================== events

/-- A call that has to do with propagated messages. -/
inductive RouterEvent where
  | processPropagated (timestamp : F64) (lxmData : Bytes) (nowMs : Nat)
      (sourceHash : Option Hash16) (countClientReceive : Bool)
  | processPropagationResource (remoteHash : Option Hash16)
      (peeringKey : Option Bytes) (messages : List Bytes)
      (transferLimitKb : Option F64) (nowMs : Nat)
  | applyPeerSyncPayload (peerId : Hash16) (response : PeerSyncResponse)
      (nowMs : Nat)
  | handlePeerSyncAck (peerId : Hash16) (req : PeerSyncRequest)
      (nowMs : Nat)
  | handlePeerSyncRequest (peerId : Hash16) (req : RnsRequest)
      (nowMs : Nat)
  | handlePeerSyncResponse (requestId : Hash16) (payload : Bytes)
      (nowMs : Nat)
  | handleReceived (received : Received) (nowMs : Nat)
      (signatureValidated : Bool)
  | cleanPropagationStore (nowMs : Nat)
  | cleanupPropagation (nowMs maxAgeMs : Nat)
  | cleanTransientIdCaches (nowMs : Nat)
  | setPropagationValidation (stampCost stampCostFlex : Nat)
  | clearPropagationValidation
  | tick (nowMs : Nat) (deliver : Nat → Deliver) (rng : OsRng)
      (free : Bool)

/-- The local time of an event; the two settings have none. -/
def RouterEvent.nowMs : RouterEvent → Nat
  | .processPropagated _ _ nowMs _ _ => nowMs
  | .processPropagationResource _ _ _ _ nowMs => nowMs
  | .applyPeerSyncPayload _ _ nowMs => nowMs
  | .handlePeerSyncAck _ _ nowMs => nowMs
  | .handlePeerSyncRequest _ _ nowMs => nowMs
  | .handlePeerSyncResponse _ _ nowMs => nowMs
  | .handleReceived _ nowMs _ => nowMs
  | .cleanPropagationStore nowMs => nowMs
  | .cleanupPropagation nowMs _ => nowMs
  | .cleanTransientIdCaches nowMs => nowMs
  | .setPropagationValidation _ _ => 0
  | .clearPropagationValidation => 0
  | .tick nowMs _ _ _ => nowMs

section Events

variable {σ : Type}

/-- The entries an event brings. -/
def eventEntries (P : Platform) (r : LxmfRouter σ) :
    RouterEvent → List PropagationEntry
  | .processPropagated timestamp lxmData _ _ _ =>
      (stampChecked P r.minStampCost
        (propagatedEntry P timestamp lxmData)).toList
  | .processPropagationResource remoteHash peeringKey messages limit
      nowMs =>
      if resourceAccepted P r remoteHash peeringKey messages limit then
        resourceEntries P r.minStampCost messages nowMs
      else []
  | .applyPeerSyncPayload _ response _ =>
      payloadEntries P r.minStampCost response
  | .handlePeerSyncResponse requestId payload _ =>
      responseEntries P r requestId payload
  | .handleReceived received nowMs _ => receivedEntries P r nowMs received
  | _ => []

/-- The ids an event removes from memory alone. -/
def eventForgets (r : LxmfRouter σ) : RouterEvent → List Hash32
  | .cleanupPropagation nowMs maxAgeMs => r.outdatedIds nowMs maxAgeMs
  | _ => []

variable [MessageStore σ]

def handle (P : Platform) (r : LxmfRouter σ) :
    RouterEvent → LxmfRouter σ
  | .processPropagated timestamp lxmData nowMs sourceHash count =>
      (r.processPropagated P timestamp lxmData nowMs sourceHash count).2
  | .processPropagationResource remoteHash peeringKey messages limit
      nowMs =>
      (r.processPropagationResource P remoteHash peeringKey messages limit
        nowMs).2
  | .applyPeerSyncPayload peerId response nowMs =>
      (r.applyPeerSyncPayload P peerId response nowMs).2
  | .handlePeerSyncAck peerId req nowMs =>
      (r.handlePeerSyncAck peerId req nowMs).2
  | .handlePeerSyncRequest peerId req nowMs =>
      (r.handlePeerSyncRequest P peerId req nowMs).2
  | .handlePeerSyncResponse requestId payload nowMs =>
      (r.handlePeerSyncResponseBytes P requestId payload nowMs).2
  | .handleReceived received nowMs signatureValidated =>
      (r.handleReceived P received nowMs signatureValidated).2
  | .cleanPropagationStore nowMs => (r.cleanPropagationStore nowMs).2
  | .cleanupPropagation nowMs maxAgeMs =>
      (r.cleanupPropagation nowMs maxAgeMs).2
  | .cleanTransientIdCaches nowMs => (r.cleanTransientIdCaches P nowMs).2
  | .setPropagationValidation stampCost stampCostFlex =>
      r.setPropagationValidation stampCost stampCostFlex
  | .clearPropagationValidation => r.clearPropagationValidation
  | .tick nowMs deliver rng free => (r.tick P nowMs deliver rng free).2

/-- An event files what it brings, the first of each new id, drops some
and forgets what it removes from memory alone. -/
theorem handle_drops (P : Platform) (r : LxmfRouter σ) (e : RouterEvent) :
    ∃ s, Shelf.Runs P ShelfOp.Drops
        (r.shelf.receive P e.nowMs (eventEntries P r e)) s
      ∧ (r.handle P e).shelf
        = s.run P ((r.eventForgets e).map ShelfOp.forget) := by
  have heq {s s' : Shelf} (h : s' = s) :
      ∃ s'', Shelf.Runs P ShelfOp.Drops s s'' ∧ s' = s''.run P [] :=
    ⟨s, .refl s, h⟩
  have hdrops {s s' : Shelf} {ids : List Hash32}
      (h : s' = s.run P (ids.map ShelfOp.drop)) :
      ∃ s'', Shelf.Runs P ShelfOp.Drops s s'' ∧ s' = s''.run P [] := by
    refine ⟨s', ⟨ids.map ShelfOp.drop, ?_, h⟩, rfl⟩
    intro op hop
    obtain ⟨id, _, rfl⟩ := List.mem_map.mp hop
    trivial
  cases e with
  | processPropagated timestamp lxmData nowMs sourceHash count =>
      exact heq (processPropagated_shelf ..)
  | processPropagationResource remoteHash peeringKey messages limit nowMs =>
      exact heq (processPropagationResource_shelf ..)
  | applyPeerSyncPayload peerId response nowMs =>
      exact heq (applyPeerSyncPayload_shelf ..)
  | handlePeerSyncAck peerId req nowMs =>
      exact hdrops (handlePeerSyncAck_shelf ..)
  | handlePeerSyncRequest peerId req nowMs =>
      exact hdrops (handlePeerSyncRequest_shelf ..)
  | handlePeerSyncResponse requestId payload nowMs =>
      exact heq (handlePeerSyncResponseBytes_shelf ..)
  | handleReceived received nowMs sv =>
      exact hdrops (handleReceived_shelf ..)
  | cleanPropagationStore nowMs =>
      obtain ⟨ids, hids, _⟩ := cleanPropagationStore_shelf (P := P) r nowMs
      exact hdrops hids
  | cleanupPropagation nowMs maxAgeMs =>
      exact ⟨_, .refl _, cleanupPropagation_shelf r nowMs maxAgeMs⟩
  | cleanTransientIdCaches nowMs =>
      have hexpire : ShelfOp.Drops (.expire nowMs) := trivial
      exact ⟨_, .one r.shelf hexpire, cleanTransientIdCaches_shelf r nowMs⟩
  | setPropagationValidation stampCost stampCostFlex => exact heq rfl
  | clearPropagationValidation => exact heq rfl
  | tick nowMs deliver rng free =>
      exact ⟨_, tick_sheds r nowMs deliver rng free, rfl⟩

/-- An event files what it brings, the first of each new id, and takes
away. -/
theorem handle_shelf (P : Platform) (r : LxmfRouter σ) (e : RouterEvent) :
    Shelf.Runs P ShelfOp.Removes
      (r.shelf.receive P e.nowMs (eventEntries P r e))
      (r.handle P e).shelf := by
  obtain ⟨s, hdrops, hforgets⟩ := handle_drops P r e
  refine (hdrops.mono fun op => ShelfOp.Drops.removes).trans ⟨_, ?_, hforgets⟩
  intro op hop
  obtain ⟨id, _, rfl⟩ := List.mem_map.mp hop
  trivial

end Events

end LxmfRouter

end Lxmf
