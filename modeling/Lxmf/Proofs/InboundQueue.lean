/-
A copy of a message that comes after another is not accepted, even when
the first was rejected.

# Two layers

`receive_packet` keeps a cache of its own and marks a message in it
before any stamp is looked at. The message identity does not cover the
stamp, so a later copy with a better stamp is dropped there, and
`process_inbound_queue` finds an empty queue.

# The queue

That the queue is empty needs that processing it does not refill it:
no handler touches the `RnsRouter` below (`handleReceived_router`).
-/
import Lxmf.Proofs.DeliveredCache
import Lxmf.Proofs.Inbound

namespace Lxmf

open LXMessage

-- ================================ the queue below is not refilled

section Queue

variable {σ : Type} {P : Platform}

namespace LxmfRouter

theorem learnTicket_runtime (r : LxmfRouter σ) (m : LXMessage)
    (nowMs : Nat) : (r.learnTicket P m nowMs).runtime = r.runtime := by
  unfold learnTicket
  split
  case h_1 =>
    split
    case isTrue => rfl
    case isFalse => rfl
  case h_2 => rfl

theorem markDelivered_runtime (r : LxmfRouter σ) (m : LXMessage)
    (nowMs : Nat) : (r.markDelivered P m nowMs).runtime = r.runtime := by
  unfold markDelivered
  split
  case h_1 => rfl
  case h_2 => rfl

theorem processInboundMessage_runtime (r : LxmfRouter σ) (m : LXMessage)
    (nowMs : Nat) (sv ne : Bool) :
    (r.processInboundMessage P m nowMs sv ne).2.runtime = r.runtime := by
  unfold processInboundMessage
  split
  case isTrue => rfl
  case isFalse =>
    split
    case isTrue => rfl
    case isFalse =>
      generalize hl : (if sv = true then r.learnTicket P m nowMs else r)
        = learned
      have hkeep : learned.runtime = r.runtime := by
        rw [← hl]
        split
        case isTrue => exact learnTicket_runtime r m nowMs
        case isFalse => rfl
      dsimp only
      split
      case isTrue => exact hkeep
      case isFalse => exact (markDelivered_runtime ..).trans hkeep

theorem processMessages_runtime (r : LxmfRouter σ)
    (remoteHash : Option Hash16) (nowMs : Nat) (messages : List Bytes) :
    (r.processMessages P remoteHash nowMs messages).2.runtime
      = r.runtime := by
  induction messages generalizing r with
  | nil => rfl
  | cons msg messages ih =>
      obtain ⟨_, _, _, _, h⟩ := processPropagated_eq (P := P) r (nowS nowMs)
        msg nowMs remoteHash remoteHash.isNone
      unfold processMessages
      dsimp only
      rw [ih, h]

theorem processPropagationResource_runtime (r : LxmfRouter σ)
    (remoteHash : Option Hash16) (peeringKey : Option Bytes)
    (messages : List Bytes) (limit : Option F64) (nowMs : Nat) :
    (r.processPropagationResource P remoteHash peeringKey messages limit
      nowMs).2.runtime = r.runtime := by
  unfold processPropagationResource
  split
  case isTrue => rfl
  case isFalse =>
    split
    case isTrue => rfl
    case isFalse =>
      split
      case isTrue => rfl
      case isFalse =>
        split
        case isTrue => rfl
        case isFalse =>
          split
          case h_1 => rfl
          case h_2 => exact processMessages_runtime ..

theorem handlePropagationResourcePayload_runtime (r : LxmfRouter σ)
    (remoteHash : Option Hash16) (peeringKey : Option Bytes)
    (limit : Option F64) (payload : Bytes) (nowMs : Nat) :
    (r.handlePropagationResourcePayload P remoteHash peeringKey limit
      payload nowMs).2.runtime = r.runtime := by
  unfold handlePropagationResourcePayload
  split
  case h_1 => rfl
  case h_2 => exact processPropagationResource_runtime ..

theorem controlPeer_runtime (r : LxmfRouter σ) (req : RnsRequest)
    (op : Hash16 → Bool × LxmfRouter σ)
    (hop : ∀ target, (op target).2.runtime = r.runtime) :
    (r.controlPeer req op).2.runtime = r.runtime := by
  unfold controlPeer
  split
  case h_1 => rfl
  case h_2 target _ =>
    have h := hop target
    split
    case h_1 heq =>
      rw [heq] at h
      exact h
    case h_2 heq =>
      rw [heq] at h
      exact h

theorem requestPeerSync_runtime (r : LxmfRouter σ) (peerId : Hash16)
    (nowMs : Nat) : (r.requestPeerSync peerId nowMs).2.runtime
      = r.runtime := by
  unfold requestPeerSync
  split
  case isTrue => rfl
  case isFalse => rfl

theorem unpeer_runtime (r : LxmfRouter σ) (peerId : Hash16) :
    (r.unpeer peerId).2.runtime = r.runtime := by
  obtain ⟨_, _, h⟩ := unpeer_eq r peerId
  rw [h]

theorem handleControlRequest_runtime (r : LxmfRouter σ) (peerId : Hash16)
    (req : RnsRequest) (nowMs : Nat) :
    (r.handleControlRequest P peerId req nowMs).2.runtime = r.runtime := by
  unfold handleControlRequest
  split
  case isTrue => rfl
  case isFalse =>
    split
    case isTrue => rfl
    case isFalse =>
      split
      case isTrue =>
        exact controlPeer_runtime r req _
          fun target => requestPeerSync_runtime r target nowMs
      case isFalse =>
        split
        case isTrue => exact controlPeer_runtime r req _ r.unpeer_runtime
        case isFalse => rfl

theorem queueControl_runtime (r : LxmfRouter σ) (peerId : Hash16)
    (req : RnsRequest) (nowMs : Nat) :
    (r.queueControl P peerId req nowMs).runtime = r.runtime := by
  have h := handleControlRequest_runtime (P := P) r peerId req nowMs
  unfold queueControl
  split
  case h_1 heq =>
    rw [heq] at h
    exact h
  case h_2 heq =>
    rw [heq] at h
    exact h

theorem receiveRequest_runtime (r : LxmfRouter σ) (req : RnsRequest)
    (sourceHash : Option Hash16) (nowMs : Nat) :
    (r.receiveRequest P req sourceHash nowMs).runtime = r.runtime := by
  unfold receiveRequest
  split
  case h_1 => rfl
  case h_2 peerId =>
    split
    case isTrue =>
      obtain ⟨_, _, _, _, h⟩ := handlePeerSyncRequest_eq (P := P) r peerId
        req nowMs
      split
      case h_1 heq =>
        rw [heq] at h
        cases h
        rfl
      case h_2 heq =>
        rw [heq] at h
        cases h
        rfl
    case isFalse =>
      split
      case isTrue => exact queueControl_runtime ..
      case isFalse => rfl

theorem receiveControl_runtime (r : LxmfRouter σ) (req : RnsRequest)
    (sourceHash : Option Hash16) (nowMs : Nat) :
    (r.receiveControl P req sourceHash nowMs).runtime = r.runtime := by
  unfold receiveControl
  split
  case isTrue =>
    split
    case h_1 => exact queueControl_runtime ..
    case h_2 => rfl
  case isFalse => rfl

/-- A payload may register a request, which is not the queue below. -/
theorem receivePayload_router (r : LxmfRouter σ) (peerId : Hash16)
    (response : PeerSyncResponse) (nowMs : Nat) :
    (r.receivePayload P peerId response nowMs).2.runtime.router
      = r.runtime.router := by
  obtain ⟨_, _, _, _, h⟩ := applyPeerSyncPayload_eq (P := P) r peerId
    response nowMs
  unfold receivePayload
  split
  case h_1 heq =>
    rw [heq] at h
    cases h
    rfl
  case h_2 ackReq r' heq =>
    rw [heq] at h
    have hb := buildPeerSyncRequest_router (P := P) r' peerId ackReq nowMs
    cases h
    split
    case h_1 heq' =>
      rw [heq'] at hb
      exact hb
    case h_2 heq' =>
      rw [heq'] at hb
      exact hb

theorem handlePeerSyncResponseBytesWithPeer_router (r : LxmfRouter σ)
    (requestId : Hash16) (payload : Bytes) (nowMs : Nat) :
    (r.handlePeerSyncResponseBytesWithPeer P requestId payload
      nowMs).2.runtime.router = r.runtime.router := by
  unfold handlePeerSyncResponseBytesWithPeer
  split
  case h_1 => rfl
  case h_2 =>
    dsimp only
    split
    case h_1 => rfl
    case h_2 =>
      split
      case h_1 => rfl
      case h_2 => exact receivePayload_router ..
      case h_3 => exact receivePayload_router ..
      case h_4 => rfl

theorem receiveResponse_router (r : LxmfRouter σ) (response : RnsResponse)
    (nowMs : Nat) : (r.receiveResponse P response nowMs).runtime.router
      = r.runtime.router := by
  unfold receiveResponse
  split
  case h_1 => rfl
  case h_2 payload _ =>
    have h := handlePeerSyncResponseBytesWithPeer_router (P := P) r
      response.requestId payload nowMs
    split
    case h_1 heq =>
      rw [heq] at h
      exact h
    case h_2 heq =>
      rw [heq] at h
      exact h

/-- No item of the inbound queue touches the queues below. -/
theorem handleReceived_router (r : LxmfRouter σ) (received : Received)
    (nowMs : Nat) (sv : Bool) :
    (r.handleReceived P received nowMs sv).2.runtime.router
      = r.runtime.router := by
  cases received with
  | message m =>
      exact congrArg LxmfRuntime.router
        (processInboundMessage_runtime r m nowMs sv false)
  | propagated timestamp lxmData id sourceHash count =>
      obtain ⟨_, _, _, _, h⟩ := processPropagated_eq (P := P) r timestamp
        lxmData nowMs sourceHash count
      exact congrArg (·.runtime.router) h
  | propagationResource payload sourceHash =>
      exact congrArg LxmfRuntime.router
        (handlePropagationResourcePayload_runtime r sourceHash none none
          payload nowMs)
  | request req sourceHash =>
      exact congrArg LxmfRuntime.router
        (receiveRequest_runtime r req sourceHash nowMs)
  | controlRequest req sourceHash =>
      exact congrArg LxmfRuntime.router
        (receiveControl_runtime r req sourceHash nowMs)
  | response resp sourceHash => exact receiveResponse_router r resp nowMs

/-- The loop empties the inbound queue and leaves the cache alone. -/
theorem processReceived_router (nowMs : Nat) (sv : Bool)
    (queue : List Received) (r : LxmfRouter σ)
    (hqueue : r.runtime.router.inbound = queue) :
    (processReceived P nowMs sv queue r).2.runtime.router
      = { r.runtime.router with inbound := [] } := by
  induction queue generalizing r with
  | nil =>
      unfold processReceived
      rw [← hqueue]
  | cons received queue ih =>
      have hpop : (r.runtime.router.popInbound).2
          = { r.runtime.router with inbound := queue } := by
        unfold RnsRouter.popInbound
        rw [hqueue]
      have hstep : ((r.mapRouter fun router => router.popInbound.2
          ).handleReceived P received nowMs sv).2.runtime.router
          = { r.runtime.router with inbound := queue } := by
        rw [handleReceived_router, mapRouter_router, hpop]
      unfold processReceived
      dsimp only
      rw [ih _ (by rw [hstep]), hstep]

theorem processInboundQueue_router (r : LxmfRouter σ) (nowMs : Nat)
    (sv : Bool) :
    (r.processInboundQueue P nowMs sv).2.runtime.router
      = { r.runtime.router with inbound := [] } :=
  processReceived_router nowMs sv _ r rfl

end LxmfRouter

end Queue

-- ======================================= the cache below the router

section Suppression

variable {σ : Type} {P : Platform}

/-- What `mark_delivered` keeps true of a cache that can hold an id. -/
structure DeliveredCache.Sound (c : DeliveredCache) : Prop where
  positive : 0 < c.maxEntries
  nodup : c.order.Nodup
  seen : ∀ id ∈ c.order, id ∈ c.seen

namespace DeliveredCache

theorem sound_new {maxEntries : Nat} (h : 0 < maxEntries) :
    (new maxEntries).Sound where
  positive := h
  nodup := List.nodup_nil
  seen _ hid := absurd hid List.not_mem_nil

/-- The id just accepted is not evicted. -/
theorem Sound.markDelivered {c : DeliveredCache} (h : c.Sound)
    (id : Hash32) :
    (c.markDelivered id).2.Sound ∧ id ∈ (c.markDelivered id).2.seen := by
  by_cases hid : id ∈ c.seen
  · rw [markDelivered_seen hid]
    exact ⟨h, hid⟩
  have hnew : id ∉ c.order := fun hmem => hid (h.seen id hmem)
  have hnodup : (c.order ++ [id]).Nodup :=
    List.nodup_append_comm.mp (List.nodup_cons.mpr ⟨hnew, h.nodup⟩)
  have hsub : ∀ t ∈ c.order ++ [id], t ∈ insert id c.seen := by
    intro t ht
    rcases List.mem_append.mp ht with ht | ht
    · exact Finset.mem_insert_of_mem (h.seen t ht)
    · rw [List.mem_singleton.mp ht]
      exact Finset.mem_insert_self id c.seen
  have hlast : id ∈ (evict c.maxEntries (c.order ++ [id])
      (insert id c.seen)).1 := by
    rw [evict_eq]
    obtain ⟨n, hn⟩ := Nat.exists_eq_succ_of_ne_zero h.positive.ne'
    rw [hn, List.rtake_concat_succ]
    exact List.mem_append_right _ List.mem_cons_self
  unfold DeliveredCache.markDelivered
  rw [if_neg hid]
  refine ⟨⟨h.positive, ?_, fun t => mem_evict hnodup hsub⟩,
    mem_evict hnodup hsub hlast⟩
  rw [evict_eq]
  exact hnodup.sublist (List.drop_sublist _ _)

end DeliveredCache

variable [MessageStore σ]

namespace RnsRouter

/-- A received message is in the cache, whether it was queued or not. -/
theorem receivePacket_marks {r : RnsRouter σ} {packet : Packet}
    {mode : DeliveryMode} {m : LXMessage} {id : Hash32}
    (hsound : r.deliveredCache.Sound)
    (hd : decodePacket P packet mode = .ok (.message m))
    (hid : m.messageId = some id) :
    id ∈ (r.receivePacket P packet mode).2.deliveredCache.seen := by
  have hd' : decodePacketWithSource P packet mode none
      = .ok (.message m) := hd
  unfold receivePacket receivePacketWithSource
  rw [hd']
  unfold receiveDecoded
  dsimp only
  rw [hid]
  dsimp only
  split
  case isTrue hseen => exact of_decide_eq_true hseen
  case isFalse => exact (hsound.markDelivered id).2

/-- A message in the cache is dropped. -/
theorem receivePacket_drops {r : RnsRouter σ} {packet : Packet}
    {mode : DeliveryMode} {m : LXMessage} {id : Hash32}
    (hd : decodePacket P packet mode = .ok (.message m))
    (hid : m.messageId = some id) (hseen : id ∈ r.deliveredCache.seen) :
    (r.receivePacket P packet mode).2 = r := by
  have hd' : decodePacketWithSource P packet mode none
      = .ok (.message m) := hd
  unfold receivePacket receivePacketWithSource
  rw [hd']
  unfold receiveDecoded
  dsimp only
  rw [hid]
  dsimp only
  exact if_pos (decide_eq_true hseen)

end RnsRouter

/-- A packet is received and the inbound queue processed. -/
def LxmfRouter.receiveAndProcess (P : Platform) (r : LxmfRouter σ)
    (packet : Packet) (mode : DeliveryMode) (nowMs : Nat)
    (signatureValidated : Bool) : List LXMessage × LxmfRouter σ :=
  (r.mapRouter fun router =>
    (router.receivePacket P packet mode).2).processInboundQueue P nowMs
      signatureValidated

/-- After any packet of a message, whatever became of it, a second
packet of the same message yields nothing: not even when the first was
rejected for its stamp and the second has a valid one. -/
theorem second_copy_not_accepted (r : LxmfRouter σ)
    (hsound : r.runtime.router.deliveredCache.Sound) (p₁ p₂ : Packet)
    (mode₁ mode₂ : DeliveryMode) (m₁ m₂ : LXMessage) (id : Hash32)
    (hd₁ : decodePacket P p₁ mode₁ = .ok (.message m₁))
    (hd₂ : decodePacket P p₂ mode₂ = .ok (.message m₂))
    (hid₁ : m₁.messageId = some id) (hid₂ : m₂.messageId = some id)
    (now₁ now₂ : Nat) (signatureValidated : Bool) :
    ((r.receiveAndProcess P p₁ mode₁ now₁
      signatureValidated).2.receiveAndProcess P p₂ mode₂ now₂
        signatureValidated).1 = [] := by
  generalize hr : (r.receiveAndProcess P p₁ mode₁ now₁
    signatureValidated).2 = r'
  have hrouter : r'.runtime.router
      = { (r.runtime.router.receivePacket P p₁ mode₁).2 with
          inbound := [] } := by
    rw [← hr]
    exact LxmfRouter.processInboundQueue_router ..
  have hseen : id ∈ r'.runtime.router.deliveredCache.seen := by
    rw [hrouter]
    exact RnsRouter.receivePacket_marks hsound hd₁ hid₁
  have hdrop := RnsRouter.receivePacket_drops hd₂ hid₂ hseen
  have hempty : r'.runtime.router.inbound = [] := by rw [hrouter]
  unfold LxmfRouter.receiveAndProcess LxmfRouter.processInboundQueue
  rw [LxmfRouter.mapRouter_router, hdrop, hempty]
  rfl

end Suppression

section SuppressionInstance

open Reference

/-- A direct packet of a frame. -/
def directPacket (frame : Bytes) (h : frame.length ≤ packetMdu) :
    Packet where
  destinationType := .single
  packetType := .data
  destination := docMessage.destinationHash
  context := .none
  data := ⟨frame, h⟩

/-- The example with the stamp of a ticket of sixteen zero bytes. -/
def stampedFrame : Bytes :=
  frame docMessage.destinationHash docMessage.sourceHash docSignature
    [0x95, 0xcb, 0x41, 0xd9, 0x54, 0xfc, 0x40, 0x00, 0x00, 0x00, 0xc4, 0x02,
     0x68, 0x69, 0xc4, 0x05, 0x68, 0x65, 0x6c, 0x6c, 0x6f, 0x80, 0xc4, 0x10,
     0x55, 0x76, 0x5b, 0xd6, 0x43, 0xf7, 0x31, 0x69, 0x27, 0xab, 0x49, 0x5e,
     0xaa, 0x29, 0x75, 0x01]

def unstampedPacket : Packet :=
  directPacket docFrame (by decide +kernel)

def stampedPacket : Packet :=
  directPacket stampedFrame (by decide +kernel)

/-- A router that asks for stamps and has issued the ticket. -/
noncomputable def stampingNode : LxmfRouter InMemoryStore :=
  ((docNode.setInboundStampCost docMessage.destinationHash
    (some 8)).generateTicket platform docMessage.sourceHash 0
      (fun _ => 0)).2

theorem stampingNode_sound :
    stampingNode.runtime.router.deliveredCache.Sound :=
  DeliveredCache.sound_new (by decide)

/-- The message of the first packet, as it is decoded. -/
noncomputable def unstampedMessage : LXMessage :=
  { docMessage with
    signature := some docSignature
    messageId := some (fullHash platform
      (docMessage.destinationHash.toList ++ docMessage.sourceHash.toList
        ++ docPayload)) }

/-- The message of the second packet: the same but for its stamp. -/
noncomputable def stampedMessage : LXMessage :=
  { unstampedMessage with
    stamp := some [0x55, 0x76, 0x5b, 0xd6, 0x43, 0xf7, 0x31, 0x69, 0x27,
      0xab, 0x49, 0x5e, 0xaa, 0x29, 0x75, 0x01] }

theorem decode_unstampedPacket :
    decodePacket platform unstampedPacket .direct
      = .ok (.message unstampedMessage) := by
  decide +kernel

theorem decode_stampedPacket :
    decodePacket platform stampedPacket .direct
      = .ok (.message stampedMessage) := by
  decide +kernel

/-- The unstamped packet, then the stamped one. -/
theorem second_copy_not_accepted_doc :
    ((stampingNode.receiveAndProcess platform unstampedPacket .direct 0
      false).2.receiveAndProcess platform stampedPacket .direct 0
        false).1 = [] :=
  second_copy_not_accepted stampingNode stampingNode_sound unstampedPacket
    stampedPacket .direct .direct unstampedMessage stampedMessage _
    decode_unstampedPacket decode_stampedPacket rfl rfl 0 0 false

/-- With a stamp cost enforced, the packet without a stamp is rejected,
and the packet with a valid one is then not accepted either, though a
router that did not see the first accepts it. -/
theorem rejected_copy_suppresses_valid :
    stampingNode.enforceStamps = true
    ∧ stampingNode.inboundStampCosts.lookup docMessage.destinationHash
        = some 8
    ∧ (stampingNode.receiveAndProcess platform unstampedPacket .direct 0
        false).1 = []
    ∧ ((stampingNode.receiveAndProcess platform unstampedPacket .direct 0
        false).2.receiveAndProcess platform stampedPacket .direct 0
          false).1 = []
    ∧ (stampingNode.receiveAndProcess platform stampedPacket .direct 0
        false).1.map (·.stampValid) = [true] := by
  decide +kernel

end SuppressionInstance

end Lxmf
