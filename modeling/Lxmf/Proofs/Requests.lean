/-
The books of the peer-sync requests.

A request is in two maps: the pending requests of the runtime, which
watch its time, and `peer_sync_pending`, which takes the answer. An
operation changes the two by the steps of `Outstanding`: a request is
made, one is answered, and a poll lets some time out. `settle` follows
beside a run which ids were answered or timed out and not made again;
the answer to such a request changes nothing.
-/
import Lxmf.Library.Outstanding
import Lxmf.Proofs.Frames

namespace Lxmf

open Relation

namespace LxmfRouter

-- ============================================================ the books

section Books

variable {σ : Type} {P : Platform} {r r' : LxmfRouter σ}
  {s : Finset Hash16}

/-- The books of a router, with the ids that are settled. -/
def outstanding (r : LxmfRouter σ) (s : Finset Hash16) :
    Outstanding Hash16 where
  registered := { id | id ∈ r.runtime.requests.pending }
  awaited := { id | id ∈ r.peerSyncPending }
  settled := s

/-- The ids of the requests a handler made. -/
def made : Except RnsError (Option RnsRequest) → Finset Hash16
  | .ok (some req) => {req.requestId}
  | _ => ∅

theorem outstanding_congr (h : r'.books = r.books) :
    r'.outstanding s = r.outstanding s := by
  have hpending := congrArg RequestBooks.pending h
  have hawaited := congrArg RequestBooks.peerSyncPending h
  unfold outstanding
  show Outstanding.mk { id | id ∈ r'.books.pending }
    { id | id ∈ r'.books.peerSyncPending } (s : Set Hash16) = _
  rw [hpending, hawaited]
  rfl

/-- A request that is made is in both maps. -/
theorem register_step {id : Hash16} {pending : PendingRequest}
    {awaited : PeerSyncPending}
    (hpending : r'.runtime.requests.pending
      = r.runtime.requests.pending.insert id pending)
    (hawaited : r'.peerSyncPending = r.peerSyncPending.insert id awaited) :
    Outstanding.Step (r.outstanding s) (r'.outstanding (s \ {id})) := by
  have heq : r'.outstanding (s \ {id})
      = { registered := insert id (r.outstanding s).registered
          awaited := insert id (r.outstanding s).awaited
          settled := (r.outstanding s).settled \ {id} } := by
    unfold outstanding
    rw [hpending, hawaited]
    ext k
    · simp [AList.mem_insert]
    · simp [AList.mem_insert]
    · simp
  rw [heq]
  exact .register (r.outstanding s) id

/-- A request that is answered is no longer awaited. -/
theorem answer_step {id : Hash16}
    (hpending : r'.runtime.requests.pending = r.runtime.requests.pending)
    (hawaited : r'.peerSyncPending = r.peerSyncPending.erase id) :
    Outstanding.Step (r.outstanding s) (r'.outstanding (insert id s)) := by
  have heq : r'.outstanding (insert id s)
      = { r.outstanding s with
          awaited := (r.outstanding s).awaited \ {id}
          settled := insert id (r.outstanding s).settled } := by
    unfold outstanding
    rw [hpending, hawaited]
    ext k
    · rfl
    · simp [AList.mem_erase, and_comm]
    · simp
  rw [heq]
  exact .answer (r.outstanding s) id

/-- Requests that time out leave both maps. -/
theorem expire_step {ids : List Hash16}
    (hpending : ∀ k, k ∈ r'.runtime.requests.pending
      ↔ k ∈ r.runtime.requests.pending ∧ k ∉ ids)
    (hawaited : ∀ k, k ∈ r'.peerSyncPending
      ↔ k ∈ r.peerSyncPending ∧ k ∉ ids) :
    Outstanding.Step (r.outstanding s)
      (r'.outstanding (s ∪ ids.toFinset)) := by
  have heq : r'.outstanding (s ∪ ids.toFinset)
      = { registered := (r.outstanding s).registered \ { k | k ∈ ids }
          awaited := (r.outstanding s).awaited \ { k | k ∈ ids }
          settled := (r.outstanding s).settled ∪ { k | k ∈ ids } } := by
    unfold outstanding
    ext k
    · exact hpending k
    · exact hawaited k
    · simp
  rw [heq]
  exact .expire (r.outstanding s) { k | k ∈ ids }

-- ------------------------------------------------------ making a request

theorem registerRequest_pending {mgr mgr' : RnsRequestManager}
    {dest : Hash16} {path : Option String} {data : Value}
    {nowMs timeoutMs : Nat} {req : RnsRequest}
    (h : mgr.registerRequest P dest path data nowMs timeoutMs
      = .ok (req, mgr')) :
    ∃ pending, mgr'.pending = mgr.pending.insert req.requestId pending := by
  obtain ⟨payload, _, h⟩ := Except.bind_eq_ok.mp h
  cases h
  exact ⟨_, rfl⟩

theorem buildPeerSyncRequest_books (r : LxmfRouter σ) (peerId : Hash16)
    (req : PeerSyncRequest) (nowMs : Nat) (s : Finset Hash16) :
    ReflTransGen Outstanding.Step (r.outstanding s)
      ((r.buildPeerSyncRequest P peerId req nowMs).2.outstanding
        (s \ made ((r.buildPeerSyncRequest P peerId req nowMs).1.map
          some))) := by
  have hnone : s \ (∅ : Finset Hash16) = s := Finset.sdiff_empty
  unfold buildPeerSyncRequest
  split
  case h_1 =>
    show ReflTransGen _ _ (r.outstanding (s \ ∅))
    rw [hnone]
  case h_2 bytes _ =>
    split
    case h_1 =>
      show ReflTransGen _ _ (r.outstanding (s \ ∅))
      rw [hnone]
    case h_2 request requests hregister =>
      obtain ⟨pending, hpending⟩ := registerRequest_pending hregister
      exact .single (register_step hpending rfl)

-- ---------------------------------------------------- taking an answer

/-- What a payload that is received asks next. -/
theorem receivePayload_books (r : LxmfRouter σ) (peerId : Hash16)
    (response : PeerSyncResponse) (nowMs : Nat) (s : Finset Hash16) :
    ReflTransGen Outstanding.Step (r.outstanding s)
      ((r.receivePayload P peerId response nowMs).2.outstanding
        (s \ made ((r.receivePayload P peerId response nowMs).1.map
          fun next => next.map (·.2)))) := by
  have hnone : s \ (∅ : Finset Hash16) = s := Finset.sdiff_empty
  have hkeeps := applyPeerSyncPayload_keeps (P := P) r peerId response nowMs
  unfold receivePayload
  split
  case h_1 r' heq =>
    rw [heq] at hkeeps
    show ReflTransGen _ _ (r'.outstanding (s \ ∅))
    rw [hnone, outstanding_congr hkeeps.books]
  case h_2 ackReq r' heq =>
    rw [heq] at hkeeps
    have hbuild := buildPeerSyncRequest_books (P := P) r' peerId ackReq
      nowMs s
    rw [outstanding_congr hkeeps.books] at hbuild
    split
    case h_1 heq' =>
      rw [heq'] at hbuild
      exact hbuild
    case h_2 heq' =>
      rw [heq'] at hbuild
      exact hbuild

/-- The map without a key it does not have. -/
theorem erase_of_lookup_none {V : Type} {m : HashMap Hash16 V}
    {id : Hash16} (h : m.lookup id = none) : m.erase id = m :=
  AList.ext (List.kerase_of_notMem_keys (AList.lookup_eq_none.mp h))

theorem handlePeerSyncResponseBytesWithPeer_books (r : LxmfRouter σ)
    (id : Hash16) (payload : Bytes) (nowMs : Nat) (s : Finset Hash16) :
    ReflTransGen Outstanding.Step (r.outstanding s)
      ((r.handlePeerSyncResponseBytesWithPeer P id payload
          nowMs).2.outstanding
        (insert id s \ made ((r.handlePeerSyncResponseBytesWithPeer P id
          payload nowMs).1.map fun next => next.map (·.2)))) := by
  have hnone : insert id s \ (∅ : Finset Hash16) = insert id s :=
    Finset.sdiff_empty
  unfold handlePeerSyncResponseBytesWithPeer
  split
  case h_1 hlookup =>
    show ReflTransGen _ _ (r.outstanding (insert id s \ ∅))
    rw [hnone]
    exact .single (answer_step rfl (erase_of_lookup_none hlookup).symm)
  case h_2 pending _ =>
    have hanswered : Outstanding.Step (r.outstanding s)
        ((r.withoutPending id).outstanding (insert id s)) :=
      answer_step rfl rfl
    have hpayload (response : PeerSyncResponse) :=
      ReflTransGen.head hanswered (receivePayload_books (P := P)
        (r.withoutPending id) pending.peerId response nowMs (insert id s))
    dsimp only
    split
    case h_1 =>
      show ReflTransGen _ _
        ((r.withoutPending id).outstanding (insert id s \ ∅))
      rw [hnone]
      exact .single hanswered
    case h_2 response _ =>
      split
      case h_1 =>
        show ReflTransGen _ _
          ((r.withoutPending id).outstanding (insert id s \ ∅))
        rw [hnone]
        exact .single hanswered
      case h_2 => exact hpayload response
      case h_3 => exact hpayload response
      case h_4 =>
        show ReflTransGen _ _
          ((r.withoutPending id).outstanding (insert id s \ ∅))
        rw [hnone]
        exact .single hanswered

theorem handlePeerSyncResponseBytes_books (r : LxmfRouter σ)
    (id : Hash16) (payload : Bytes) (nowMs : Nat) (s : Finset Hash16) :
    ReflTransGen Outstanding.Step (r.outstanding s)
      ((r.handlePeerSyncResponseBytes P id payload nowMs).2.outstanding
        (insert id s \ made (r.handlePeerSyncResponseBytes P id payload
          nowMs).1)) := by
  unfold handlePeerSyncResponseBytes
  cases r.peerSyncPending.lookup id with
  | none => exact handlePeerSyncResponseBytesWithPeer_books r ..
  | some pending =>
      exact handlePeerSyncResponseBytesWithPeer_books { r with
        peers := r.peers.upsert pending.peerId nowMs (·.markHeard nowMs) } ..

/-- An answer nobody waits for changes nothing. -/
theorem handlePeerSyncResponseBytes_unawaited {id : Hash16}
    (h : id ∉ r.peerSyncPending) (payload : Bytes) (nowMs : Nat) :
    r.handlePeerSyncResponseBytes P id payload nowMs = (.ok none, r) := by
  have hlookup := AList.lookup_eq_none.mpr h
  unfold handlePeerSyncResponseBytes handlePeerSyncResponseBytesWithPeer
  rw [hlookup]
  dsimp only
  rw [hlookup]
  rfl

-- ------------------------------------------------------ the inbound queue

/-- The ids that are settled once an item of the queue is handled. -/
def settleReceived (P : Platform) (r : LxmfRouter σ) (received : Received)
    (nowMs : Nat) (s : Finset Hash16) : Finset Hash16 :=
  match received with
  | .response response _ =>
      match valueToBytes response.data with
      | some payload =>
          insert response.requestId s
            \ made ((r.handlePeerSyncResponseBytesWithPeer P
              response.requestId payload nowMs).1.map
                fun next => next.map (·.2))
      | none => s
  | _ => s

/-- The same, over the whole queue. -/
def settleQueue (P : Platform) (nowMs : Nat) (signatureValidated : Bool) :
    List Received → LxmfRouter σ → Finset Hash16 → Finset Hash16
  | [], _, s => s
  | received :: queue, r, s =>
      let r := r.mapRouter fun router => router.popInbound.2
      settleQueue P nowMs signatureValidated queue
        (r.handleReceived P received nowMs signatureValidated).2
        (r.settleReceived P received nowMs s)

theorem receiveResponse_books (r : LxmfRouter σ) (response : RnsResponse)
    (sourceHash : Option Hash16) (nowMs : Nat) (s : Finset Hash16) :
    ReflTransGen Outstanding.Step (r.outstanding s)
      ((r.receiveResponse P response nowMs).outstanding
        (r.settleReceived P (.response response sourceHash) nowMs s)) := by
  unfold receiveResponse settleReceived
  dsimp only
  cases valueToBytes response.data with
  | none => exact .refl
  | some payload =>
      have h := handlePeerSyncResponseBytesWithPeer_books (P := P) r
        response.requestId payload nowMs s
      dsimp only
      split
      case h_1 heq =>
        rw [heq] at h ⊢
        exact h
      case h_2 heq =>
        rw [heq] at h ⊢
        exact h

theorem handleReceived_books (r : LxmfRouter σ) (received : Received)
    (nowMs : Nat) (signatureValidated : Bool) (s : Finset Hash16) :
    ReflTransGen Outstanding.Step (r.outstanding s)
      ((r.handleReceived P received nowMs signatureValidated).2.outstanding
        (r.settleReceived P received nowMs s)) := by
  have hkept {r' : LxmfRouter σ} (h : Keeps P (0 < nowMs) r r') :
      ReflTransGen Outstanding.Step (r.outstanding s)
        (r'.outstanding s) := by
    rw [outstanding_congr h.books]
  cases received with
  | message message =>
      exact hkept (processInboundMessage_keeps r message nowMs
        signatureValidated false)
  | propagated timestamp lxmData stamped sourceHash count =>
      exact hkept (processPropagated_keeps r timestamp lxmData nowMs
        sourceHash count)
  | propagationResource payload sourceHash =>
      exact hkept (handlePropagationResourcePayload_keeps r sourceHash none
        none payload nowMs)
  | request request sourceHash =>
      exact hkept (receiveRequest_keeps r request sourceHash nowMs)
  | controlRequest request sourceHash =>
      exact hkept (receiveControl_keeps r request sourceHash nowMs)
  | response response sourceHash =>
      exact receiveResponse_books r response sourceHash nowMs s

theorem processReceived_books (nowMs : Nat) (signatureValidated : Bool)
    (queue : List Received) (r : LxmfRouter σ) (s : Finset Hash16) :
    ReflTransGen Outstanding.Step (r.outstanding s)
      ((processReceived P nowMs signatureValidated queue r).2.outstanding
        (settleQueue P nowMs signatureValidated queue r s)) := by
  induction queue generalizing r s with
  | nil => exact .refl
  | cons received queue ih =>
      have hreceived := handleReceived_books (P := P)
        (r.mapRouter fun router => router.popInbound.2) received nowMs
        signatureValidated s
      exact ReflTransGen.trans hreceived (ih _ _)

end Books

-- ============================================================== the tick

end LxmfRouter

namespace LxmfRuntime

variable {σ : Type} [MessageStore σ]

/-- What the request poll of a runtime looks at. -/
def requestClock (rt : LxmfRuntime σ) :
    RuntimeConfig × Nat × RnsRequestManager :=
  (rt.config, rt.lastRequestMs, rt.requests)

theorem tickOutbound_requestClock (rt : LxmfRuntime σ) (nowMs : Nat)
    (deliver : Nat → Deliver) :
    (rt.tickOutbound nowMs deliver).2.requestClock = rt.requestClock := by
  unfold tickOutbound
  split
  case isTrue => rfl
  case isFalse => rfl

omit [MessageStore σ] in
theorem ite_requestClock {c : Prop} [Decidable c] {rt rt' : LxmfRuntime σ}
    (h : rt'.requestClock = rt.requestClock) :
    (if c then rt' else rt).requestClock = rt.requestClock := by
  split
  case isTrue => exact h
  case isFalse => rfl

/-- The poll that a clock asks for: it is due, or nothing happens. -/
def pollRequests (clock : RuntimeConfig × Nat × RnsRequestManager)
    (nowMs : Nat) : List Hash16 × RnsRequestManager :=
  if clock.1.requestIntervalMs ≤ nowMs - clock.2.1 then
    clock.2.2.pollTimeouts nowMs
  else ([], clock.2.2)

theorem tickTimeouts_requests (rt : LxmfRuntime σ) (nowMs : Nat) :
    ((rt.tickTimeouts nowMs).2.1, (rt.tickTimeouts nowMs).2.2.requests)
      = pollRequests rt.requestClock nowMs := by
  unfold tickTimeouts pollRequests requestClock
  by_cases hinflight :
      rt.config.inflightIntervalMs ≤ nowMs - rt.lastInflightMs
  · rw [if_pos hinflight]
    dsimp only
    split
    case isTrue => rfl
    case isFalse => rfl
  · rw [if_neg hinflight]
    dsimp only
    split
    case isTrue => rfl
    case isFalse => rfl

/-- The requests after a tick, and those that timed out. -/
theorem tick_requests (rt : LxmfRuntime σ) (nowMs : Nat)
    (deliver : Nat → Deliver) :
    ((rt.tick nowMs deliver).1.requestTimeouts,
        (rt.tick nowMs deliver).2.requests)
      = pollRequests rt.requestClock nowMs := by
  refine (tickTimeouts_requests _ nowMs).trans ?_
  refine congrArg (fun clock => pollRequests clock nowMs) ?_
  refine (ite_requestClock ?_).trans ((ite_requestClock ?_).trans ?_)
  · rfl
  · rfl
  · exact tickOutbound_requestClock { rt with
      processingCount := (rt.processingCount + 1) % 2 ^ 64 } nowMs deliver

end LxmfRuntime

/-- The poll takes out what timed out. -/
theorem LxmfRuntime.mem_pollRequests
    {clock : RuntimeConfig × Nat × RnsRequestManager} {nowMs : Nat}
    {k : Hash16} :
    k ∈ (pollRequests clock nowMs).2.pending
      ↔ k ∈ clock.2.2.pending ∧ k ∉ (pollRequests clock nowMs).1 := by
  unfold pollRequests
  split
  case isTrue => exact AList.mem_foldl_erase
  case isFalse => simp

/-- What a poll that is due leaves has time left. -/
theorem LxmfRuntime.pollRequests_fresh
    {clock : RuntimeConfig × Nat × RnsRequestManager} {nowMs : Nat}
    (hdue : clock.1.requestIntervalMs ≤ nowMs - clock.2.1) {k : Hash16}
    {pending : PendingRequest}
    (h : (pollRequests clock nowMs).2.pending.lookup k = some pending) :
    nowMs - pending.sentAtMs < pending.timeoutMs := by
  unfold pollRequests at h
  rw [if_pos hdue] at h
  obtain ⟨hlookup, hkept⟩ := AList.lookup_of_lookup_foldl_erase h
  by_contra hlate
  refine hkept (List.mem_map.mpr ⟨⟨k, pending⟩, ?_, rfl⟩)
  refine List.mem_filter.mpr ⟨AList.mem_lookup_iff.mp hlookup, ?_⟩
  exact decide_eq_true (Nat.le_of_not_lt hlate)

namespace LxmfRouter

section Ticks

variable {σ : Type} {P : Platform}

theorem handleRequestTimeouts_runtime (r : LxmfRouter σ)
    (timeouts : List Hash16) (nowMs : Nat) :
    (r.handleRequestTimeouts timeouts nowMs).runtime = r.runtime := by
  unfold handleRequestTimeouts
  induction timeouts generalizing r with
  | nil => rfl
  | cons id timeouts ih =>
      rw [List.foldl_cons, ih]
      split
      case h_1 => rfl
      case h_2 => rfl

theorem handleRequestTimeouts_peerSyncPending (r : LxmfRouter σ)
    (timeouts : List Hash16) (nowMs : Nat) :
    (r.handleRequestTimeouts timeouts nowMs).peerSyncPending
      = timeouts.foldl (fun m id => m.erase id) r.peerSyncPending := by
  unfold handleRequestTimeouts
  induction timeouts generalizing r with
  | nil => rfl
  | cons id timeouts ih =>
      rw [List.foldl_cons, List.foldl_cons, ih]
      split
      case h_1 hlookup => rw [erase_of_lookup_none hlookup]
      case h_2 => rfl

variable [MessageStore σ]

/-- The request poll of a tick is due. -/
def RequestPollDue (r : LxmfRouter σ) (nowMs : Nat) : Prop :=
  r.runtime.config.requestIntervalMs ≤ nowMs - r.runtime.lastRequestMs

theorem tickBegin_fst (r : LxmfRouter σ) (nowMs : Nat)
    (deliver : Nat → Deliver) (rng : OsRng) :
    (r.tickBegin P nowMs deliver rng).1
      = (r.runtime.tick nowMs deliver).1 := by
  unfold tickBegin
  dsimp only
  split
  case isTrue => rfl
  case isFalse => rfl

/-- What a tick reports as timed out. -/
theorem tick_requestTimeouts (r : LxmfRouter σ) (nowMs : Nat)
    (deliver : Nat → Deliver) (rng : OsRng) (free : Bool) :
    (r.tick P nowMs deliver rng free).1.requestTimeouts
      = (LxmfRuntime.pollRequests r.runtime.requestClock nowMs).1 := by
  rw [← LxmfRuntime.tick_requests r.runtime nowMs deliver]
  show (r.tickBegin P nowMs deliver rng).1.requestTimeouts = _
  rw [tickBegin_fst]

/-- The books after a tick: those of the runtime are polled, and what
timed out is no longer awaited. -/
theorem tick_books_eq (r : LxmfRouter σ) (nowMs : Nat)
    (deliver : Nat → Deliver) (rng : OsRng) (free : Bool) :
    (r.tick P nowMs deliver rng free).2.books
      = { pending :=
            (LxmfRuntime.pollRequests r.runtime.requestClock nowMs).2.pending
          peerSyncPending :=
            (LxmfRuntime.pollRequests r.runtime.requestClock nowMs).1.foldl
              (fun m id => m.erase id) r.peerSyncPending } := by
  have hpoll := LxmfRuntime.tick_requests r.runtime nowMs deliver
  have hbegin := (tickBegin_keeps (P := P) (c := True) r nowMs deliver
    rng).books
  have hfst := tickBegin_fst (P := P) r nowMs deliver rng
  rw [← hpoll]
  unfold tick tickEnd
  generalize r.tickBegin P nowMs deliver rng = begun at hbegin hfst ⊢
  rw [← hfst]
  have hspawned := (spawned_keeps (P := P) (c := True) begun.2.2 begun.1
    free).books.trans hbegin
  dsimp only
  generalize (if begun.2.2.spawns begun.1 free = true then
    { begun.2.2 with stampProcessingActive := true } else begun.2.2)
      = spawned at hspawned ⊢
  have hpending := congrArg RequestBooks.pending hspawned
  have hawaited := congrArg RequestBooks.peerSyncPending hspawned
  unfold books at hpending hawaited ⊢
  dsimp only at hpending hawaited ⊢
  rw [handleRequestTimeouts_runtime, handleRequestTimeouts_peerSyncPending,
    hpending, hawaited]

theorem tick_books (r : LxmfRouter σ) (nowMs : Nat)
    (deliver : Nat → Deliver) (rng : OsRng) (free : Bool)
    (s : Finset Hash16) :
    Outstanding.Step (r.outstanding s)
      ((r.tick P nowMs deliver rng free).2.outstanding
        (s ∪ (r.tick P nowMs deliver rng
          free).1.requestTimeouts.toFinset)) := by
  have hbooks := tick_books_eq (P := P) r nowMs deliver rng free
  have hpending := congrArg RequestBooks.pending hbooks
  have hawaited := congrArg RequestBooks.peerSyncPending hbooks
  rw [tick_requestTimeouts]
  refine expire_step ?_ ?_
  · intro k
    show k ∈ (r.tick P nowMs deliver rng free).2.books.pending ↔ _
    rw [hpending]
    exact LxmfRuntime.mem_pollRequests
  · intro k
    show k ∈ (r.tick P nowMs deliver rng free).2.books.peerSyncPending ↔ _
    rw [hawaited]
    exact AList.mem_foldl_erase

/-- After a tick whose request poll was due, every pending request has
time left. -/
theorem tick_pending_fresh {r : LxmfRouter σ} {nowMs : Nat}
    (hdue : r.RequestPollDue nowMs) (deliver : Nat → Deliver)
    (rng : OsRng) (free : Bool) {id : Hash16} {pending : PendingRequest}
    (h : (r.tick P nowMs deliver rng
      free).2.runtime.requests.pending.lookup id = some pending) :
    nowMs - pending.sentAtMs < pending.timeoutMs := by
  have hpending := congrArg RequestBooks.pending
    (tick_books_eq (P := P) r nowMs deliver rng free)
  have hlookup : (r.tick P nowMs deliver rng
      free).2.books.pending.lookup id = some pending := h
  rw [hpending] at hlookup
  exact LxmfRuntime.pollRequests_fresh hdue hlookup

end Ticks

end LxmfRouter

-- ============================================================ whole runs

/-- No borrow of the runtime touches its requests. -/
def Operation.OwnRequests {σ : Type} : Operation σ → Prop
  | .runtimeMut f => ∀ rt, (f rt).requests = rt.requests
  | _ => True

namespace LxmfRouter

section Runs

variable {σ : Type} [MessageStore σ] {P : Platform}

/-- The ids that are settled after an operation: answered or timed out,
and not made again. -/
def settle (P : Platform) (r : LxmfRouter σ) (s : Finset Hash16) :
    Operation σ → Finset Hash16
  | .peer (.buildPeerSyncRequest peerId req) nowMs =>
      s \ made ((r.buildPeerSyncRequest P peerId req nowMs).1.map some)
  | .peer (.handlePeerSyncResponseBytes id payload) nowMs =>
      insert id s
        \ made (r.handlePeerSyncResponseBytes P id payload nowMs).1
  | .peer (.handlePeerSyncResponse resp) nowMs =>
      match valueToBytes resp.data with
      | some payload =>
          insert resp.requestId s \ made (r.handlePeerSyncResponseBytes P
            resp.requestId payload nowMs).1
      | none => s
  | .processInboundQueue nowMs signatureValidated =>
      settleQueue P nowMs signatureValidated r.runtime.router.inbound r s
  | .tick nowMs deliver rng free =>
      s ∪ (r.tick P nowMs deliver rng free).1.requestTimeouts.toFinset
  | _ => s

/-- An operation, with what is settled beside it. -/
def track (P : Platform) (t : LxmfRouter σ × Finset Hash16)
    (op : Operation σ) : LxmfRouter σ × Finset Hash16 :=
  (t.1.perform P op, t.1.settle P t.2 op)

theorem performPeer_books (r : LxmfRouter σ) (op : PeerOperation)
    (nowMs : Nat) (s : Finset Hash16) :
    ReflTransGen Outstanding.Step (r.outstanding s)
      ((r.performPeer P nowMs op).outstanding
        (r.settle P s (.peer op nowMs))) := by
  have hkept {r' : LxmfRouter σ} (h : Keeps P (0 < nowMs) r r') :
      ReflTransGen Outstanding.Step (r.outstanding s)
        (r'.outstanding s) := by
    rw [outstanding_congr h.books]
  cases op with
  | buildPeerSyncRequest peerId req =>
      exact buildPeerSyncRequest_books r peerId req nowMs s
  | handlePeerSyncRequestBytes peerId payload =>
      exact hkept (handlePeerSyncRequestBytes_keeps r peerId payload nowMs)
  | handlePeerSyncRequest peerId req =>
      exact hkept (handlePeerSyncRequest_keeps r peerId req nowMs)
  | handlePeerSyncResponseBytes id payload =>
      exact handlePeerSyncResponseBytes_books r id payload nowMs s
  | handlePeerSyncResponse resp =>
      show ReflTransGen _ _
        ((r.handlePeerSyncResponse P resp nowMs).2.outstanding
          (r.settle P s (.peer (.handlePeerSyncResponse resp) nowMs)))
      unfold handlePeerSyncResponse settle
      dsimp only
      cases valueToBytes resp.data with
      | none => exact .refl
      | some payload =>
          exact handlePeerSyncResponseBytes_books r resp.requestId payload
            nowMs s
  | peerSyncOffer peerId peeringKey => exact .refl
  | handlePeerSyncOffer peerId req =>
      exact hkept (handlePeerSyncOffer_keeps r peerId req nowMs)
  | peerSyncMessageGet peerId response limit =>
      exact hkept (peerSyncMessageGet_keeps r peerId response limit nowMs)
  | handlePeerSyncMessageGet peerId req =>
      exact hkept (handlePeerSyncMessageGet_keeps r peerId req nowMs)
  | applyPeerSyncPayload peerId response =>
      exact hkept (applyPeerSyncPayload_keeps r peerId response nowMs)
  | handlePeerSyncAck peerId req =>
      exact hkept (handlePeerSyncAck_keeps r peerId req nowMs)
  | applyPeerSyncResponse peerId response => exact .refl
  | requestPeerSync peerId =>
      exact hkept (requestPeerSync_keeps r peerId nowMs)
  | unpeer peerId => exact hkept (unpeer_keeps r peerId)
  | rotatePeers => exact hkept (rotatePeers_keeps r)
  | syncPeers rng => exact hkept (syncPeers_keeps r nowMs rng)
  | enqueuePeerDistribution id fromPeer => exact .refl
  | flushPeerDistributionQueue => exact .refl
  | flushQueues => exact hkept (flushQueues_keeps r)
  | popPeerSyncRequest => exact .refl
  | popPeerSyncResponse => exact .refl
  | popPeerSyncOutbound => exact .refl
  | popControlResponse => exact .refl

/-- Every operation changes the books by their steps. -/
theorem perform_books (r : LxmfRouter σ) (s : Finset Hash16)
    {op : Operation σ} (hop : op.OwnRequests) :
    ReflTransGen Outstanding.Step (r.outstanding s)
      ((r.perform P op).outstanding (r.settle P s op)) := by
  have hkept {c : Prop} {r' : LxmfRouter σ} (h : Keeps P c r r') :
      ReflTransGen Outstanding.Step (r.outstanding s)
        (r'.outstanding s) := by
    rw [outstanding_congr h.books]
  cases op with
  | set setting => exact hkept (c := True) (set_keeps r setting)
  | runtimeMut f =>
      refine hkept (c := True) (.of_eq rfl ?_)
      show RequestBooks.mk (f r.runtime).requests.pending r.peerSyncPending
        = _
      rw [hop r.runtime]
      rfl
  | peersMut f => exact .refl
  | propagationStoreMut f => exact .refl
  | nodeStatsMut f => exact .refl
  | links f => exact .refl
  | table op nowMs => exact hkept (performTable_keeps r nowMs op)
  | peer op nowMs => exact performPeer_books r op nowMs s
  | download event => exact hkept (c := True) (download_keeps r event)
  | handleOutbound message mode nowMs rng free =>
      exact hkept (c := True)
        (handleOutbound_keeps r message mode nowMs rng free)
  | processDeferredStamps nowMs maxItems =>
      exact hkept (c := True) (processDeferred_keeps maxItems r)
  | processInboundMessage message nowMs validated noEnforcement =>
      exact hkept (processInboundMessage_keeps r message nowMs validated
        noEnforcement)
  | processPropagated timestamp lxmData nowMs sourceHash count =>
      exact hkept (processPropagated_keeps r timestamp lxmData nowMs
        sourceHash count)
  | processPropagationResource remoteHash key messages limit nowMs =>
      exact hkept (processPropagationResource_keeps r remoteHash key
        messages limit nowMs)
  | handlePropagationResourcePayload remoteHash key limit payload nowMs =>
      exact hkept (handlePropagationResourcePayload_keeps r remoteHash key
        limit payload nowMs)
  | processInboundQueue nowMs validated =>
      exact processReceived_books nowMs validated _ r s
  | cleanPropagationStore nowMs =>
      exact hkept (c := True) (cleanPropagationStore_keeps r nowMs)
  | cleanupPropagation nowMs maxAgeMs => exact .refl
  | savePeers =>
      exact hkept (c := True) (persist_keeps r (savePeers_leavesTables P _))
  | tick nowMs deliver rng free =>
      exact .single (tick_books r nowMs deliver rng free s)
  | stampThread thread free =>
      exact hkept (c := True) (stepThread_keeps r free thread)

theorem track_sound {t : LxmfRouter σ × Finset Hash16}
    (h : (t.1.outstanding t.2).Sound) {ops : List (Operation σ)}
    (hops : ∀ op ∈ ops, op.OwnRequests) :
    ((ops.foldl (track P) t).1.outstanding
      (ops.foldl (track P) t).2).Sound := by
  induction ops generalizing t with
  | nil => exact h
  | cons op ops ih =>
      refine ih (t := track P t op) ?_ fun other hother =>
        hops other (List.mem_cons_of_mem op hother)
      exact h.steps (perform_books t.1 t.2 (hops op List.mem_cons_self))

/-- What is settled has no part in what the router does. -/
theorem track_router (t : LxmfRouter σ × Finset Hash16)
    (ops : List (Operation σ)) :
    (ops.foldl (track P) t).1 = t.1.performAll P ops := by
  induction ops generalizing t with
  | nil => rfl
  | cons op ops ih => exact ih (track P t op)

/-- In every run that starts with no request awaited: what is awaited is
pending; after a tick with a poll, no pending request is older than its
timeout; and the answer to a settled request changes nothing. -/
theorem requests_consistent (r₀ : LxmfRouter σ)
    (hstart : r₀.peerSyncPending = ∅) (ops : List (Operation σ))
    (hops : ∀ op ∈ ops, op.OwnRequests) :
    ∃ r settled, (r, settled) = ops.foldl (track P) (r₀, ∅)
      ∧ r = r₀.performAll P ops
      ∧ (∀ id ∈ r.peerSyncPending, id ∈ r.runtime.requests.pending)
      ∧ (∀ nowMs deliver rng free, r.RequestPollDue nowMs →
        ∀ id pending, (r.tick P nowMs deliver rng
            free).2.runtime.requests.pending.lookup id = some pending →
          nowMs - pending.sentAtMs < pending.timeoutMs)
      ∧ ∀ id ∈ settled, ∀ payload nowMs,
        r.handlePeerSyncResponseBytes P id payload nowMs
          = (.ok none, r) := by
  have hsound : (r₀.outstanding ∅).Sound := by
    refine ⟨?_, ?_⟩
    · intro id hid
      have hmem : id ∈ r₀.peerSyncPending := hid
      rw [hstart] at hmem
      exact absurd hmem (AList.notMem_empty id)
    · intro id hid
      exact absurd hid (Finset.notMem_empty id)
  have hrun := track_sound (P := P) (t := (r₀, ∅)) hsound hops
  refine ⟨_, _, rfl, track_router _ ops, hrun.watched, ?_, ?_⟩
  · intro nowMs deliver rng free hdue id pending hpending
    exact tick_pending_fresh hdue deliver rng free hpending
  · intro id hid payload nowMs
    exact handlePeerSyncResponseBytes_unawaited (hrun.apart id hid) payload
      nowMs

end Runs

section RequestsInstance

open Reference

/-- A request without an answer, and a tick a day later. -/
def docUnanswered : List (Operation InMemoryStore) :=
  [.peer (.buildPeerSyncRequest (List.Vector.replicate 16 9)
     .messageGetList) 0,
   .tick (24 * 60 * 60 * 1000)
     (fun _ message _ => (.error (.msgpack "down"), message))
     (fun _ => 0) true]

/-- Its id is settled, and an answer to it is ignored. -/
theorem requests_consistent_doc :
    ∃ r settled, (r, settled)
        = docUnanswered.foldl (track platform) (docNode, ∅)
      ∧ settled.card = 1
      ∧ ∀ id ∈ settled, ∀ payload nowMs,
        r.handlePeerSyncResponseBytes platform id payload nowMs
          = (.ok none, r) := by
  obtain ⟨r, settled, hrun, _, _, _, hignored⟩ := requests_consistent
    (P := platform) docNode rfl docUnanswered (by
      intro op hop
      simp only [docUnanswered, List.mem_cons, List.not_mem_nil,
        or_false] at hop
      rcases hop with rfl | rfl
      · trivial
      · trivial)
  refine ⟨r, settled, hrun, ?_, hignored⟩
  have hsettled := congrArg Prod.snd hrun
  dsimp only at hsettled
  rw [hsettled]
  decide +kernel

end RequestsInstance

end LxmfRouter

end Lxmf
