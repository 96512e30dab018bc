/-
What every operation of a router leaves alone, and what it writes.

# Two frames in one

`Keeps` says of two routers that the one comes from the other without a
request being made or answered, and that the tables changed by steps
that write them through (`TableStep`). There is one lemma for each
function of the router; the few that make or answer a request have only
the second half of it (`Persists`).

# Conditions

A step is given times, costs and expiries by its caller. What has to
hold of them for a table to stay readable is carried along as `c`, so
that the frames themselves need no hypothesis.
-/
import Lxmf.Proofs.PeerTable
import Lxmf.Proofs.Tables
import Lxmf.Router.Operations

namespace Lxmf

/-- The requests a router waits for: those of the runtime, and those of
the peer-sync exchange. -/
structure RequestBooks where
  pending : HashMap Hash16 PendingRequest
  peerSyncPending : HashMap Hash16 PeerSyncPending

namespace LxmfRouter

open Relation

section Frames

variable {σ : Type} {P : Platform} {c : Prop} {r r' r'' : LxmfRouter σ}

/-- The requests that a router waits for. -/
def books (r : LxmfRouter σ) : RequestBooks where
  pending := r.runtime.requests.pending
  peerSyncPending := r.peerSyncPending

/-- What a router keeps in tables of its root, and the root. -/
def tables (r : LxmfRouter σ) : Tables where
  ticketStore := r.ticketStore
  outboundStampCosts := r.outboundStampCosts
  localDeliveries := r.localDeliveries
  locallyProcessed := r.locallyProcessed
  persistenceRoot := r.persistenceRoot

/-- The tables changed step by step. -/
structure Persists (P : Platform) (c : Prop) (r r' : LxmfRouter σ) :
    Prop where
  steps : ReflTransGen (TableStep P c) r.tables r'.tables

/-- The same, and no request was made or answered. -/
structure Keeps (P : Platform) (c : Prop) (r r' : LxmfRouter σ) : Prop
    extends Persists P c r r' where
  books : r'.books = r.books

theorem Persists.of_eq (h : r'.tables = r.tables) : Persists P c r r' := by
  refine ⟨?_⟩
  rw [h]

theorem Persists.trans (h : Persists P c r r')
    (h' : Persists P c r' r'') : Persists P c r r'' :=
  ⟨h.steps.trans h'.steps⟩

/-- Tables that are written through stay so. -/
theorem Persists.persisted (hP : RmpvCodec P) (hok : c)
    (h : Persists P c r r') (hr : r.tables.Persisted P) :
    r'.tables.Persisted P :=
  hr.steps hP hok h.steps

theorem Keeps.of_eq (h : r'.tables = r.tables) (hbooks : r'.books = r.books) :
    Keeps P c r r' :=
  ⟨.of_eq h, hbooks⟩

theorem Keeps.trans (h : Keeps P c r r') (h' : Keeps P c r' r'') :
    Keeps P c r r'' :=
  ⟨h.toPersists.trans h'.toPersists, h'.books.trans h.books⟩

/-- A condition that asks for more. -/
theorem Keeps.mono {c' : Prop} (h : Keeps P c r r') (hc : c' → c) :
    Keeps P c' r r' := by
  refine ⟨⟨ReflTransGen.mono ?_ _ _ h.steps⟩, h.books⟩
  intro t t' hstep
  cases hstep with
  | tickets ts hts => exact .tickets t ts fun hok => hts (hc hok)
  | costs costs hcosts => exact .costs t costs fun hok => hcosts (hc hok)
  | caches delivered processed hdelivered hprocessed =>
      exact .caches t delivered processed
        (fun hok => hdelivered (hc hok)) fun hok => hprocessed (hc hok)
  | file f hf => exact .file t f hf

/-- A job that runs now and then. -/
theorem Keeps.ite (ran : Bool) (h : Keeps P c r r') :
    Keeps P c r (if ran then r' else r) := by
  split
  case isTrue => exact h
  case isFalse => exact .of_eq rfl rfl

/-- What every step of a loop leaves alone the loop does. -/
theorem Keeps.foldl {α : Type} {f : LxmfRouter σ → α → LxmfRouter σ}
    (hf : ∀ r a, Keeps P c r (f r a)) (as : List α) (r : LxmfRouter σ) :
    Keeps P c r (as.foldl f r) := by
  induction as generalizing r with
  | nil => exact .of_eq rfl rfl
  | cons a as ih => exact (hf r a).trans (ih (f r a))

-- ======================================================= the four steps

/-- A new ticket store is written through at once, and stays readable if
the tickets in it are. -/
theorem persistTicketStore_keeps (r : LxmfRouter σ) {ts : TicketStore}
    (h : c → r.ticketStore.Readable → ts.Readable) :
    Keeps P c r (persistTicketStore P { r with ticketStore := ts }) :=
  ⟨⟨.single (.tickets r.tables ts h)⟩, rfl⟩

/-- So are the stamp costs. -/
theorem persistOutboundStampCosts_keeps (r : LxmfRouter σ)
    {costs : HashMap Hash16 (F64 × Nat)}
    (h : c → CostsReadable r.outboundStampCosts → CostsReadable costs) :
    Keeps P c r
      (persistOutboundStampCosts P { r with outboundStampCosts := costs }) :=
  ⟨⟨.single (.costs r.tables costs h)⟩, rfl⟩

/-- So are the two caches, which are written together. -/
theorem saveLocalCaches_keeps (r : LxmfRouter σ)
    {delivered processed : HashMap Hash32 F64}
    (hdelivered : c → CacheReadable r.localDeliveries →
      CacheReadable delivered)
    (hprocessed : c → CacheReadable r.locallyProcessed →
      CacheReadable processed) :
    Keeps P c r (saveLocalCaches P { r with
      localDeliveries := delivered
      locallyProcessed := processed }) :=
  ⟨⟨.single (.caches r.tables delivered processed hdelivered
    hprocessed)⟩, rfl⟩

/-- A change of other files is none of the tables'. -/
theorem persist_keeps (r : LxmfRouter σ) {f : Disk → Disk}
    (h : LeavesTables f) : Keeps P c r (r.persist f) :=
  ⟨⟨.single (.file r.tables f h)⟩, rfl⟩

end Frames

end LxmfRouter

-- ====================================================== the other files

/-- Messages and peers are filed below directories of their own. -/
theorem head_of_mem_tableFiles {path : String} (h : path ∈ tableFiles) :
    path.toList.head? ≠ some 'p' := by
  simp only [tableFiles, List.mem_cons, List.not_mem_nil, or_false] at h
  rcases h with rfl | rfl | rfl | rfl
  · decide
  · decide
  · decide
  · decide

theorem head_append_of_p {s : String} (h : s.toList.head? = some 'p')
    (t : String) : (s ++ t).toList.head? = some 'p' := by
  rw [String.toList_append, List.head?_append, h]
  rfl

/-- The files of messages and of peers are told from those of the tables by
their first letter. -/
theorem propagationPath_head (name : String) :
    (Disk.propagationPath name).toList.head? = some 'p' :=
  head_append_of_p (by decide) name

theorem peerPath_head (id : Hash16) :
    (Disk.peerPath id).toList.head? = some 'p' :=
  head_append_of_p (by decide) _

theorem ne_of_mem_tableFiles {path other : String}
    (h : path ∈ tableFiles) (hother : other.toList.head? = some 'p') :
    path ≠ other := by
  intro heq
  rw [← heq] at hother
  exact head_of_mem_tableFiles h hother

/-- Filing a message, removing one and filing peers leave the tables alone.
-/
theorem savePropagationEntry_leavesTables (P : Platform)
    (entry : PropagationEntry) :
    LeavesTables (Disk.savePropagationEntry P entry) := by
  intro disk path hpath
  exact AList.lookup_insert_ne
    (ne_of_mem_tableFiles hpath (propagationPath_head _))

theorem removePropagationEntryNamed_leavesTables (name : String) :
    LeavesTables (Disk.removePropagationEntryNamed name) := by
  intro disk path hpath
  exact AList.lookup_erase_ne
    (ne_of_mem_tableFiles hpath (propagationPath_head _))

theorem removePropagationEntry_leavesTables (id : Hash32) :
    LeavesTables (Disk.removePropagationEntry id) := by
  intro disk path hpath
  unfold Disk.removePropagationEntry
  dsimp only
  generalize hfiles : disk.keys.filter _ = files
  have hhead (file : String) (hfile : file ∈ files) :
      file.toList.head? = some 'p' := by
    rw [← hfiles, List.mem_filter, List.isPrefixOf_iff_prefix] at hfile
    obtain ⟨rest, hrest⟩ := hfile.2
    rw [← hrest, List.head?_append, propagationPath_head]
    rfl
  clear hfiles
  induction files generalizing disk with
  | nil => rfl
  | cons file files ih =>
      rw [List.foldl_cons, ih _ fun other hother =>
        hhead other (List.mem_cons_of_mem file hother)]
      exact AList.lookup_erase_ne
        (ne_of_mem_tableFiles hpath (hhead file List.mem_cons_self))

theorem removePeer_leavesTables (id : Hash16) :
    LeavesTables (Disk.removePeer id) := by
  intro disk path hpath
  exact AList.lookup_erase_ne
    (ne_of_mem_tableFiles hpath (peerPath_head id))

theorem savePeers_leavesTables (P : Platform) (peers : List Peer) :
    LeavesTables fun disk =>
      peers.foldl (fun d peer => d.savePeer P peer) disk := by
  intro disk path hpath
  induction peers generalizing disk with
  | nil => rfl
  | cons peer peers ih =>
      refine (ih (disk.savePeer P peer)).trans ?_
      exact Disk.lookup_saveValue_of_ne
        (ne_of_mem_tableFiles hpath (peerPath_head peer.id))

-- ============================================================ functions

/-- What the caller of a table's function has to be sure of: a cost is a
`u32`, an expiry is not before zero. -/
def TableOperation.Valid : TableOperation → Prop
  | .setOutboundStampCost _ stampCost => ∀ cost ∈ stampCost, cost ≤ u32Max
  | .rememberTicket _ expiresAtS _ => expiresAtS.NotNegative
  | _ => True

namespace LxmfRouter

section Functions

variable {σ : Type} {P : Platform} {c : Prop}

-- -------------------------------------------- propagated messages

/-- Noting a message writes both caches; the time it is noted at has to be
above zero. -/
theorem markLocallyProcessed_keeps (r : LxmfRouter σ) (id : Hash32)
    (nowMs : Nat) :
    Keeps P (0 < nowMs) r (r.markLocallyProcessed P id nowMs) :=
  saveLocalCaches_keeps r (fun _ h => h) fun hnow h =>
    h.insert id (nowS_pos hnow)

theorem markLocalDelivery_keeps (r : LxmfRouter σ) (id : Hash32)
    (nowMs : Nat) :
    Keeps P (0 < nowMs) r (r.markLocalDelivery P id nowMs) :=
  saveLocalCaches_keeps r (fun hnow h => h.insert id (nowS_pos hnow))
    fun _ h => h

/-- Filing an entry writes its file and notes its id. -/
theorem fileEntry_keeps (r : LxmfRouter σ) (entry : PropagationEntry)
    (nowMs : Nat) : Keeps P (0 < nowMs) r (r.fileEntry P entry nowMs) := by
  have hstored : Keeps P (0 < nowMs) r
      { r with propagationStore := r.propagationStore.insert P entry } :=
    .of_eq rfl rfl
  refine (hstored.trans (persist_keeps _
    (savePropagationEntry_leavesTables P entry))).trans ?_
  exact markLocallyProcessed_keeps _ entry.transientId nowMs

/-- A propagated message is filed, or nothing is written. -/
theorem processPropagated_keeps (r : LxmfRouter σ) (timestamp : F64)
    (lxmData : Bytes) (nowMs : Nat) (sourceHash : Option Hash16)
    (count : Bool) :
    Keeps P (0 < nowMs) r
      (r.processPropagated P timestamp lxmData nowMs sourceHash count).2 := by
  unfold processPropagated
  split
  case h_1 => exact .of_eq rfl rfl
  case h_2 entry _ =>
    split
    case isTrue => exact .of_eq rfl rfl
    case isFalse =>
      have hcounted : Keeps P (0 < nowMs) r
          { r with nodeStats := r.countPropagated entry sourceHash count } :=
        .of_eq rfl rfl
      exact hcounted.trans (fileEntry_keeps _ entry nowMs)

/-- Removing an entry deletes its file. -/
theorem removeEntry_keeps (r : LxmfRouter σ) (id : Hash32) :
    Keeps P c r (r.removeEntry id) := by
  have hexact (entry : PropagationEntry) :
      Keeps P c r (r.removePropagationEntryExact entry) := by
    unfold removePropagationEntryExact
    split
    case h_1 =>
      exact persist_keeps r (removePropagationEntryNamed_leavesTables _)
    case h_2 =>
      exact persist_keeps r (removePropagationEntry_leavesTables _)
  unfold removeEntry
  dsimp only
  split
  case h_1 entry _ => exact (hexact entry).trans (.of_eq rfl rfl)
  case h_2 => exact .of_eq rfl rfl

-- ----------------------------------------------- the peer-sync exchange

/-- An offer is answered from the store, and noted with its peer. -/
theorem handlePeerSyncOffer_keeps (r : LxmfRouter σ) (peerId : Hash16)
    (req : PeerSyncRequest) (nowMs : Nat) :
    Keeps P c r (r.handlePeerSyncOffer P peerId req nowMs).2 := by
  obtain ⟨peers, h⟩ := handlePeerSyncOffer_eq (P := P) r peerId req nowMs
  rw [h]
  exact .of_eq rfl rfl

theorem peerSyncMessageGet_keeps (r : LxmfRouter σ) (peerId : Hash16)
    (response : PeerSyncResponse) (limit : Option F64) (nowMs : Nat) :
    Keeps P c r (r.peerSyncMessageGet peerId response limit nowMs).2 := by
  obtain ⟨peers, h⟩ := peerSyncMessageGet_eq r peerId response limit nowMs
  rw [h]
  exact .of_eq rfl rfl

/-- A request for messages removes what the peer has, and counts what it
takes. -/
theorem handlePeerSyncMessageGet_keeps (r : LxmfRouter σ)
    (peerId : Hash16) (req : PeerSyncRequest) (nowMs : Nat) :
    Keeps P c r (r.handlePeerSyncMessageGet P peerId req nowMs).2 := by
  obtain ⟨peers, stats, h⟩ := handlePeerSyncMessageGet_eq (P := P) r peerId
    req nowMs
  rw [h]
  exact .of_eq rfl rfl

/-- An item of a payload is filed or refused, as a propagated message is.
-/
theorem applyItem_keeps (minCost : Option Nat) (nowMs : Nat)
    (acc : PayloadTally × LxmfRouter σ) (item : Bytes) :
    Keeps P (0 < nowMs) acc.2 (applyItem P minCost nowMs acc item).2 := by
  unfold applyItem
  dsimp only
  split
  case h_1 => exact .of_eq rfl rfl
  case h_2 =>
    split
    case h_1 entry _ =>
      unfold acceptItem
      dsimp only
      split
      case isTrue => exact .of_eq rfl rfl
      case isFalse => exact fileEntry_keeps acc.2 entry nowMs
    case h_2 => exact .of_eq rfl rfl

theorem applyItems_keeps (r : LxmfRouter σ) (response : PeerSyncResponse)
    (nowMs : Nat) :
    Keeps P (0 < nowMs) r (r.applyItems P response nowMs).2 := by
  unfold applyItems
  split
  case h_2 => exact .of_eq rfl rfl
  case h_1 items =>
    generalize ({} : PayloadTally) = tally
    generalize r.minStampCost = minCost
    induction items generalizing tally r with
    | nil => exact .of_eq rfl rfl
    | cons item items ih =>
        exact (applyItem_keeps minCost nowMs (tally, r) item).trans
          (ih (applyItem P minCost nowMs (tally, r) item).2
            (applyItem P minCost nowMs (tally, r) item).1)

/-- A payload is its items, and a peer that may be throttled. -/
theorem applyPeerSyncPayload_keeps (r : LxmfRouter σ) (peerId : Hash16)
    (response : PeerSyncResponse) (nowMs : Nat) :
    Keeps P (0 < nowMs) r
      (r.applyPeerSyncPayload P peerId response nowMs).2 :=
  (applyItems_keeps r response nowMs).trans (.of_eq rfl rfl)

/-- An acknowledgement removes or marks entries. -/
theorem handlePeerSyncAck_keeps (r : LxmfRouter σ) (peerId : Hash16)
    (req : PeerSyncRequest) (nowMs : Nat) :
    Keeps P c r (r.handlePeerSyncAck peerId req nowMs).2 := by
  unfold handlePeerSyncAck
  split
  case h_1 delivered =>
    exact (Keeps.foldl removeEntry_keeps delivered r).trans (.of_eq rfl rfl)
  case h_2 => exact .of_eq rfl rfl

/-- Each kind of request by its handler. -/
theorem respondPeerSync_keeps (r : LxmfRouter σ) (peerId : Hash16)
    (req : PeerSyncRequest) (nowMs : Nat) :
    Keeps P c r (r.respondPeerSync P peerId req nowMs).2 := by
  unfold respondPeerSync
  split
  case h_1 key available =>
    have hoffer := handlePeerSyncOffer_keeps (P := P) (c := c) r peerId
      (.offer key available) nowMs
    generalize r.handlePeerSyncOffer P peerId (.offer key available) nowMs
      = offered at hoffer ⊢
    have hget := peerSyncMessageGet_keeps (P := P) (c := c) offered.2
      peerId offered.1 none nowMs
    dsimp only
    split
    case h_1 heq =>
      rw [heq] at hget
      exact (hoffer.trans hget).trans (.of_eq rfl rfl)
    case h_2 heq =>
      rw [heq] at hget
      exact hoffer.trans hget
  case h_2 => exact handlePeerSyncMessageGet_keeps r peerId _ nowMs
  case h_3 => exact handlePeerSyncMessageGet_keeps r peerId _ nowMs
  case h_4 => exact handlePeerSyncAck_keeps r peerId _ nowMs

theorem handlePeerSyncRequestBytes_keeps (r : LxmfRouter σ)
    (peerId : Hash16) (payload : Bytes) (nowMs : Nat) :
    Keeps P c r
      (r.handlePeerSyncRequestBytes P peerId payload nowMs).2 := by
  unfold handlePeerSyncRequestBytes
  dsimp only
  split
  case h_1 => exact .of_eq rfl rfl
  case h_2 req _ =>
    refine Keeps.trans ?_ (respondPeerSync_keeps _ peerId req nowMs)
    exact .of_eq rfl rfl

/-- A request whose data are no bytes is an error, and changes nothing. -/
theorem handlePeerSyncRequest_keeps (r : LxmfRouter σ) (peerId : Hash16)
    (req : RnsRequest) (nowMs : Nat) :
    Keeps P c r (r.handlePeerSyncRequest P peerId req nowMs).2 := by
  unfold handlePeerSyncRequest
  split
  case h_1 => exact .of_eq rfl rfl
  case h_2 payload _ =>
    have h := handlePeerSyncRequestBytes_keeps (P := P) (c := c) r peerId
      payload nowMs
    split
    case h_1 heq =>
      rw [heq] at h
      exact h
    case h_2 heq =>
      rw [heq] at h
      exact h

/-- Breaking with a peer deletes its file. -/
theorem unpeer_keeps (r : LxmfRouter σ) (peerId : Hash16) :
    Keeps P c r (r.unpeer peerId).2 := by
  unfold unpeer
  split
  case isTrue =>
    have herased : Keeps P c r { r with peers := r.peers.erase peerId } :=
      .of_eq rfl rfl
    exact herased.trans (persist_keeps _ (removePeer_leavesTables peerId))
  case isFalse => exact .of_eq rfl rfl

theorem requestPeerSync_keeps (r : LxmfRouter σ) (peerId : Hash16)
    (nowMs : Nat) : Keeps P c r (r.requestPeerSync peerId nowMs).2 := by
  unfold requestPeerSync
  split
  case isTrue => exact .of_eq rfl rfl
  case isFalse => exact .of_eq rfl rfl

-- ----------------------------------------------- requests and responses

/-- Making a request is the runtime's business, and no table's. -/
theorem buildPeerSyncRequest_tables (r : LxmfRouter σ) (peerId : Hash16)
    (req : PeerSyncRequest) (nowMs : Nat) :
    (r.buildPeerSyncRequest P peerId req nowMs).2.tables = r.tables := by
  unfold buildPeerSyncRequest
  split
  case h_1 => rfl
  case h_2 =>
    split
    case h_1 => rfl
    case h_2 => rfl

/-- The response to a request for messages: its payload, and another
request in answer. -/
theorem receivePayload_persists (r : LxmfRouter σ) (peerId : Hash16)
    (response : PeerSyncResponse) (nowMs : Nat) :
    Persists P (0 < nowMs) r
      (r.receivePayload P peerId response nowMs).2 := by
  have h := applyPeerSyncPayload_keeps (P := P) r peerId response nowMs
  unfold receivePayload
  split
  case h_1 heq =>
    rw [heq] at h
    exact h.toPersists
  case h_2 ackReq r' heq =>
    rw [heq] at h
    have hbuild := buildPeerSyncRequest_tables (P := P) r' peerId ackReq
      nowMs
    split
    case h_1 heq' =>
      rw [heq'] at hbuild
      exact h.toPersists.trans (.of_eq hbuild)
    case h_2 heq' =>
      rw [heq'] at hbuild
      exact h.toPersists.trans (.of_eq hbuild)

/-- A response ends the waiting for it, so that only the tables are kept.
-/
theorem handlePeerSyncResponseBytesWithPeer_persists (r : LxmfRouter σ)
    (requestId : Hash16) (payload : Bytes) (nowMs : Nat) :
    Persists P (0 < nowMs) r (r.handlePeerSyncResponseBytesWithPeer P
      requestId payload nowMs).2 := by
  unfold handlePeerSyncResponseBytesWithPeer
  split
  case h_1 => exact .of_eq rfl
  case h_2 pending _ =>
    have hanswered : Persists P (0 < nowMs) r
        (r.withoutPending requestId) := .of_eq rfl
    dsimp only
    split
    case h_1 => exact .of_eq rfl
    case h_2 response _ =>
      split
      case h_1 => exact .of_eq rfl
      case h_2 => exact hanswered.trans (receivePayload_persists ..)
      case h_3 => exact hanswered.trans (receivePayload_persists ..)
      case h_4 => exact .of_eq rfl

theorem handlePeerSyncResponseBytes_persists (r : LxmfRouter σ)
    (requestId : Hash16) (payload : Bytes) (nowMs : Nat) :
    Persists P (0 < nowMs) r
      (r.handlePeerSyncResponseBytes P requestId payload nowMs).2 := by
  unfold handlePeerSyncResponseBytes
  dsimp only
  refine Persists.trans ?_
    (handlePeerSyncResponseBytesWithPeer_persists _ requestId payload nowMs)
  split
  case h_1 => exact .of_eq rfl
  case h_2 => exact .of_eq rfl

theorem handlePeerSyncResponse_persists (r : LxmfRouter σ)
    (resp : RnsResponse) (nowMs : Nat) :
    Persists P (0 < nowMs) r
      (r.handlePeerSyncResponse P resp nowMs).2 := by
  unfold handlePeerSyncResponse
  split
  case h_1 => exact .of_eq rfl
  case h_2 payload _ =>
    exact handlePeerSyncResponseBytes_persists r resp.requestId payload nowMs

/-- A timeout ends a waiting too, and writes no table. -/
theorem handleRequestTimeouts_tables (r : LxmfRouter σ)
    (timeouts : List Hash16) (nowMs : Nat) :
    (r.handleRequestTimeouts timeouts nowMs).tables = r.tables := by
  unfold handleRequestTimeouts
  induction timeouts generalizing r with
  | nil => rfl
  | cons requestId timeouts ih =>
      rw [List.foldl_cons, ih]
      split
      case h_1 => rfl
      case h_2 => rfl

-- ------------------------------------------------------ inbound messages

/-- A ticket is written through as it is; its expiry must not be before
zero. -/
theorem rememberTicket_keeps (r : LxmfRouter σ) (dest : Hash16)
    {expiresAtS : F64} (ticket : Bytes) (h : c → expiresAtS.NotNegative) :
    Keeps P c r (r.rememberTicket P dest expiresAtS ticket) :=
  persistTicketStore_keeps r fun hok hts => hts.rememberTicket (h hok)

/-- The ticket of a message is learnt only while it has not expired, and so
fits. -/
theorem learnTicket_keeps (r : LxmfRouter σ) (message : LXMessage)
    (nowMs : Nat) : Keeps P c r (r.learnTicket P message nowMs) := by
  unfold learnTicket
  split
  case h_1 expiresAtS ticket _ =>
    split
    case isTrue hlater =>
      exact rememberTicket_keeps r _ ticket fun _ =>
        notNegative_of_nowS_lt hlater
    case isFalse => exact .of_eq rfl rfl
  case h_2 => exact .of_eq rfl rfl

/-- A delivered message is noted if it has an id. -/
theorem markDelivered_keeps (r : LxmfRouter σ) (message : LXMessage)
    (nowMs : Nat) :
    Keeps P (0 < nowMs) r (r.markDelivered P message nowMs) := by
  unfold markDelivered
  split
  case h_1 id _ => exact markLocalDelivery_keeps r id nowMs
  case h_2 => exact .of_eq rfl rfl

/-- An inbound message may leave a ticket and a note, or is refused. -/
theorem processInboundMessage_keeps (r : LxmfRouter σ)
    (message : LXMessage) (nowMs : Nat)
    (signatureValidated noStampEnforcement : Bool) :
    Keeps P (0 < nowMs) r (r.processInboundMessage P message nowMs
      signatureValidated noStampEnforcement).2 := by
  unfold processInboundMessage
  split
  case isTrue => exact .of_eq rfl rfl
  case isFalse =>
    split
    case isTrue => exact .of_eq rfl rfl
    case isFalse =>
      have hlearned := Keeps.ite signatureValidated
        (learnTicket_keeps (P := P) (c := 0 < nowMs) r message nowMs)
      generalize (if signatureValidated = true then
        r.learnTicket P message nowMs else r) = learned at hlearned ⊢
      dsimp only
      split
      case isTrue => exact hlearned
      case isFalse => exact hlearned.trans (markDelivered_keeps ..)

theorem processMessages_keeps (r : LxmfRouter σ)
    (remoteHash : Option Hash16) (nowMs : Nat) (messages : List Bytes) :
    Keeps P (0 < nowMs) r
      (r.processMessages P remoteHash nowMs messages).2 := by
  induction messages generalizing r with
  | nil => exact .of_eq rfl rfl
  | cons msg messages ih =>
      exact (processPropagated_keeps r _ msg nowMs remoteHash _).trans (ih _)

/-- A resource of messages is processed one by one, if the remote may send
it. -/
theorem processPropagationResource_keeps (r : LxmfRouter σ)
    (remoteHash : Option Hash16) (peeringKey : Option Bytes)
    (messages : List Bytes) (limit : Option F64) (nowMs : Nat) :
    Keeps P (0 < nowMs) r (r.processPropagationResource P remoteHash
      peeringKey messages limit nowMs).2 := by
  unfold processPropagationResource
  repeat' split
  case isTrue => exact .of_eq rfl rfl
  case isTrue => exact .of_eq rfl rfl
  case isTrue => exact .of_eq rfl rfl
  case isTrue => exact .of_eq rfl rfl
  case h_1 => exact .of_eq rfl rfl
  case h_2 => exact processMessages_keeps r remoteHash nowMs messages

theorem handlePropagationResourcePayload_keeps (r : LxmfRouter σ)
    (remoteHash : Option Hash16) (peeringKey : Option Bytes)
    (limit : Option F64) (payload : Bytes) (nowMs : Nat) :
    Keeps P (0 < nowMs) r (r.handlePropagationResourcePayload P remoteHash
      peeringKey limit payload nowMs).2 := by
  unfold handlePropagationResourcePayload
  split
  case h_1 => exact .of_eq rfl rfl
  case h_2 messages _ =>
    exact processPropagationResource_keeps r remoteHash peeringKey messages
      limit nowMs

-- ------------------------------------------------------ the inbound queue

/-- A control request does to a peer what its operation does. -/
theorem controlPeer_keeps (r : LxmfRouter σ) (req : RnsRequest)
    {op : Hash16 → Bool × LxmfRouter σ}
    (hop : ∀ target, Keeps P c r (op target).2) :
    Keeps P c r (r.controlPeer req op).2 := by
  unfold controlPeer
  split
  case h_1 => exact .of_eq rfl rfl
  case h_2 target _ =>
    have h := hop target
    split
    case h_1 heq =>
      rw [heq] at h
      exact h
    case h_2 heq =>
      rw [heq] at h
      exact h

theorem handleControlRequest_keeps (r : LxmfRouter σ) (peerId : Hash16)
    (req : RnsRequest) (nowMs : Nat) :
    Keeps P c r (r.handleControlRequest P peerId req nowMs).2 := by
  have hsync := controlPeer_keeps (P := P) (c := c) r req fun target =>
    requestPeerSync_keeps r target nowMs
  have hunpeer := controlPeer_keeps (P := P) (c := c) r req (unpeer_keeps r)
  unfold handleControlRequest
  split
  case isTrue => exact .of_eq rfl rfl
  case isFalse =>
    split
    case isTrue => exact .of_eq rfl rfl
    case isFalse =>
      split
      case isTrue => exact hsync
      case isFalse =>
        split
        case isTrue => exact hunpeer
        case isFalse => exact .of_eq rfl rfl

/-- Its response is queued. -/
theorem queueControl_keeps (r : LxmfRouter σ) (peerId : Hash16)
    (req : RnsRequest) (nowMs : Nat) :
    Keeps P c r (r.queueControl P peerId req nowMs) := by
  have h := handleControlRequest_keeps (P := P) (c := c) r peerId req nowMs
  unfold queueControl
  split
  case h_1 heq =>
    rw [heq] at h
    exact h.trans (.of_eq rfl rfl)
  case h_2 heq =>
    rw [heq] at h
    exact h

/-- A request that came in is handled, and its response queued. -/
theorem receiveRequest_keeps (r : LxmfRouter σ) (req : RnsRequest)
    (sourceHash : Option Hash16) (nowMs : Nat) :
    Keeps P c r (r.receiveRequest P req sourceHash nowMs) := by
  unfold receiveRequest
  split
  case h_1 => exact .of_eq rfl rfl
  case h_2 peerId =>
    split
    case isTrue =>
      have h := handlePeerSyncRequest_keeps (P := P) (c := c) r peerId req
        nowMs
      split
      case h_1 heq =>
        rw [heq] at h
        exact h.trans (.of_eq rfl rfl)
      case h_2 heq =>
        rw [heq] at h
        exact h
    case isFalse =>
      split
      case isTrue => exact queueControl_keeps r peerId req nowMs
      case isFalse => exact .of_eq rfl rfl

theorem receiveControl_keeps (r : LxmfRouter σ) (req : RnsRequest)
    (sourceHash : Option Hash16) (nowMs : Nat) :
    Keeps P c r (r.receiveControl P req sourceHash nowMs) := by
  unfold receiveControl
  split
  case isTrue =>
    split
    case h_1 peerId => exact queueControl_keeps r peerId req nowMs
    case h_2 => exact .of_eq rfl rfl
  case isFalse => exact .of_eq rfl rfl

/-- A response that came in is recorded, and may end a waiting. -/
theorem receiveResponse_persists (r : LxmfRouter σ)
    (response : RnsResponse) (nowMs : Nat) :
    Persists P (0 < nowMs) r (r.receiveResponse P response nowMs) := by
  unfold receiveResponse
  split
  case h_1 => exact .of_eq rfl
  case h_2 payload _ =>
    have h := handlePeerSyncResponseBytesWithPeer_persists (P := P) r
      response.requestId payload nowMs
    split
    case h_1 heq =>
      rw [heq] at h
      exact h.trans (.of_eq rfl)
    case h_2 heq =>
      rw [heq] at h
      exact h

/-- What was received is a message, a request or a response. -/
theorem handleReceived_persists (r : LxmfRouter σ) (received : Received)
    (nowMs : Nat) (signatureValidated : Bool) :
    Persists P (0 < nowMs) r
      (r.handleReceived P received nowMs signatureValidated).2 := by
  cases received with
  | message message =>
      exact (processInboundMessage_keeps r message nowMs signatureValidated
        false).toPersists
  | propagated timestamp lxmData stamped sourceHash count =>
      exact (processPropagated_keeps r timestamp lxmData nowMs sourceHash
        count).toPersists
  | propagationResource payload sourceHash =>
      exact (handlePropagationResourcePayload_keeps r sourceHash none none
        payload nowMs).toPersists
  | request request sourceHash =>
      exact (receiveRequest_keeps r request sourceHash nowMs).toPersists
  | controlRequest request sourceHash =>
      exact (receiveControl_keeps r request sourceHash nowMs).toPersists
  | response response sourceHash =>
      exact receiveResponse_persists r response nowMs

/-- A queue of it, from the front on. -/
theorem processReceived_persists (nowMs : Nat) (signatureValidated : Bool)
    (queue : List Received) (r : LxmfRouter σ) :
    Persists P (0 < nowMs) r
      (processReceived P nowMs signatureValidated queue r).2 := by
  induction queue generalizing r with
  | nil => exact .of_eq rfl
  | cons received queue ih =>
      have hpopped : Persists P (0 < nowMs) r
          (r.mapRouter fun router => router.popInbound.2) := .of_eq rfl
      exact (hpopped.trans (handleReceived_persists _ received nowMs
        signatureValidated)).trans (ih _)

-- ------------------------------------------------------------- the jobs

/-- Nothing was removed, or the caches are saved. -/
theorem cleanTransientIdCaches_keeps (r : LxmfRouter σ) (nowMs : Nat) :
    Keeps P c r (r.cleanTransientIdCaches P nowMs).2 := by
  unfold cleanTransientIdCaches cleanTransientCache
  dsimp only
  generalize hkeep : (fun (_ : Hash32) (ts : F64) =>
    (nowS nowMs).le (ts.add (.fin (messageExpiry * 6)))) = keep
  split
  case isTrue =>
    exact saveLocalCaches_keeps r (fun _ h => h.retain keep)
      fun _ h => h.retain keep
  case isFalse hnone =>
    unfold satAdd64 u64Max at hnone
    have hdelivered : HashMap.retain r.localDeliveries keep
        = r.localDeliveries := HashMap.retain_eq_self (by omega)
    have hprocessed : HashMap.retain r.locallyProcessed keep
        = r.locallyProcessed := HashMap.retain_eq_self (by omega)
    rw [hdelivered, hprocessed]
    exact .of_eq rfl rfl

/-- Costs are written only if one of them went. -/
theorem cleanOutboundStampCosts_keeps (r : LxmfRouter σ) (nowMs : Nat) :
    Keeps P c r (r.cleanOutboundStampCosts P nowMs).2 := by
  unfold cleanOutboundStampCosts
  dsimp only
  generalize hkeep : (fun (_ : Hash16) (cost : F64 × Nat) =>
    (nowS nowMs).le (cost.1.add (.fin stampCostExpiryS))) = keep
  split
  case isTrue =>
    exact persistOutboundStampCosts_keeps r fun _ h => h.retain keep
  case isFalse hnone =>
    have hcosts : HashMap.retain r.outboundStampCosts keep
        = r.outboundStampCosts := HashMap.retain_eq_self (by omega)
    rw [hcosts]
    exact .of_eq rfl rfl

/-- Links are in no table. -/
theorem cleanLinks_keeps (r : LxmfRouter σ) (nowMs : Nat) :
    Keeps P c r (r.cleanLinks nowMs) := by
  obtain ⟨tracker, h | ⟨failure, h⟩⟩ := r.cleanLinks_cases nowMs
  · rw [h]
    exact .of_eq rfl rfl
  · rw [h]
    exact .of_eq rfl rfl

/-- An offer to a peer is queued for later; no request is made yet. -/
theorem schedulePeerSync_keeps (r : LxmfRouter σ) (nowMs : Nat)
    (rng : OsRng) : Keeps P c r (r.schedulePeerSync P nowMs rng) := by
  unfold schedulePeerSync
  split
  case h_1 => exact .of_eq rfl rfl
  case h_2 => exact .of_eq rfl rfl

/-- Cleaning deletes files of messages. -/
theorem cleanPropagationStore_keeps (r : LxmfRouter σ) (nowMs : Nat) :
    Keeps P c r (r.cleanPropagationStore nowMs).2 := by
  obtain ⟨ids, hids, _⟩ := cleanPropagationStore_drops r nowMs
  rw [hids]
  exact .foldl removeEntry_keeps ids r

/-- Rotating breaks with peers. -/
theorem rotatePeers_keeps (r : LxmfRouter σ) :
    Keeps P c r r.rotatePeers := by
  rcases r.rotatePeers_eq with heq | ⟨maxPeers, -, -, heq⟩
  · rw [heq]
    exact .of_eq rfl rfl
  · rw [heq]
    exact .foldl unpeer_keeps _ r

/-- Syncing culls peers and schedules one. -/
theorem syncPeers_keeps (r : LxmfRouter σ) (nowMs : Nat) (rng : OsRng) :
    Keeps P c r (r.syncPeers P nowMs rng) := by
  unfold syncPeers
  dsimp only
  refine Keeps.trans ?_ (.foldl unpeer_keeps _ _)
  split
  case h_1 => exact .of_eq rfl rfl
  case h_2 => exact .of_eq rfl rfl

theorem flushPeer_keeps (r : LxmfRouter σ) (peerId : Hash16) :
    Keeps P c r (r.flushPeer peerId) := by
  rcases r.flushPeer_cases peerId with ⟨heq, -⟩ | ⟨peer, -, heq⟩
  · rw [heq]
    exact .of_eq rfl rfl
  · rw [heq]
    exact .of_eq rfl rfl

/-- Flushing moves ids from queues into the store. -/
theorem flushQueues_keeps (r : LxmfRouter σ) :
    Keeps P c r r.flushQueues := by
  unfold flushQueues
  split
  case isTrue => exact .of_eq rfl rfl
  case isFalse =>
    refine Keeps.trans ?_ (.foldl flushPeer_keeps _ _)
    exact .of_eq rfl rfl

/-- The jobs of a tick, each of which runs or does not. -/
theorem tickJobs_keeps (r : LxmfRouter σ) (tick : RuntimeTick)
    (nowMs : Nat) (rng : OsRng) :
    Keeps P c r (r.tickJobs P tick nowMs rng) := by
  have hpn (r : LxmfRouter σ) : Keeps P c r
      (((r.cleanTransientIdCaches P nowMs).2.pollPeerSyncTimeouts
        nowMs).schedulePeerSync P nowMs rng) := by
    refine (cleanTransientIdCaches_keeps r nowMs).trans (Keeps.trans ?_
      (schedulePeerSync_keeps _ nowMs rng))
    generalize (r.cleanTransientIdCaches P nowMs).2 = cleaned
    exact .of_eq rfl rfl
  refine Keeps.trans (.ite tick.linksRan (cleanLinks_keeps r nowMs)) ?_
  refine Keeps.trans (.ite tick.pnRan (hpn _)) ?_
  refine Keeps.trans (.ite tick.storeRan
    (cleanPropagationStore_keeps _ nowMs)) ?_
  refine Keeps.trans (.ite tick.rotateRan (rotatePeers_keeps _)) ?_
  exact .ite tick.peeringestRan (flushQueues_keeps _)

-- --------------------------------------------------- downloads and tables

theorem setOutboundPropagationNode_keeps (r : LxmfRouter σ)
    (node : Option Hash16) :
    Keeps P c r (r.setOutboundPropagationNode node) := by
  unfold setOutboundPropagationNode
  split
  case isTrue => exact .of_eq rfl rfl
  case isFalse =>
    dsimp only
    split
    case h_1 =>
      split
      case isTrue => exact .of_eq rfl rfl
      case isFalse => exact .of_eq rfl rfl
    case h_2 => exact .of_eq rfl rfl

theorem establishPropagationLinkForRequest_keeps (r : LxmfRouter σ)
    (identityHash nodeHash : Hash16) (nowMs : Nat) :
    Keeps P c r (r.establishPropagationLinkForRequest identityHash nodeHash
      nowMs) := by
  unfold establishPropagationLinkForRequest
  split
  case isTrue => exact .of_eq rfl rfl
  case isFalse => exact .of_eq rfl rfl

/-- A download is requested, or waits for a path. -/
theorem requestMessagesFromPropagationNode_keeps (r : LxmfRouter σ)
    (identityHash : Hash16) (maxMessages : Option Nat) (nowMs : Nat) :
    Keeps P c r (r.requestMessagesFromPropagationNode identityHash
      maxMessages nowMs) := by
  unfold requestMessagesFromPropagationNode
  dsimp only
  split
  case h_1 => exact .of_eq rfl rfl
  case h_2 =>
    split
    case h_1 =>
      split
      case isTrue =>
        refine Keeps.trans ?_
          (establishPropagationLinkForRequest_keeps ..)
        exact .of_eq rfl rfl
      case isFalse => exact .of_eq rfl rfl
    case h_2 =>
      refine Keeps.trans ?_ (establishPropagationLinkForRequest_keeps ..)
      exact .of_eq rfl rfl

theorem onPnPathAvailable_keeps (r : LxmfRouter σ) (nodeHash : Hash16)
    (nowMs : Nat) : Keeps P c r (r.onPnPathAvailable nodeHash nowMs) := by
  unfold onPnPathAvailable
  split
  case isTrue =>
    split
    case h_1 => exact .of_eq rfl rfl
    case h_2 => exact .of_eq rfl rfl
  case isFalse => exact .of_eq rfl rfl

theorem pollPathRequestTimeout_keeps (r : LxmfRouter σ) (nowMs : Nat) :
    Keeps P c r (r.pollPathRequestTimeout nowMs).2 := by
  unfold pollPathRequestTimeout
  split
  case h_1 =>
    split
    case isTrue => exact .of_eq rfl rfl
    case isFalse =>
      split
      case isTrue => exact onPnPathAvailable_keeps r _ nowMs
      case isFalse => exact .of_eq rfl rfl
  case h_2 => exact .of_eq rfl rfl

theorem getOutboundPropagationCost_keeps (r : LxmfRouter σ) :
    Keeps P c r (r.getOutboundPropagationCost P).2 := by
  unfold getOutboundPropagationCost
  split
  case h_1 => exact .of_eq rfl rfl
  case h_2 =>
    split
    case h_1 => exact .of_eq rfl rfl
    case h_2 =>
      split
      case isTrue => exact .of_eq rfl rfl
      case isFalse => exact .of_eq rfl rfl

/-- Whatever happens to a download. -/
theorem download_keeps (r : LxmfRouter σ) (event : DownloadEvent) :
    Keeps P c r (r.download P event) := by
  cases event with
  | request identityHash maxMessages nowMs =>
      exact requestMessagesFromPropagationNode_keeps r identityHash
        maxMessages nowMs
  | pathAvailable nodeHash nowMs =>
      exact onPnPathAvailable_keeps r nodeHash nowMs
  | pollPathTimeout nowMs => exact pollPathRequestTimeout_keeps r nowMs
  | acknowledge resetState failureState => exact .of_eq rfl rfl
  | cancel => exact .of_eq rfl rfl
  | cleanLinks nowMs => exact cleanLinks_keeps r nowMs
  | setNode node => exact setOutboundPropagationNode_keeps r node
  | setLink linkId nowMs => exact .of_eq rfl rfl
  | linkEvents events nowMs => exact .of_eq rfl rfl
  | processMessageRequests => exact .of_eq rfl rfl
  | popPathRequest => exact .of_eq rfl rfl
  | outboundCost => exact getOutboundPropagationCost_keeps r
  | directory f => exact .of_eq rfl rfl

/-- Whatever the limit is computed from. -/
theorem storageLimit_keeps (r : LxmfRouter σ) (limit : Option Nat) :
    Keeps P c r { r with propagationStoreLimitBytes := limit } :=
  .of_eq rfl rfl

/-- No setting is in a table. -/
theorem set_keeps (r : LxmfRouter σ) (setting : Setting) :
    Keeps P c r (r.set setting) := by
  cases setting with
  | inboundStampCost destinationHash stampCost =>
      show Keeps P c r (r.setInboundStampCost destinationHash stampCost)
      unfold setInboundStampCost
      split
      case h_1 => exact .of_eq rfl rfl
      case h_2 => exact .of_eq rfl rfl
  | messageStorageLimit kilobytes megabytes gigabytes =>
      exact storageLimit_keeps r _
  | _ => exact .of_eq rfl rfl

/-- A ticket that is issued expires after now, and so fits. -/
theorem generateTicket_keeps (r : LxmfRouter σ) (dest : Hash16)
    (nowMs : Nat) (rng : OsRng) :
    Keeps P c r (r.generateTicket P dest nowMs rng).2 := by
  unfold generateTicket
  have hread (h : r.ticketStore.Readable) :=
    h.generateTicket dest nowMs ticketExpiry rng
  rcases TicketStore.generateTicket_cases r.ticketStore dest nowMs
    ticketExpiry rng with heq | ⟨entry, _, heq⟩ | ⟨-, heq⟩
  · rw [heq]
    exact .of_eq rfl rfl
  · rw [heq] at hread ⊢
    exact persistTicketStore_keeps r fun _ h => hread h
  · rw [heq] at hread ⊢
    exact persistTicketStore_keeps r fun _ h => hread h

/-- An operation on a table, whose arguments fit it. -/
theorem performTable_keeps (r : LxmfRouter σ) (nowMs : Nat)
    (op : TableOperation) :
    Keeps P (0 < nowMs ∧ op.Valid) r (r.performTable P nowMs op) := by
  cases op with
  | setOutboundStampCost dest stampCost =>
      show Keeps _ _ r (r.setOutboundStampCost P dest stampCost nowMs)
      unfold setOutboundStampCost
      refine persistOutboundStampCosts_keeps r fun hc h => ?_
      split
      case h_1 cost =>
        exact h.insert dest
          ⟨nowS_notNegative nowMs, hc.2 (cost + 1) rfl⟩
      case h_2 => exact h.erase dest
  | cleanOutboundStampCosts => exact cleanOutboundStampCosts_keeps r nowMs
  | markLocalDelivery id =>
      exact (markLocalDelivery_keeps r id nowMs).mono And.left
  | markLocallyProcessed id =>
      exact (markLocallyProcessed_keeps r id nowMs).mono And.left
  | generateTicket dest rng => exact generateTicket_keeps r dest nowMs rng
  | rememberTicket dest expiresAtS ticket =>
      exact rememberTicket_keeps r dest ticket And.right
  | markTicketDelivered dest =>
      exact persistTicketStore_keeps r fun _ h =>
        h.markTicketDelivered nowMs
  | cleanTickets =>
      exact persistTicketStore_keeps r fun _ h => h.cleanExpired nowMs
  | cleanTransientIdCaches => exact cleanTransientIdCaches_keeps r nowMs

/-- An operation on a peer may make a request. -/
theorem performPeer_persists (r : LxmfRouter σ) (nowMs : Nat)
    (op : PeerOperation) :
    Persists P (0 < nowMs) r (r.performPeer P nowMs op) := by
  cases op with
  | buildPeerSyncRequest peerId req =>
      exact .of_eq (buildPeerSyncRequest_tables r peerId req nowMs)
  | handlePeerSyncRequestBytes peerId payload =>
      exact (handlePeerSyncRequestBytes_keeps r peerId payload
        nowMs).toPersists
  | handlePeerSyncRequest peerId req =>
      exact (handlePeerSyncRequest_keeps r peerId req nowMs).toPersists
  | handlePeerSyncResponseBytes requestId payload =>
      exact handlePeerSyncResponseBytes_persists r requestId payload nowMs
  | handlePeerSyncResponse resp =>
      exact handlePeerSyncResponse_persists r resp nowMs
  | peerSyncOffer peerId peeringKey => exact .of_eq rfl
  | handlePeerSyncOffer peerId req =>
      exact (handlePeerSyncOffer_keeps r peerId req nowMs).toPersists
  | peerSyncMessageGet peerId response limit =>
      exact (peerSyncMessageGet_keeps r peerId response limit
        nowMs).toPersists
  | handlePeerSyncMessageGet peerId req =>
      exact (handlePeerSyncMessageGet_keeps r peerId req nowMs).toPersists
  | applyPeerSyncPayload peerId response =>
      exact (applyPeerSyncPayload_keeps r peerId response nowMs).toPersists
  | handlePeerSyncAck peerId req =>
      exact (handlePeerSyncAck_keeps r peerId req nowMs).toPersists
  | applyPeerSyncResponse peerId response => exact .of_eq rfl
  | requestPeerSync peerId =>
      exact (requestPeerSync_keeps r peerId nowMs).toPersists
  | unpeer peerId => exact (unpeer_keeps r peerId).toPersists
  | rotatePeers => exact (rotatePeers_keeps r).toPersists
  | syncPeers rng => exact (syncPeers_keeps r nowMs rng).toPersists
  | enqueuePeerDistribution id fromPeer => exact .of_eq rfl
  | flushPeerDistributionQueue => exact .of_eq rfl
  | flushQueues => exact (flushQueues_keeps r).toPersists
  | popPeerSyncRequest => exact .of_eq rfl
  | popPeerSyncResponse => exact .of_eq rfl
  | popPeerSyncOutbound => exact .of_eq rfl
  | popControlResponse => exact .of_eq rfl

-- ------------------------------------------------------------- messages

/-- A message may take a ticket along. -/
theorem includeTicket_keeps (r : LxmfRouter σ) (message : LXMessage)
    (nowMs : Nat) (rng : OsRng) :
    Keeps P c r (r.includeTicket P message nowMs rng).2 := by
  have hread (h : r.ticketStore.Readable) :=
    h.generateTicket message.destinationHash nowMs ticketExpiry rng
  unfold includeTicket
  split
  case isTrue =>
    rcases TicketStore.generateTicket_cases r.ticketStore
      message.destinationHash nowMs ticketExpiry rng with
      heq | ⟨entry, _, heq⟩ | ⟨-, heq⟩
    · rw [heq]
      exact .of_eq rfl rfl
    · rw [heq] at hread ⊢
      exact persistTicketStore_keeps r fun _ h => hread h
    · rw [heq] at hread ⊢
      exact persistTicketStore_keeps r fun _ h => hread h
  case isFalse => exact .of_eq rfl rfl

/-- The stamp thread moves items between queues, which are in no table. -/
theorem stepThread_keeps (r : LxmfRouter σ) (free : Bool)
    (thread : StampThread) :
    Keeps P c r (r.stepThread free thread).2 := by
  cases thread with
  | spawned =>
      unfold stepThread
      dsimp only
      split
      case h_1 => exact .of_eq rfl rfl
      case h_2 => exact .of_eq rfl rfl
  | popped item => exact .of_eq rfl rfl
  | finishing => exact .of_eq rfl rfl

theorem spawned_keeps (r : LxmfRouter σ) (tick : RuntimeTick)
    (free : Bool) :
    Keeps P c r (if r.spawns tick free then
      { r with stampProcessingActive := true } else r) :=
  Keeps.ite (r.spawns tick free) (.of_eq rfl rfl)

end Functions

-- ========================================================== the messages

section Messages

variable {σ : Type} [MessageStore σ] {P : Platform} {c : Prop}

theorem processDeferred_keeps (left : Nat) (r : LxmfRouter σ) :
    Keeps P c r (processDeferred left r).2 := by
  induction left generalizing r with
  | zero => exact .of_eq rfl rfl
  | succ left ih =>
      unfold processDeferred
      split
      case h_1 => exact .of_eq rfl rfl
      case h_2 =>
        refine Keeps.trans ?_ (ih _)
        exact .of_eq rfl rfl

/-- A message is queued, or deferred until it has its stamp. -/
theorem handleOutbound_keeps (r : LxmfRouter σ) (message : LXMessage)
    (mode : DeliveryMode) (nowMs : Nat) (rng : OsRng) (free : Bool) :
    Keeps P c r (r.handleOutbound P message mode nowMs rng free).2 := by
  have hprepared := includeTicket_keeps (P := P) (c := c) r
    (r.lookUpStamp message nowMs) nowMs rng
  unfold handleOutbound prepareOutbound
  dsimp only
  generalize r.includeTicket P (r.lookUpStamp message nowMs) nowMs rng
    = prepared at hprepared ⊢
  split
  case isTrue => exact hprepared.trans (.of_eq rfl rfl)
  case isFalse => exact hprepared.trans (.of_eq rfl rfl)

theorem receiveProcessed_keeps (left : Nat) (r : LxmfRouter σ) :
    Keeps P c r (receiveProcessed left r).2 := by
  induction left generalizing r with
  | zero => exact .of_eq rfl rfl
  | succ left ih =>
      unfold receiveProcessed
      split
      case h_1 =>
        refine Keeps.trans ?_ (ih _)
        exact .of_eq rfl rfl
      case h_2 => exact .of_eq rfl rfl

/-- The first half of a tick, after the tick of the runtime. -/
theorem tickBegin_keeps (r : LxmfRouter σ) (nowMs : Nat)
    (deliver : Nat → Deliver) (rng : OsRng) :
    Keeps P c { r with runtime := (r.runtime.tick nowMs deliver).2 }
      (r.tickBegin P nowMs deliver rng).2.2 := by
  unfold tickBegin
  dsimp only
  generalize r.runtime.tick nowMs deliver = ticked
  have hjobs := tickJobs_keeps (P := P) (c := c)
    { r with runtime := ticked.2 } ticked.1 nowMs rng
  generalize tickJobs P { r with runtime := ticked.2 } ticked.1 nowMs rng
    = r' at hjobs ⊢
  split
  case isTrue =>
    have hopened : Keeps P c r' r'.openChannel := .of_eq rfl rfl
    exact (hjobs.trans hopened).trans (receiveProcessed_keeps 100 _)
  case isFalse => exact hjobs

/-- A tick times requests out, and sends some. -/
theorem tick_persists (r : LxmfRouter σ) (nowMs : Nat)
    (deliver : Nat → Deliver) (rng : OsRng) (free : Bool) :
    Persists P c r (r.tick P nowMs deliver rng free).2 := by
  have hruntime : Persists P c r
      { r with runtime := (r.runtime.tick nowMs deliver).2 } := .of_eq rfl
  have hbegin := hruntime.trans (tickBegin_keeps (P := P) (c := c) r nowMs
    deliver rng).toPersists
  unfold tick tickEnd
  generalize r.tickBegin P nowMs deliver rng = begun at hbegin ⊢
  have hspawned := hbegin.trans (spawned_keeps begun.2.2 begun.1
    free).toPersists
  dsimp only
  refine hspawned.trans (.of_eq ?_)
  exact handleRequestTimeouts_tables _ begun.1.requestTimeouts nowMs

end Messages

end LxmfRouter

-- ======================================================== all operations

/-- What the caller of an operation has to be sure of: time has begun,
and what a table is given fits it. -/
def Operation.Valid {σ : Type} : Operation σ → Prop
  | .table op nowMs => 0 < nowMs ∧ op.Valid
  | .peer _ nowMs => 0 < nowMs
  | .processInboundMessage _ nowMs _ _ => 0 < nowMs
  | .processPropagated _ _ nowMs _ _ => 0 < nowMs
  | .processPropagationResource _ _ _ _ nowMs => 0 < nowMs
  | .handlePropagationResourcePayload _ _ _ _ nowMs => 0 < nowMs
  | .processInboundQueue nowMs _ => 0 < nowMs
  | _ => True

/-- Every operation writes through what it changes. -/
theorem LxmfRouter.perform_persists {σ : Type} [MessageStore σ]
    {P : Platform} (r : LxmfRouter σ) (op : Operation σ) :
    Persists P op.Valid r (r.perform P op) := by
  cases op with
  | set setting => exact (set_keeps r setting).toPersists
  | runtimeMut f => exact .of_eq rfl
  | peersMut f => exact .of_eq rfl
  | propagationStoreMut f => exact .of_eq rfl
  | nodeStatsMut f => exact .of_eq rfl
  | links f => exact .of_eq rfl
  | table op nowMs => exact (performTable_keeps r nowMs op).toPersists
  | peer op nowMs => exact performPeer_persists r nowMs op
  | download event => exact (download_keeps r event).toPersists
  | handleOutbound message mode nowMs rng free =>
      exact (handleOutbound_keeps r message mode nowMs rng free).toPersists
  | processDeferredStamps nowMs maxItems =>
      exact (processDeferred_keeps maxItems r).toPersists
  | processInboundMessage message nowMs validated noEnforcement =>
      exact (processInboundMessage_keeps r message nowMs validated
        noEnforcement).toPersists
  | processPropagated timestamp lxmData nowMs sourceHash count =>
      exact (processPropagated_keeps r timestamp lxmData nowMs sourceHash
        count).toPersists
  | processPropagationResource remoteHash key messages limit nowMs =>
      exact (processPropagationResource_keeps r remoteHash key messages
        limit nowMs).toPersists
  | handlePropagationResourcePayload remoteHash key limit payload nowMs =>
      exact (handlePropagationResourcePayload_keeps r remoteHash key limit
        payload nowMs).toPersists
  | processInboundQueue nowMs validated =>
      exact processReceived_persists nowMs validated _ r
  | cleanPropagationStore nowMs =>
      exact (cleanPropagationStore_keeps r nowMs).toPersists
  | cleanupPropagation nowMs maxAgeMs => exact .of_eq rfl
  | savePeers =>
      exact (persist_keeps r (savePeers_leavesTables P _)).toPersists
  | tick nowMs deliver rng free =>
      exact tick_persists r nowMs deliver rng free
  | stampThread thread free =>
      exact (stepThread_keeps r free thread).toPersists

end Lxmf
