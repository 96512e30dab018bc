/-
When a remote that may not hand in messages gets one into the store.

# Two ways around the gate

`process_propagation_resource` refuses a remote that is not allowed. A
payload that holds one message is classified as that message, not as a
propagation resource, and `process_propagated` has no such check. The
second way is an answer: a response to a pending get is applied whoever
sent it.

# Every payload, every way in

A payload arrives as link data, in a resource packet that may complete a
resource, or as a completed resource. In each case the store gains
something exactly when the bytes hold a new message for one of the two
ways.
-/
import Lxmf.Resource
import Lxmf.Proofs.Reception
import Lxmf.Proofs.ShelfEvents

namespace Lxmf

-- =========================================================== arrivals

/-- How a payload reaches `handle_link_event_inner`. -/
inductive Arrival where
  | linkData (linkHash : Hash16)
  | resourcePacket (tracker : ResourceTracker) (now : Nat)
  | completed (isResponse : Bool)

/-- What the payload is classified as. -/
def Arrival.received (P : Platform) (sourceHash : Option Hash16)
    (countClientReceive : Bool) (payload : Bytes) :
    Arrival → List Received
  | .linkData linkHash =>
      receivedLinkData P linkHash sourceHash countClientReceive payload
  | .resourcePacket tracker now =>
      (receivedResourcePacket P tracker sourceHash countClientReceive
        payload now).received
  | .completed isResponse =>
      receivedCompletion P none isResponse sourceHash countClientReceive
        payload

namespace LxmfRouter

variable {σ : Type} (P : Platform)

/-- The router with these items on its inbound queue. -/
def withInbound (r : LxmfRouter σ) (received : List Received) :
    LxmfRouter σ :=
  r.mapRouter fun router => { router with inbound := received }

/-- The router after it processed what a payload was classified as. -/
def afterArrival (r : LxmfRouter σ) (arrival : Arrival)
    (sourceHash : Option Hash16) (countClientReceive : Bool)
    (payload : Bytes) (nowMs : Nat) (signatureValidated : Bool) :
    LxmfRouter σ :=
  ((r.withInbound (arrival.received P sourceHash countClientReceive
    payload)).processInboundQueue P nowMs signatureValidated).2

/-- An entry is in the store that was not. -/
def GainsEntry (r r' : LxmfRouter σ) : Prop :=
  ∃ id, r'.propagationStore.has id = true
    ∧ r.propagationStore.has id = false

-- ==================================================== what gets around

/-- The bytes are no message frame, hold one propagated message, and its
data, past the stamp check, is new. -/
def HandsIn (r : LxmfRouter σ) (content : Bytes) : Prop :=
  (∀ m, LXMessage.decode P content ≠ .ok m)
  ∧ ∃ timestamp lxmData rest entry,
    P.readValue content
      = .ok (.array (.f64 timestamp :: .array [.binary lxmData] :: rest))
    ∧ stampChecked P r.minStampCost (propagatedEntry P timestamp lxmData)
      = some entry
    ∧ r.seen entry.transientId = false

/-- The response answers a pending get, with a payload that holds an
entry which passes the stamp check and is new. -/
def AnswersGet (r : LxmfRouter σ) (response : RnsResponse) : Prop :=
  ∃ payload, valueToBytes response.data = some payload
    ∧ ∃ entry ∈ responseEntries P r response.requestId payload,
      r.seen entry.transientId = false

/-- The bytes read as a response that answers a pending get. -/
def AnswersWith (r : LxmfRouter σ) (content : Bytes) : Prop :=
  ∃ response, decodeResponseBytes P content = .ok response
    ∧ AnswersGet P r response

/-- Link data that is none of the four formats tried before a response. -/
def ReadLast (linkHash : Hash16) (content : Bytes) : Prop :=
  (∀ m, LXMessage.decode P content ≠ .ok m)
  ∧ (∀ source count received,
    decodePropagatedPayload P content source count ≠ .ok received)
  ∧ (∀ items, decodePropagationResourcePayload P content ≠ .ok items)
  ∧ ∀ req, decodeRequestBytesForDestination P linkHash content ≠ .ok req

/-- The resource the packet completes, if it does. -/
def completedBy (tracker : ResourceTracker) (now : Nat)
    (payload : Bytes) : Option ResourceCompletion :=
  match ResourcePart.decode payload with
  | .error _ => none
  | .ok part =>
      match (tracker.handlePart P part now).1 with
      | .ok (some (.complete completion)) => some completion
      | _ => none

/-- The payload gets around the gate. -/
def GetsAround (r : LxmfRouter σ) (payload : Bytes) : Arrival → Prop
  | .linkData linkHash =>
      HandsIn P r payload
        ∨ (ReadLast P linkHash payload ∧ AnswersWith P r payload)
  | .resourcePacket tracker now =>
      ∃ completion, completedBy P tracker now payload = some completion
        ∧ ((completion.requestId = none ∧ HandsIn P r completion.data)
          ∨ (completion.requestId ≠ none ∧ completion.isResponse = true
            ∧ AnswersWith P r completion.data))
  | .completed _ => HandsIn P r payload

-- ====================================================== one queued item

section Queue

variable {σ : Type} {P : Platform}

/-- The item brings an entry that is new. -/
def Brings (P : Platform) (r : LxmfRouter σ) (nowMs : Nat)
    (received : Received) : Prop :=
  ∃ entry ∈ receivedEntries P r nowMs received,
    r.seen entry.transientId = false

theorem gainsEntry_iff (r r' : LxmfRouter σ) :
    GainsEntry r r'
      ↔ ∃ id, id ∈ r'.shelf.entries ∧ id ∉ r.shelf.entries := by
  unfold GainsEntry
  simp only [PropagationStore.has_iff, ← Bool.not_eq_true]
  rfl

/-- No item both files and drops. -/
theorem receivedEntries_or_drops (r : LxmfRouter σ) (nowMs : Nat)
    (received : Received) :
    receivedEntries P r nowMs received = []
      ∨ receivedDrops P received = [] := by
  cases received with
  | request req sourceHash => exact .inl rfl
  | message m => exact .inr rfl
  | propagated timestamp lxmData id sourceHash count => exact .inr rfl
  | propagationResource payload sourceHash => exact .inr rfl
  | controlRequest req sourceHash => exact .inr rfl
  | response response sourceHash => exact .inr rfl

/-- One queued item adds to the store what it brings. -/
theorem gainsEntry_one (r : LxmfRouter σ) (received : Received)
    (nowMs : Nat) (sv : Bool) :
    GainsEntry r ((r.withInbound [received]).processInboundQueue P nowMs
      sv).2 ↔ Brings P r nowMs received := by
  -- popping the item touches neither the shelf nor the settings
  have hshelf := handleReceived_shelf (P := P)
    ((r.withInbound [received]).mapRouter fun router =>
      router.popInbound.2) received nowMs sv
  rw [gainsEntry_iff]
  show (∃ id, id ∈ (((r.withInbound [received]).mapRouter fun router =>
      router.popInbound.2).handleReceived P received nowMs
        sv).2.shelf.entries ∧ id ∉ r.shelf.entries) ↔ _
  rw [hshelf]
  show (∃ id, id ∈ ((r.shelf.receive P nowMs
      (receivedEntries P r nowMs received)).run P
        ((receivedDrops P received).map ShelfOp.drop)).entries
      ∧ id ∉ r.shelf.entries) ↔ _
  rcases receivedEntries_or_drops (P := P) r nowMs received with
    hnone | hnone
  · unfold Brings
    rw [hnone]
    constructor
    · rintro ⟨id, hafter, hbefore⟩
      exact absurd ((Shelf.mem_run_drops _ _ id).mp hafter).1 hbefore
    · rintro ⟨entry, hentry, _⟩
      cases hentry
  · rw [hnone]
    exact Shelf.receive_adds_iff r.shelf nowMs _

theorem not_gainsEntry_nil (r : LxmfRouter σ) (nowMs : Nat) (sv : Bool) :
    ¬ GainsEntry r ((r.withInbound []).processInboundQueue P nowMs
      sv).2 := by
  rintro ⟨id, hafter, hbefore⟩
  change r.propagationStore.has id = true at hafter
  rw [hafter] at hbefore
  cases hbefore

/-- The same for a list of at most one item. -/
theorem gainsEntry_queue (r : LxmfRouter σ) {queue : List Received}
    (hqueue : queue.length ≤ 1) (nowMs : Nat) (sv : Bool) :
    GainsEntry r ((r.withInbound queue).processInboundQueue P nowMs sv).2
      ↔ ∃ received ∈ queue, Brings P r nowMs received := by
  cases queue with
  | nil =>
      refine ⟨fun h => absurd h (not_gainsEntry_nil r nowMs sv), ?_⟩
      rintro ⟨received, hmem, _⟩
      cases hmem
  | cons received rest =>
      have hrest : rest = [] :=
        List.length_eq_zero_iff.mp (Nat.le_zero.mp
          (Nat.le_of_succ_le_succ hqueue))
      rw [hrest, gainsEntry_one]
      simp only [List.mem_singleton, exists_eq_left]

end Queue

-- ======================================================= the payloads

section Payloads

variable {σ : Type} {P : Platform} {r : LxmfRouter σ}
  {sourceHash : Option Hash16}

theorem decodePropagatedPayload_eq_ok {content : Bytes}
    {source : Option Hash16} {count : Bool} {received : Received} :
    decodePropagatedPayload P content source count = .ok received
      ↔ ∃ timestamp lxmData rest,
        P.readValue content = .ok (.array
          (.f64 timestamp :: .array [.binary lxmData] :: rest))
        ∧ received = .propagated timestamp lxmData (fullHash P lxmData)
          source count := by
  constructor
  · intro h
    obtain ⟨arr, harr, h⟩ := Except.bind_eq_ok.mp h
    obtain ⟨value, hread, harr⟩ := Except.bind_eq_ok.mp harr
    split at harr
    case h_2 => cases harr
    case h_1 vals =>
      split at harr
      case isTrue => cases harr
      case isFalse hlen =>
        injection harr with harr
        subst harr
        obtain ⟨v0, v1, rest, rfl⟩ : ∃ v0 v1 rest,
            vals = v0 :: v1 :: rest := by
          cases vals with
          | nil => exact absurd (Nat.succ_pos 1) hlen
          | cons v0 vals =>
              cases vals with
              | nil => exact absurd (Nat.lt_succ_self 1) hlen
              | cons v1 rest => exact ⟨v0, v1, rest, rfl⟩
        simp only [List.getD_cons_zero, List.getD_cons_succ] at h
        split at h
        case h_2 => cases h
        case h_1 _ _ timestamp lxmData =>
          injection h with h
          exact ⟨timestamp, lxmData, rest, readRns_eq_ok.mp hread, h.symm⟩
  · rintro ⟨timestamp, lxmData, rest, hread, rfl⟩
    unfold decodePropagatedPayload
    rw [readPropagationArray_of_read hread, Except.ok_bind]
    rfl

/-- The remote is refused. -/
def Refused (r : LxmfRouter σ) (sourceHash : Option Hash16) : Prop :=
  r.authRequired = true
    ∧ ∀ hash, sourceHash = some hash → hash ∉ r.allowedIdentities

theorem Refused.not_allowed (h : Refused r sourceHash) :
    r.resourceAllowed sourceHash = false := by
  unfold resourceAllowed
  rw [h.1]
  cases sourceHash with
  | none => rfl
  | some hash => exact decide_eq_false (h.2 hash rfl)

/-- The gate holds for what is classified as a propagation resource. -/
theorem Refused.not_brings_resource (h : Refused r sourceHash)
    (payload : Bytes) (nowMs : Nat) :
    ¬ Brings P r nowMs (.propagationResource payload sourceHash) := by
  rintro ⟨entry, hentry, _⟩
  simp only [receivedEntries] at hentry
  split at hentry
  case h_2 => cases hentry
  case h_1 messages _ =>
    rw [if_neg fun haccepted => by
      rw [resourceAccepted, h.not_allowed] at haccepted
      exact Bool.false_ne_true haccepted.2.1] at hentry
    cases hentry

theorem not_brings_message (m : LXMessage) (nowMs : Nat) :
    ¬ Brings P r nowMs (.message m) := by
  rintro ⟨entry, hentry, _⟩
  cases hentry

theorem brings_propagated_iff (timestamp : F64) (lxmData : Bytes)
    (id : Hash32) (source : Option Hash16) (count : Bool) (nowMs : Nat) :
    Brings P r nowMs (.propagated timestamp lxmData id source count)
      ↔ ∃ entry, stampChecked P r.minStampCost
          (propagatedEntry P timestamp lxmData) = some entry
        ∧ r.seen entry.transientId = false := by
  unfold Brings receivedEntries
  simp only [Option.mem_toList]

theorem brings_response_iff (response : RnsResponse)
    (source : Option Hash16) (nowMs : Nat) :
    Brings P r nowMs (.response response source)
      ↔ AnswersGet P r response := by
  simp only [Brings, receivedEntries, AnswersGet]
  cases valueToBytes response.data with
  | none => simp
  | some payload => simp

theorem not_brings_fileRequest (req : RnsRequest)
    (source : Option Hash16) (nowMs : Nat) :
    ¬ Brings P r nowMs (fileRequest P req source) := by
  rintro ⟨entry, hentry, _⟩
  unfold fileRequest at hentry
  split at hentry
  case h_1 =>
    split at hentry
    case isTrue => cases hentry
    case isFalse => cases hentry
  case h_2 => cases hentry

-- --------------------------------------------- what a reading brings

theorem receivedContent_brings_iff (h : Refused r sourceHash)
    (count : Bool) (content : Bytes) (nowMs : Nat) :
    (∃ received ∈ receivedContent P sourceHash count content,
      Brings P r nowMs received) ↔ HandsIn P r content := by
  unfold receivedContent HandsIn
  cases hmessage : LXMessage.decode P content with
  | ok m =>
      simp only [List.mem_singleton, exists_eq_left]
      constructor
      · intro hbrings
        exact absurd hbrings (not_brings_message m nowMs)
      · rintro ⟨hnone, _⟩
        exact absurd rfl (hnone m)
  | error e =>
      cases hpropagated : decodePropagatedPayload P content sourceHash
          count with
      | ok received =>
          obtain ⟨timestamp, lxmData, rest, hread, rfl⟩ :=
            decodePropagatedPayload_eq_ok.mp hpropagated
          simp only [List.mem_singleton, exists_eq_left,
            brings_propagated_iff]
          constructor
          · rintro ⟨entry, hchecked, hnew⟩
            exact ⟨fun m hm => (nomatch hm), timestamp, lxmData, rest, entry,
              hread, hchecked, hnew⟩
          · rintro ⟨_, timestamp', lxmData', rest', entry, hread', hnew⟩
            rw [hread] at hread'
            cases hread'
            exact ⟨entry, hnew⟩
      | error e' =>
          have hother : ¬ ∃ timestamp lxmData rest, P.readValue content
              = .ok (.array (.f64 timestamp :: .array [.binary lxmData]
                :: rest)) := by
            rintro ⟨timestamp, lxmData, rest, hread⟩
            rw [decodePropagatedPayload_eq_ok.mpr
              ⟨timestamp, lxmData, rest, hread, rfl⟩] at hpropagated
            cases hpropagated
          constructor
          · rintro ⟨received, hmem, hbrings⟩
            dsimp only at hmem
            split at hmem
            case h_2 => cases hmem
            case h_1 =>
              rw [List.mem_singleton.mp hmem] at hbrings
              exact absurd hbrings (h.not_brings_resource content nowMs)
          · rintro ⟨_, timestamp, lxmData, rest, _, hread, _⟩
            exact absurd ⟨timestamp, lxmData, rest, hread⟩ hother

theorem receivedResponse_brings_iff (content : Bytes) (nowMs : Nat) :
    (∃ received ∈ receivedResponse P sourceHash content,
      Brings P r nowMs received) ↔ AnswersWith P r content := by
  unfold receivedResponse AnswersWith
  cases decodeResponseBytes P content with
  | ok response =>
      simp only [List.mem_singleton, exists_eq_left, brings_response_iff]
      constructor
      · intro hanswers
        exact ⟨response, rfl, hanswers⟩
      · rintro ⟨other, heq, hanswers⟩
        cases heq
        exact hanswers
  | error e =>
      constructor
      · rintro ⟨received, hmem, _⟩
        cases hmem
      · rintro ⟨response, heq, _⟩
        cases heq

theorem not_brings_receivedRequest (r : LxmfRouter σ)
    (sourceHash : Option Hash16) (linkHash : Hash16) (content : Bytes)
    (nowMs : Nat) :
    ¬ ∃ received ∈ receivedRequest P linkHash sourceHash content,
      Brings P r nowMs received := by
  rintro ⟨received, hmem, hbrings⟩
  unfold receivedRequest at hmem
  split at hmem
  case h_2 => cases hmem
  case h_1 req _ =>
    rw [List.mem_singleton.mp hmem] at hbrings
    exact not_brings_fileRequest req sourceHash nowMs hbrings

/-- The three first readings find nothing. -/
theorem receivedContent_eq_nil_iff (count : Bool) (content : Bytes) :
    receivedContent P sourceHash count content = []
      ↔ (∀ m, LXMessage.decode P content ≠ .ok m)
        ∧ (∀ source count received, decodePropagatedPayload P content
          source count ≠ .ok received)
        ∧ ∀ items,
          decodePropagationResourcePayload P content ≠ .ok items := by
  have hany : ∀ source count', (∃ received, decodePropagatedPayload P
      content source count' = .ok received) →
      ∃ received, decodePropagatedPayload P content sourceHash count
        = .ok received := by
    rintro source count' ⟨received, h⟩
    obtain ⟨timestamp, lxmData, rest, hread, _⟩ :=
      decodePropagatedPayload_eq_ok.mp h
    exact ⟨_, decodePropagatedPayload_eq_ok.mpr
      ⟨timestamp, lxmData, rest, hread, rfl⟩⟩
  unfold receivedContent
  cases hmessage : LXMessage.decode P content with
  | ok m => exact ⟨fun h => (nomatch h), fun h => absurd rfl (h.1 m)⟩
  | error e =>
      cases hpropagated : decodePropagatedPayload P content sourceHash
          count with
      | ok received =>
          refine ⟨fun h => (nomatch h), fun h => ?_⟩
          exact absurd hpropagated (h.2.1 sourceHash count received)
      | error e' =>
          cases hresource : decodePropagationResourcePayload P content with
          | ok items =>
              refine ⟨fun h => (nomatch h), fun h => ?_⟩
              exact absurd rfl (h.2.2 items)
          | error e'' =>
              refine ⟨fun _ => ⟨fun m hm => (nomatch hm), ?_,
                fun items hitems => (nomatch hitems)⟩, fun _ => rfl⟩
              intro source count' received h
              obtain ⟨other, hother⟩ := hany source count' ⟨received, h⟩
              rw [hpropagated] at hother
              cases hother

theorem receivedRequest_eq_nil_iff (linkHash : Hash16) (content : Bytes) :
    receivedRequest P linkHash sourceHash content = []
      ↔ ∀ req, decodeRequestBytesForDestination P linkHash content
        ≠ .ok req := by
  unfold receivedRequest
  cases decodeRequestBytesForDestination P linkHash content with
  | ok req => exact ⟨fun h => (nomatch h), fun h => absurd rfl (h req)⟩
  | error e => exact ⟨fun _ req h => (nomatch h), fun _ => rfl⟩

theorem readLast_iff (sourceHash : Option Hash16) (linkHash : Hash16)
    (count : Bool) (content : Bytes) :
    ReadLast P linkHash content
      ↔ receivedContent P sourceHash count content = []
        ∧ receivedRequest P linkHash sourceHash content = [] := by
  rw [receivedContent_eq_nil_iff, receivedRequest_eq_nil_iff, ReadLast,
    and_assoc, and_assoc]

theorem receivedLinkData_brings_iff (h : Refused r sourceHash)
    (linkHash : Hash16) (count : Bool) (content : Bytes) (nowMs : Nat) :
    (∃ received ∈ receivedLinkData P linkHash sourceHash count content,
      Brings P r nowMs received)
      ↔ GetsAround P r content (.linkData linkHash) := by
  have hcontent := receivedContent_brings_iff (P := P) h count content
    nowMs
  have hresponse : (∃ received ∈ receivedResponse P sourceHash content,
      Brings P r nowMs received) ↔ AnswersWith P r content :=
    receivedResponse_brings_iff content nowMs
  have hrequest := not_brings_receivedRequest (P := P) r sourceHash linkHash
    content nowMs
  simp only [GetsAround]
  rw [readLast_iff sourceHash linkHash count, ← hcontent, ← hresponse]
  unfold receivedLinkData
  cases receivedContent P sourceHash count content with
  | cons first rest =>
      constructor
      · exact .inl
      · intro hor
        rcases hor with hfirst | ⟨⟨hnil, _⟩, _⟩
        · exact hfirst
        · cases hnil
  | nil =>
      have hnone : ¬ ∃ received ∈ ([] : List Received),
          Brings P r nowMs received := by
        rintro ⟨received, hmem, _⟩
        cases hmem
      dsimp only
      cases hreq : receivedRequest P linkHash sourceHash content with
      | cons first rest =>
          rw [hreq] at hrequest
          constructor
          · exact fun hfirst => absurd hfirst hrequest
          · intro hor
            rcases hor with hfirst | ⟨⟨_, hnil⟩, _⟩
            · exact absurd hfirst hnone
            · cases hnil
      | nil =>
          constructor
          · exact fun hlast => .inr ⟨⟨rfl, rfl⟩, hlast⟩
          · intro hor
            rcases hor with hfirst | ⟨_, hlast⟩
            · exact absurd hfirst hnone
            · exact hlast

theorem not_brings_bareResource (h : Refused r sourceHash)
    (payload : Bytes) (nowMs : Nat) :
    ¬ ∃ received ∈ receivedBareResource P sourceHash payload,
      Brings P r nowMs received := by
  rintro ⟨received, hmem, hbrings⟩
  unfold receivedBareResource at hmem
  split at hmem
  case h_2 => cases hmem
  case h_1 =>
    rw [List.mem_singleton.mp hmem] at hbrings
    exact h.not_brings_resource payload nowMs hbrings

theorem receivedCompletion_brings_iff (h : Refused r sourceHash)
    (completion : ResourceCompletion) (count : Bool) (nowMs : Nat) :
    (∃ received ∈ receivedCompletion P completion.requestId
        completion.isResponse sourceHash count completion.data,
      Brings P r nowMs received)
      ↔ (completion.requestId = none ∧ HandsIn P r completion.data)
        ∨ (completion.requestId ≠ none ∧ completion.isResponse = true
          ∧ AnswersWith P r completion.data) := by
  unfold receivedCompletion
  cases completion.requestId with
  | none =>
      rw [receivedContent_brings_iff h]
      simp
  | some requestId =>
      cases completion.isResponse with
      | true =>
          dsimp only
          rw [if_pos rfl, receivedResponse_brings_iff]
          simp
      | false =>
          simp only [Bool.false_eq_true, if_false, reduceCtorEq, false_and,
            and_false, or_false, iff_false]
          rintro ⟨received, hmem, hbrings⟩
          split at hmem
          case h_2 => cases hmem
          case h_1 req _ =>
            rw [List.mem_singleton.mp hmem] at hbrings
            exact not_brings_fileRequest _ sourceHash nowMs hbrings

theorem receivedResourcePacket_brings_iff (h : Refused r sourceHash)
    (tracker : ResourceTracker) (now : Nat) (count : Bool)
    (payload : Bytes) (nowMs : Nat) :
    (∃ received ∈ (receivedResourcePacket P tracker sourceHash count
        payload now).received, Brings P r nowMs received)
      ↔ GetsAround P r payload (.resourcePacket tracker now) := by
  have hbare := not_brings_bareResource (P := P) h payload nowMs
  simp only [GetsAround]
  unfold receivedResourcePacket completedBy
  cases ResourcePart.decode payload with
  | error e =>
      refine ⟨fun hsome => absurd hsome hbare, ?_⟩
      rintro ⟨completion, hnone, _⟩
      cases hnone
  | ok part =>
      dsimp only
      generalize tracker.handlePart P part now = outcome
      obtain ⟨event, tracker'⟩ := outcome
      split
      case h_1 completion _ heq =>
        cases heq
        rw [receivedCompletion_brings_iff h]
        constructor
        · exact fun haround => ⟨completion, rfl, haround⟩
        · rintro ⟨other, heq, haround⟩
          cases heq
          exact haround
      case h_2 progress _ heq =>
        cases heq
        constructor
        · rintro ⟨received, hmem, _⟩
          cases hmem
        · rintro ⟨other, heq, _⟩
          cases heq
      case h_3 hcomplete _ heq =>
        cases heq
        refine ⟨fun hsome => absurd hsome hbare, ?_⟩
        rintro ⟨other, heq, _⟩
        split at heq
        case h_1 found hfound => exact (hcomplete found hfound).elim
        case h_2 => cases heq

-- ------------------------------------------- at most one thing at a time

theorem length_receivedContent_le (count : Bool) (content : Bytes) :
    (receivedContent P sourceHash count content).length ≤ 1 := by
  unfold receivedContent
  split
  case h_1 => exact le_rfl
  case h_2 =>
    split
    case h_1 => exact le_rfl
    case h_2 =>
      split
      case h_1 => exact le_rfl
      case h_2 => exact Nat.zero_le 1

theorem length_receivedResponse_le (content : Bytes) :
    (receivedResponse P sourceHash content).length ≤ 1 := by
  unfold receivedResponse
  split
  case h_1 => exact le_rfl
  case h_2 => exact Nat.zero_le 1

theorem length_receivedBareResource_le (payload : Bytes) :
    (receivedBareResource P sourceHash payload).length ≤ 1 := by
  unfold receivedBareResource
  split
  case h_1 => exact le_rfl
  case h_2 => exact Nat.zero_le 1

theorem length_receivedCompletion_le (requestId : Option Hash16)
    (isResponse count : Bool) (content : Bytes) :
    (receivedCompletion P requestId isResponse sourceHash count
      content).length ≤ 1 := by
  unfold receivedCompletion
  split
  case h_2 => exact length_receivedContent_le count content
  case h_1 =>
    split
    case isTrue => exact length_receivedResponse_le content
    case isFalse =>
      split
      case h_1 => exact le_rfl
      case h_2 => exact Nat.zero_le 1

/-- A payload is classified as at most one thing. -/
theorem length_received_le (arrival : Arrival) (count : Bool)
    (payload : Bytes) :
    (arrival.received P sourceHash count payload).length ≤ 1 := by
  cases arrival with
  | completed isResponse =>
      exact length_receivedCompletion_le none isResponse count payload
  | linkData linkHash =>
      simp only [Arrival.received]
      unfold receivedLinkData
      split
      case h_2 => exact length_receivedContent_le count payload
      case h_1 =>
        split
        case h_1 => exact length_receivedResponse_le payload
        case h_2 =>
          unfold receivedRequest
          split
          case h_1 => exact le_rfl
          case h_2 => exact Nat.zero_le 1
  | resourcePacket tracker now =>
      simp only [Arrival.received]
      unfold receivedResourcePacket
      split
      case h_1 => exact length_receivedBareResource_le payload
      case h_2 =>
        split
        case h_1 => exact length_receivedCompletion_le ..
        case h_2 => exact Nat.zero_le 1
        case h_3 => exact length_receivedBareResource_le payload

end Payloads

/-- A payload of a remote that is refused leaves no new entry exactly
when it does not get around the gate. -/
theorem refused_gains_nothing_iff {σ : Type} (P : Platform)
    (r : LxmfRouter σ) (sourceHash : Option Hash16)
    (h : Refused r sourceHash) (arrival : Arrival) (count : Bool)
    (payload : Bytes) (nowMs : Nat) (sv : Bool) :
    ¬ GainsEntry r (r.afterArrival P arrival sourceHash count payload nowMs
        sv)
      ↔ ¬ GetsAround P r payload arrival := by
  rw [afterArrival, gainsEntry_queue r (length_received_le ..), not_iff_not]
  cases arrival with
  | linkData linkHash => exact receivedLinkData_brings_iff h ..
  | resourcePacket tracker now => exact receivedResourcePacket_brings_iff h ..
  | completed isResponse => exact receivedContent_brings_iff h ..

section AuthenticationInstance

open Reference

/-- A node that asks for authentication, allows nobody and does not check
stamps. -/
def guardedNode : LxmfRouter InMemoryStore :=
  { docNode.clearPropagationValidation with authRequired := true }

theorem guardedNode_refused : Refused guardedNode none :=
  ⟨rfl, fun _ h => nomatch h⟩

/-- A propagation resource of two one-byte messages. -/
def twoMessages : Bytes :=
  [0x92, 0xcb, 0x3f, 0xf0, 0, 0, 0, 0, 0, 0, 0x92, 0xc4, 1, 0x44, 0xc4, 1,
    0x45]

theorem read_twoMessages :
    platform.readValue twoMessages = .ok (.array [.f64 (.fin 1),
      .array [.binary [0x44], .binary [0x45]]]) := by
  decide +kernel

/-- A resource of two messages is refused. -/
theorem refused_gains_nothing_two :
    ¬ GainsEntry guardedNode (guardedNode.afterArrival platform
      (.completed false) none true twoMessages 0 false) := by
  refine (refused_gains_nothing_iff platform guardedNode none
    guardedNode_refused (.completed false) true twoMessages 0 false).mpr ?_
  rintro ⟨_, timestamp, lxmData, rest, entry, hread, _⟩
  rw [read_twoMessages] at hread
  cases hread

/-- A container of one message. -/
def oneMessage : Bytes :=
  [0x92, 0xcb, 0x3f, 0xf0, 0, 0, 0, 0, 0, 0, 0x91, 0xc4, 0x14] ++ docData

theorem oneMessage_stored :
    (guardedNode.afterArrival platform (.completed false) none true
      oneMessage 0 false).propagationStore.has (fullHash platform docData)
      = true := by
  decide +kernel

/-- One message is not. -/
theorem refused_message_stored :
    ¬ ∀ (r : LxmfRouter InMemoryStore) (sourceHash : Option Hash16),
      Refused r sourceHash → ∀ (arrival : Arrival) (payload : Bytes)
        (nowMs : Nat) (sv : Bool),
        ¬ GainsEntry r (r.afterArrival platform arrival sourceHash
          sourceHash.isNone payload nowMs sv) := by
  intro h
  exact h guardedNode none guardedNode_refused (.completed false)
    oneMessage 0 false ⟨_, oneMessage_stored, rfl⟩

end AuthenticationInstance

end LxmfRouter

end Lxmf
