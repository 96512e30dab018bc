/-
At most one copy of an inbound message is accepted.

# Two keys

The duplicate check of `process_inbound_message` reads the identity
`decode` stored, the mark writes the identity of the message after its
stamp was checked, and the check recomputes it. The two are the same
unless the frame is not canonical, so a run in which no such frame gets
past the stamp check accepts every byte string at most once.
-/
import Lxmf.Library.Run
import Lxmf.Router.Inbound
import Lxmf.Proofs.Message
import Lxmf.Proofs.PeerSync

namespace Lxmf

open LXMessage Run

section Stamps

variable {P : Platform}

-- =============================================== what a check can change

/-- What a stamp check leaves of a message: at most the identity has
changed, to the recomputed one, and only on a stamped message. -/
structure StampOutcome (P : Platform) (m m' : LXMessage) : Prop where
  stamp : m'.stamp = m.stamp
  recomputed : m'.recomputedId P = m.recomputedId P
  messageId : m'.messageId = m.messageId
    ∨ (m.stamp.isSome
      ∧ ∃ id, m.recomputedId P = .ok id ∧ m'.messageId = some id)

theorem StampOutcome.refl (m : LXMessage) : StampOutcome P m m :=
  ⟨rfl, rfl, .inl rfl⟩

theorem StampOutcome.trans {m m' m'' : LXMessage}
    (h : StampOutcome P m m') (h' : StampOutcome P m' m'') :
    StampOutcome P m m'' := by
  refine ⟨h'.stamp.trans h.stamp, h'.recomputed.trans h.recomputed, ?_⟩
  rcases h'.messageId with hid | ⟨hs, id, hre, hid⟩
  · rw [hid]
    exact h.messageId
  · rw [h.stamp] at hs
    rw [h.recomputed] at hre
    exact .inr ⟨hs, id, hre, hid⟩

theorem validateDrawnStamp_outcome (m : LXMessage) (cost : Option Nat)
    (stamp : Bytes) (id : Hash32) :
    StampOutcome P m (m.validateDrawnStamp P cost stamp id).2 := by
  unfold validateDrawnStamp
  split
  case h_1 =>
    split
    case h_1 => exact .refl m
    case h_2 =>
      split
      case isTrue => exact ⟨rfl, rfl, .inl rfl⟩
      case isFalse => exact ⟨rfl, rfl, .inl rfl⟩
  case h_2 => exact ⟨rfl, rfl, .inl rfl⟩

theorem validateStamp_outcome (m : LXMessage) (cost : Option Nat)
    (ticket : Option Bytes) :
    StampOutcome P m (m.validateStamp P cost ticket).2 := by
  unfold validateStamp
  dsimp only
  split
  case h_1 => exact ⟨rfl, rfl, .inl rfl⟩
  case h_2 stamp hs =>
    have hchecked : LXMessage.recomputedId P { m with stampChecked := true }
        = m.recomputedId P := rfl
    rw [hchecked]
    split
    case h_1 => exact ⟨rfl, rfl, .inl rfl⟩
    case h_2 id hre =>
      have hid : StampOutcome P m
          { m with stampChecked := true, messageId := some id } :=
        ⟨rfl, rfl, .inr ⟨by rw [hs]; rfl, id, hre, rfl⟩⟩
      split
      case isTrue => exact hid.trans ⟨rfl, rfl, .inl rfl⟩
      case isFalse => exact hid.trans (validateDrawnStamp_outcome ..)

theorem tryTickets_outcome (cost : Nat) (tickets : List Bytes)
    (m : LXMessage) : StampOutcome P m (tryTickets P cost tickets m).2 := by
  induction tickets generalizing m with
  | nil => exact .refl m
  | cons ticket tickets ih =>
      have hv := validateStamp_outcome (P := P) m (some cost) (some ticket)
      unfold tryTickets
      split
      case h_1 heq =>
        rw [heq] at hv
        exact hv
      case h_2 heq =>
        rw [heq] at hv
        exact hv.trans (ih _)

theorem validateStampWithTickets_outcome (m : LXMessage) (cost : Nat)
    (tickets : Option (List Bytes)) :
    StampOutcome P m (validateStampWithTickets P m cost tickets).2 := by
  have ht := tryTickets_outcome (P := P) cost (tickets.getD []) m
  unfold validateStampWithTickets
  split
  case h_1 heq =>
    rw [heq] at ht
    exact ht
  case h_2 m' heq =>
    rw [heq] at ht
    have hv := validateStamp_outcome (P := P) m' (some cost) none
    split
    case h_1 heq' =>
      rw [heq'] at hv
      exact ht.trans hv
    case h_2 heq' =>
      rw [heq'] at hv
      exact ht.trans hv

end Stamps

-- ============================================ one inbound message

section Delivery

variable {σ : Type} {P : Platform}

namespace LxmfRouter

/-- What a stamp check reads of a router. -/
theorem checkInboundStamp_congr {r r' : LxmfRouter σ}
    (hcosts : r'.inboundStampCosts = r.inboundStampCosts)
    (hissued : r'.ticketStore.inbound = r.ticketStore.inbound)
    (m : LXMessage) (nowMs : Nat) :
    r'.checkInboundStamp P m nowMs = r.checkInboundStamp P m nowMs := by
  unfold checkInboundStamp TicketStore.getInboundTickets
    TicketStore.issued
  rw [hcosts, hissued]

/-- Learning a ticket touches the tickets to send with and nothing the
rest of `process_inbound_message` reads. -/
theorem learnTicket_frame (r : LxmfRouter σ) (m : LXMessage)
    (nowMs : Nat) :
    (r.learnTicket P m nowMs).localDeliveries = r.localDeliveries
      ∧ (r.learnTicket P m nowMs).enforceStamps = r.enforceStamps
      ∧ (r.learnTicket P m nowMs).inboundStampCosts = r.inboundStampCosts
      ∧ (r.learnTicket P m nowMs).ticketStore.inbound
        = r.ticketStore.inbound := by
  unfold learnTicket
  split
  case h_1 =>
    split
    case isTrue => exact ⟨rfl, rfl, rfl, rfl⟩
    case isFalse => exact ⟨rfl, rfl, rfl, rfl⟩
  case h_2 => exact ⟨rfl, rfl, rfl, rfl⟩

theorem markDelivered_localDeliveries (r : LxmfRouter σ) (m : LXMessage)
    (nowMs : Nat) :
    (r.markDelivered P m nowMs).localDeliveries =
      match m.messageId with
      | some id => r.localDeliveries.insert id (nowS nowMs)
      | none => r.localDeliveries := by
  unfold markDelivered
  cases m.messageId with
  | none => rfl
  | some id => rfl

/-- The stamp check does not stand in the way: it passed, or nothing is
enforced. -/
def StampAdmits (r : LxmfRouter σ) (valid noStampEnforcement : Bool) :
    Prop :=
  valid = true ∨ r.enforceStamps = false ∨ noStampEnforcement = true

/-- What one call of `process_inbound_message` does to the record of
delivered messages. -/
theorem processInboundMessage_cases {r r' : LxmfRouter σ}
    {m : LXMessage} {nowMs : Nat} {sv ne : Bool} {result : Option LXMessage}
    (h : r.processInboundMessage P m nowMs sv ne = (result, r')) :
    (result = none ∧ r'.localDeliveries = r.localDeliveries)
    ∨ ∃ valid m', r.alreadyDelivered m = false
      ∧ r.checkInboundStamp P m nowMs = (valid, m')
      ∧ r.StampAdmits valid ne
      ∧ result = some m'
      ∧ r'.localDeliveries =
        match m'.messageId with
        | some id => r.localDeliveries.insert id (nowS nowMs)
        | none => r.localDeliveries := by
  unfold processInboundMessage at h
  split at h
  case isTrue =>
    cases h
    exact .inl ⟨rfl, rfl⟩
  case isFalse =>
    split at h
    case isTrue =>
      cases h
      exact .inl ⟨rfl, rfl⟩
    case isFalse hnew =>
      generalize hl : (if sv = true then r.learnTicket P m nowMs else r)
        = learned at h
      have hframe : learned.localDeliveries = r.localDeliveries
          ∧ learned.enforceStamps = r.enforceStamps
          ∧ learned.inboundStampCosts = r.inboundStampCosts
          ∧ learned.ticketStore.inbound = r.ticketStore.inbound := by
        rw [← hl]
        split
        case isTrue => exact learnTicket_frame r m nowMs
        case isFalse => exact ⟨rfl, rfl, rfl, rfl⟩
      obtain ⟨hdel, henf, hcosts, hissued⟩ := hframe
      have hcheck := checkInboundStamp_congr (P := P) hcosts hissued m nowMs
      rcases hv : learned.checkInboundStamp P m nowMs with ⟨valid, m'⟩
      simp only [hv] at h
      split at h
      case isTrue =>
        cases h
        exact .inl ⟨rfl, hdel⟩
      case isFalse hadm =>
        cases h
        rw [hv] at hcheck
        refine .inr ⟨valid, m', by simpa using hnew, hcheck.symm, ?_, rfl,
          ?_⟩
        · rw [henf] at hadm
          unfold StampAdmits
          revert hadm
          cases valid <;> cases r.enforceStamps <;> cases ne <;> simp
        · rw [markDelivered_localDeliveries, hdel]

end LxmfRouter

end Delivery

-- ====================================== at most one delivery, every run

section AtMostOnce

variable {σ : Type} {P : Platform}

/-- A router and the byte strings whose message it accepted, in order. -/
structure InboundRun (σ : Type) where
  router : LxmfRouter σ
  accepted : List Bytes

/-- The operations that do not shrink the record of delivered
messages. -/
inductive InboundAction where
  | process (bytes : Bytes) (nowMs : Nat)
      (signatureValidated noStampEnforcement : Bool)
  | setInboundStampCost (destinationHash : Hash16)
      (stampCost : Option Nat)
  | generateTicket (destinationHash : Hash16) (nowMs : Nat) (rng : OsRng)
  | rememberTicket (destinationHash : Hash16) (expiresAtS : F64)
      (ticket : Bytes)
  | markTicketDelivered (destinationHash : Hash16) (nowMs : Nat)
  | cleanTickets (nowMs : Nat)

/-- A decoded byte string is processed, and recorded if accepted. -/
def InboundRun.process (P : Platform) (s : InboundRun σ) (bytes : Bytes)
    (message : LXMessage) (nowMs : Nat)
    (signatureValidated noStampEnforcement : Bool) : InboundRun σ :=
  let (result, router) := s.router.processInboundMessage P message nowMs
    signatureValidated noStampEnforcement
  { router := router
    accepted :=
      if result.isSome then s.accepted ++ [bytes] else s.accepted }

def InboundRun.apply (P : Platform) (a : InboundAction)
    (s : InboundRun σ) : Option (InboundRun σ) :=
  match a with
  | .process bytes nowMs signatureValidated noStampEnforcement =>
      match decode P bytes with
      | .ok message =>
          some (s.process P bytes message nowMs signatureValidated
            noStampEnforcement)
      | .error _ => none
  | .setInboundStampCost dest cost =>
      some { s with router := s.router.setInboundStampCost dest cost }
  | .generateTicket dest nowMs rng =>
      some { s with router := (s.router.generateTicket P dest nowMs rng).2 }
  | .rememberTicket dest expiresAtS ticket =>
      some { s with
        router := s.router.rememberTicket P dest expiresAtS ticket }
  | .markTicketDelivered dest nowMs =>
      some { s with router := s.router.markTicketDelivered P dest nowMs }
  | .cleanTickets nowMs =>
      some { s with router := s.router.cleanTickets P nowMs }

/-- The call would mark another identity than it checks: the frame is
not canonical, and its stamp is checked and stands in no one's way. -/
def Remarks (P : Platform) (r : LxmfRouter σ) (bytes : Bytes)
    (m : LXMessage) (nowMs : Nat) (noStampEnforcement : Bool) : Prop :=
  canonicalPayload P bytes = false ∧ m.stamp.isSome
    ∧ m.destinationHash ∈ r.inboundStampCosts
    ∧ r.StampAdmits (r.checkInboundStamp P m nowMs).1 noStampEnforcement

/-- The step does not process such a frame. -/
def MarksWhatItChecks (P : Platform) (s : InboundRun σ)
    (a : InboundAction) : Prop :=
  match a with
  | .process bytes nowMs _ noStampEnforcement =>
      ∀ m, decode P bytes = .ok m →
        ¬ Remarks P s.router bytes m nowMs noStampEnforcement
  | _ => True

/-- The message of these bytes is recorded as delivered. -/
def Recorded (P : Platform) (r : LxmfRouter σ) (bytes : Bytes) : Prop :=
  ∃ m id, decode P bytes = .ok m ∧ m.messageId = some id
    ∧ id ∈ r.localDeliveries

/-- What was accepted is recorded, and was accepted once. -/
structure InboundInv (P : Platform) (s : InboundRun σ) : Prop where
  nodup : s.accepted.Nodup
  recorded : ∀ bytes ∈ s.accepted, Recorded P s.router bytes

/-- An accepted message keeps the identity it was decoded with. -/
theorem messageId_of_marksWhatItChecks {r : LxmfRouter σ} {bytes : Bytes}
    {m m' : LXMessage} {nowMs : Nat} {ne valid : Bool}
    (hd : decode P bytes = .ok m)
    (hok : ¬ Remarks P r bytes m nowMs ne)
    (hcheck : r.checkInboundStamp P m nowMs = (valid, m'))
    (hadm : r.StampAdmits valid ne) : m'.messageId = m.messageId := by
  unfold LxmfRouter.checkInboundStamp at hcheck
  split at hcheck
  case h_2 =>
    cases hcheck
    rfl
  case h_1 cost hcost =>
    have hout := validateStampWithTickets_outcome (P := P) m cost
      (r.ticketStore.getInboundTickets m.sourceHash nowMs)
    rw [hcheck] at hout
    rcases hout.messageId with hid | ⟨hstamp, id, hre, hid⟩
    · exact hid
    · cases hcan : canonicalPayload P bytes with
      | true =>
          obtain ⟨id', hid', hre'⟩ := recomputedId_of_canonical hd hcan
          rw [hre] at hre'
          injection hre' with hre'
          rw [hid, hid', hre']
      | false =>
          refine absurd ⟨hcan, hstamp, ?_, ?_⟩ hok
          · exact HashMap.mem_iff_lookup.mpr ⟨_, hcost⟩
          · have : (r.checkInboundStamp P m nowMs).1 = valid := by
              unfold LxmfRouter.checkInboundStamp
              rw [hcost]
              exact congrArg Prod.fst hcheck
            rw [this]
            exact hadm

/-- Marks are only added. -/
theorem Recorded.mono {r r' : LxmfRouter σ} {bytes : Bytes}
    (h : Recorded P r bytes)
    (hsub : ∀ id, id ∈ r.localDeliveries → id ∈ r'.localDeliveries) :
    Recorded P r' bytes := by
  obtain ⟨m, id, hd, hid, hmem⟩ := h
  exact ⟨m, id, hd, hid, hsub id hmem⟩

theorem inv_process {s : InboundRun σ} {bytes : Bytes} {m : LXMessage}
    {nowMs : Nat} {sv ne : Bool} (hinv : InboundInv P s)
    (hd : decode P bytes = .ok m)
    (hok : ¬ Remarks P s.router bytes m nowMs ne) :
    InboundInv P (s.process P bytes m nowMs sv ne) := by
  unfold InboundRun.process
  generalize hp : s.router.processInboundMessage P m nowMs sv ne = step
  obtain ⟨result, router⟩ := step
  dsimp only
  rcases LxmfRouter.processInboundMessage_cases hp with
    ⟨rfl, hkeep⟩ | ⟨valid, m', hnew, hcheck, hadm, rfl, hmark⟩
  · refine ⟨hinv.nodup, fun b hb => (hinv.recorded b hb).mono ?_⟩
    intro id hid
    rw [hkeep]
    exact hid
  · obtain ⟨_, _, _, _, _, _, _, _, _, _, _, _, hid⟩ := decode_identities hd
    rw [messageId_of_marksWhatItChecks hd hok hcheck hadm, hid] at hmark
    have hfresh : bytes ∉ s.accepted := by
      intro hb
      obtain ⟨m₀, id₀, hd₀, hid₀, hmem⟩ := hinv.recorded bytes hb
      rw [hd] at hd₀
      cases hd₀
      unfold LxmfRouter.alreadyDelivered at hnew
      rw [hid₀] at hnew
      exact absurd hmem (of_decide_eq_false hnew)
    refine ⟨?_, ?_⟩
    · exact List.nodup_append_comm.mp
        (List.nodup_cons.mpr ⟨hfresh, hinv.nodup⟩)
    · intro b hb
      rcases List.mem_append.mp hb with hb | hb
      · refine (hinv.recorded b hb).mono ?_
        intro id hmem
        rw [hmark]
        exact (AList.mem_insert _).mpr (.inr hmem)
      · rw [List.mem_singleton.mp hb]
        refine ⟨m, _, hd, hid, ?_⟩
        rw [hmark]
        exact (AList.mem_insert _).mpr (.inl rfl)

/-- A step that leaves the record of delivered messages alone. -/
theorem InboundInv.frame {s : InboundRun σ} (hinv : InboundInv P s)
    {router : LxmfRouter σ}
    (hkeep : router.localDeliveries = s.router.localDeliveries) :
    InboundInv P { s with router := router } := by
  refine ⟨hinv.nodup, fun b hb => (hinv.recorded b hb).mono ?_⟩
  intro id hid
  rw [hkeep]
  exact hid

theorem generateTicket_localDeliveries (r : LxmfRouter σ) (dest : Hash16)
    (nowMs : Nat) (rng : OsRng) :
    (r.generateTicket P dest nowMs rng).2.localDeliveries
      = r.localDeliveries := by
  unfold LxmfRouter.generateTicket
  split
  case h_1 => rfl
  case h_2 => rfl

theorem setInboundStampCost_localDeliveries (r : LxmfRouter σ)
    (dest : Hash16) (cost : Option Nat) :
    (r.setInboundStampCost dest cost).localDeliveries
      = r.localDeliveries := by
  unfold LxmfRouter.setInboundStampCost
  split
  case h_1 => rfl
  case h_2 => rfl

theorem inbound_inv_step (s : InboundRun σ) (a : InboundAction)
    (s' : InboundRun σ) (hinv : InboundInv P s)
    (hok : MarksWhatItChecks P s a)
    (h : InboundRun.apply P a s = some s') : InboundInv P s' := by
  cases a with
  | process bytes nowMs sv ne =>
      unfold InboundRun.apply at h
      dsimp only at h
      split at h
      case h_2 => cases h
      case h_1 m hd =>
        cases h
        exact inv_process hinv hd (hok m hd)
  | setInboundStampCost dest cost =>
      cases h
      exact hinv.frame (setInboundStampCost_localDeliveries ..)
  | generateTicket dest nowMs rng =>
      cases h
      exact hinv.frame (generateTicket_localDeliveries ..)
  | rememberTicket dest expiresAtS ticket =>
      cases h
      exact hinv.frame rfl
  | markTicketDelivered dest nowMs =>
      cases h
      exact hinv.frame rfl
  | cleanTickets nowMs =>
      cases h
      exact hinv.frame rfl

/-- In every run, from any router, in which no call remarks a message,
every byte string is accepted at most once. -/
theorem accepted_at_most_once (r₀ : LxmfRouter σ) (s : InboundRun σ)
    (h : Reaches (InboundRun.apply P) (MarksWhatItChecks P) ⟨r₀, []⟩ s) :
    s.accepted.Nodup := by
  have hinv : InboundInv P s := by
    refine h.invariant ⟨List.nodup_nil, ?_⟩ inbound_inv_step
    intro bytes hb
    cases hb
  exact hinv.nodup

end AtMostOnce

section AtMostOnceInstance

open Reference

/-- The example, processed twice, is accepted once. -/
theorem accepted_at_most_once_doc :
    ∃ s, Reaches (InboundRun.apply platform) (MarksWhatItChecks platform)
        ⟨docNode, []⟩ s
      ∧ s.accepted = [docFrame] ∧ s.accepted.Nodup := by
  have hcan : canonicalPayload platform docFrame = true := by
    decide +kernel
  have hok : ∀ s : InboundRun InMemoryStore,
      MarksWhatItChecks platform s (.process docFrame 0 false false) := by
    rintro s m - ⟨hnot, _⟩
    rw [hcan] at hnot
    cases hnot
  have hrun : ((run (InboundRun.apply platform)
      [.process docFrame 0 false false, .process docFrame 0 false false]
      ⟨docNode, []⟩).map (·.accepted)) = some [docFrame] := by
    decide +kernel
  obtain ⟨s, hs, hacc⟩ := Option.map_eq_some_iff.mp hrun
  have hreach : Reaches (InboundRun.apply platform)
      (MarksWhatItChecks platform) ⟨docNode, []⟩ s := by
    refine reaches_of_run ?_ hs
    intro a ha
    simp only [List.mem_cons, List.not_mem_nil, or_false, or_self] at ha
    rw [ha]
    exact hok
  exact ⟨s, hreach, hacc, accepted_at_most_once docNode s hreach⟩

/-- The example with an integer timestamp and the stamp of a ticket of
sixteen zero bytes. -/
def stampedIntegerFrame : Bytes :=
  frame docMessage.destinationHash docMessage.sourceHash docSignature
    [0x95, 0xce, 0x65, 0x53, 0xf1, 0x00, 0xc4, 0x02, 0x68, 0x69, 0xc4,
     0x05, 0x68, 0x65, 0x6c, 0x6c, 0x6f, 0x80, 0xc4, 0x10, 0x55, 0x76,
     0x5b, 0xd6, 0x43, 0xf7, 0x31, 0x69, 0x27, 0xab, 0x49, 0x5e, 0xaa,
     0x29, 0x75, 0x01]

/-- With a stamp cost and the ticket in place, the same byte string is
accepted twice in a row. -/
theorem stampedIntegerFrame_accepted_twice :
    ((run (InboundRun.apply platform)
      [.setInboundStampCost docMessage.destinationHash (some 8),
       .generateTicket docMessage.sourceHash 0 (fun _ => 0),
       .process stampedIntegerFrame 0 false false,
       .process stampedIntegerFrame 0 false false]
      ⟨docNode, []⟩).map (·.accepted))
        = some [stampedIntegerFrame, stampedIntegerFrame] := by
  decide +kernel

end AtMostOnceInstance

end Lxmf
