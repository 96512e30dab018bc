/-
When receipts of resources are final
(reticulum-patched/src/resource.rs: `handle_proof`, `mark_failed`,
`poll_retry`; lxmf-rs/src/rns/transport.rs:
`handle_link_event_inner`, `retry_outgoing_resources`).

# Who asks

Of the writers of a status only the retry asks whether the receipt is
concluded already, and it is the retry that takes a concluded entry out
of the map. Up to then a proof and a cancel find the entry, and conclude
its receipt once more. `RequestTracker` takes its entry out in the step
that concludes it, and has no such gap (Proofs/RequestReceipts.lean).

# The shape of the argument

A control frame either leaves the receipts alone (`step_quiet`) or
concludes that of one entry (`step_concludes`). To conclude an open
receipt moves it forward (`Sound.conclude`); to conclude a concluded one
writes its `concluded_at` for the second time (`conclude_again`). So the
receipts of a run are final exactly when every control frame in it comes
in time.
-/
import Lxmf.Library.Cells
import Lxmf.Library.Run
import Lxmf.Proofs.HashUpdates
import Lxmf.Proofs.Resource
import Lxmf.ResourceReceipts

namespace Lxmf

open Cells

-- =============================================================== frames

theorem ResourceProof.decode_encode (proof : ResourceProof) :
    ResourceProof.decode proof.encode = .ok proof := by
  have hlen : ¬proof.encode.length < resourceProofLen := by
    unfold encode resourceProofLen
    rw [List.length_cons, List.length_append, List.Vector.toList_length,
      List.length_singleton]
    omega
  unfold decode
  rw [if_neg hlen]
  unfold encode
  dsimp only
  rw [if_neg (not_not_intro rfl), splitFixed_append]

theorem ResourceCancel.decode_encode (cancel : ResourceCancel) :
    ResourceCancel.decode cancel.encode = .ok cancel := by
  have hlen : ¬cancel.encode.length < resourceCancelLen := by
    unfold encode resourceCancelLen
    rw [List.length_cons, List.Vector.toList_length]
    omega
  have hsplit := splitFixed_append cancel.resourceId []
  rw [List.append_nil] at hsplit
  unfold decode
  rw [if_neg hlen]
  unfold encode
  dsimp only
  rw [if_neg (not_not_intro rfl), hsplit]

-- ============================================================= receipts

/-- A status that concludes. -/
def ResourceReceiptStatus.Terminal (status : ResourceReceiptStatus) : Prop :=
  status = .completed ∨ status = .failed

instance (status : ResourceReceiptStatus) : Decidable status.Terminal :=
  inferInstanceAs (Decidable (status = .completed ∨ status = .failed))

theorem ResourceReceiptStatus.terminal_or_sent
    (status : ResourceReceiptStatus) : status.Terminal ∨ status = .sent := by
  cases status with
  | sent => exact .inr rfl
  | completed => exact .inl (.inl rfl)
  | failed => exact .inl (.inr rfl)

namespace ResourceReceipt

variable {receipt later last : ResourceReceipt}

/-- Once concluded, a receipt stays as it is. -/
def Settles (receipt later : ResourceReceipt) : Prop :=
  receipt.status.Terminal → later = receipt

theorem Settles.refl (receipt : ResourceReceipt) : receipt.Settles receipt :=
  fun _ => rfl

theorem Settles.trans (h : receipt.Settles later) (h' : later.Settles last) :
    receipt.Settles last := by
  intro hterminal
  have hlater := h hterminal
  subst hlater
  exact h' hterminal

/-- `concluded_at` was written once if the receipt is concluded, and
never if it is not. -/
structure ConcludedOnce (receipt : ResourceReceipt) (handle : Nat)
    (concluded : List Nat) : Prop where
  isSome : receipt.concludedAt.isSome = true ↔ receipt.status.Terminal
  count : concluded.count handle = if receipt.status.Terminal then 1 else 0

end ResourceReceipt

-- ============================================================= the node

namespace ResourceNode

/-- Every receipt is concluded once or not at all. -/
def OnceEach (s : ResourceNode) : Prop :=
  ∀ (handle : Nat) (receipt : ResourceReceipt),
    s.receipts[handle]? = some receipt →
      receipt.ConcludedOnce handle s.concluded

/-- An entry is kept by its id and has a receipt, and every receipt
agrees with the writes so far. -/
structure Sound (s : ResourceNode) : Prop where
  entries : ∀ id entry, s.outgoing.lookup id = some entry →
    entry.state.resourceId = id ∧ entry.receipt < s.receipts.length
  once : s.OnceEach
  concluded : ∀ handle ∈ s.concluded, handle < s.receipts.length

/-- Still sound, and no concluded receipt has changed. -/
structure Advances (s s' : ResourceNode) : Prop where
  sound : s'.Sound
  forward : Forward ResourceReceipt.Settles s.receipts s'.receipts

/-- The same but for the trackers. -/
structure Same (s s' : ResourceNode) : Prop where
  outgoing : s'.outgoing = s.outgoing
  receipts : s'.receipts = s.receipts
  concluded : s'.concluded = s.concluded

variable {s s' s'' : ResourceNode} {id : Hash16} {entry : OutgoingResource}
  {receipt : ResourceReceipt} {handle : Nat}
  {status : ResourceReceiptStatus}

theorem Same.refl (s : ResourceNode) : Same s s := ⟨rfl, rfl, rfl⟩

theorem Same.trans (h : Same s s') (h' : Same s' s'') : Same s s'' :=
  ⟨h'.outgoing.trans h.outgoing, h'.receipts.trans h.receipts,
    h'.concluded.trans h.concluded⟩

theorem Same.conclude (h : Same s s') (handle : Nat)
    (status : ResourceReceiptStatus) (now : Nat) :
    Same (s.conclude handle status now) (s'.conclude handle status now) := by
  refine ⟨h.outgoing, ?_, ?_⟩
  · show s'.receipts.modify handle _ = s.receipts.modify handle _
    rw [h.receipts]
  · show s'.concluded ++ [handle] = s.concluded ++ [handle]
    rw [h.concluded]

theorem same_deliverRequest (s : ResourceNode) (entry : OutgoingResource) :
    Same s (s.deliverRequest entry) := by
  unfold deliverRequest
  split
  case h_1 => exact ⟨rfl, rfl, rfl⟩
  case h_2 => exact .refl s

theorem same_failRequest (s : ResourceNode) (entry : OutgoingResource)
    (now : Nat) : Same s (s.failRequest entry now) := by
  unfold failRequest
  split
  case h_1 => exact ⟨rfl, rfl, rfl⟩
  case h_2 => exact .refl s

theorem same_cancelIncoming (s : ResourceNode) (id : Hash16) (now : Nat) :
    Same s (s.cancelIncoming id now) := by
  unfold cancelIncoming
  split
  case h_1 => exact ⟨rfl, rfl, rfl⟩
  case h_2 =>
    dsimp only
    split
    case isTrue => split <;> exact ⟨rfl, rfl, rfl⟩
    case isFalse => exact ⟨rfl, rfl, rfl⟩

theorem Same.onceEach (h : Same s s') (honce : s'.OnceEach) :
    s.OnceEach := by
  intro handle receipt hreceipt
  rw [← h.receipts] at hreceipt
  have hreceipt' := honce handle receipt hreceipt
  rw [h.concluded] at hreceipt'
  exact hreceipt'

theorem sound_start (tracker : ResourceTracker) (requests : RequestTracker) :
    (start tracker requests).Sound := by
  refine ⟨fun id entry h => ?_, fun handle receipt h => ?_,
    List.forall_mem_nil _⟩
  · cases h
  · cases h

theorem Advances.refl (h : s.Sound) : s.Advances s :=
  ⟨h, Forward.refl ResourceReceipt.Settles.refl _⟩

theorem Advances.trans (h : s.Advances s') (h' : s'.Advances s'') :
    s.Advances s'' :=
  ⟨h'.sound, h.forward.trans (fun _ _ _ => ResourceReceipt.Settles.trans)
    h'.forward⟩

-- ==================================================== single operations

/-- The entries change, of which each keeps its id and its receipt. -/
theorem Sound.change (h : s.Sound) (hreceipts : s'.receipts = s.receipts)
    (hconcluded : s'.concluded = s.concluded)
    (hentries : ∀ id entry, s'.outgoing.lookup id = some entry →
      ∃ old, s.outgoing.lookup id = some old
        ∧ entry.state.resourceId = old.state.resourceId
        ∧ entry.receipt = old.receipt) : s.Advances s' := by
  refine ⟨⟨fun id entry hentry => ?_, ?_, ?_⟩, ?_⟩
  · obtain ⟨old, hold, hid, hhandle⟩ := hentries id entry hentry
    rw [hid, hhandle, hreceipts]
    exact h.entries id old hold
  · intro handle receipt hreceipt
    rw [hreceipts] at hreceipt
    rw [hconcluded]
    exact h.once handle receipt hreceipt
  · rw [hconcluded, hreceipts]
    exact h.concluded
  · rw [hreceipts]
    exact Forward.refl ResourceReceipt.Settles.refl _

theorem Sound.same (h : s.Sound) (hsame : Same s s') : s.Advances s' := by
  refine h.change hsame.receipts hsame.concluded fun id entry hentry => ?_
  rw [hsame.outgoing] at hentry
  exact ⟨entry, hentry, rfl, rfl⟩

theorem Sound.remove (h : s.Sound) (id : Hash16) :
    s.Advances (s.remove id) := by
  refine h.change rfl rfl fun other entry hentry => ?_
  exact ⟨entry, (HashMap.lookup_of_lookup_erase hentry).2, rfl, rfl⟩

/-- An entry is written back. -/
theorem Sound.put (h : s.Sound) (hentry : s.outgoing.lookup id = some entry)
    {later : OutgoingResource}
    (hid : later.state.resourceId = entry.state.resourceId)
    (hhandle : later.receipt = entry.receipt) :
    s.Advances (s.put id later) := by
  refine h.change rfl rfl fun other found hfound => ?_
  unfold ResourceNode.put at hfound
  dsimp only at hfound
  by_cases heq : other = id
  · subst heq
    rw [AList.lookup_insert] at hfound
    cases hfound
    exact ⟨entry, hentry, hid, hhandle⟩
  · rw [AList.lookup_insert_ne heq] at hfound
    exact ⟨found, hfound, rfl, rfl⟩

theorem Sound.exists_receipt (h : s.Sound)
    (hentry : s.outgoing.lookup id = some entry) :
    ∃ receipt, s.receipts[entry.receipt]? = some receipt
      ∧ s.status entry = some receipt.status := by
  have hlt := (h.entries id entry hentry).2
  refine ⟨s.receipts[entry.receipt], List.getElem?_eq_getElem hlt, ?_⟩
  unfold ResourceNode.status
  rw [List.getElem?_eq_getElem hlt]
  rfl

/-- An open receipt is concluded: no other changes, and this is the first
write of its `concluded_at`. -/
theorem Sound.conclude (h : s.Sound)
    (hreceipt : s.receipts[handle]? = some receipt)
    (hsent : receipt.status = .sent) (hstatus : status.Terminal)
    (now : Nat) : s.Advances (s.conclude handle status now) := by
  have hlt := (List.getElem?_eq_some_iff.mp hreceipt).choose
  have hopen : ¬receipt.status.Terminal := by
    rw [hsent]
    decide
  unfold ResourceNode.conclude
  refine ⟨⟨fun id entry hentry => ?_, fun other found hfound => ?_,
    fun other hother => ?_⟩, ?_⟩
  · rw [List.length_modify]
    exact h.entries id entry hentry
  · dsimp only
    rcases of_modify hfound with ⟨rfl, old, hold, rfl⟩ | ⟨hne, hold⟩
    · cases hreceipt.symm.trans hold
      have hcount := (h.once handle receipt hreceipt).count
      rw [if_neg hopen] at hcount
      refine ⟨iff_of_true rfl hstatus, ?_⟩
      rw [if_pos hstatus, List.count_append, hcount,
        List.count_singleton_self]
    · have hold' := h.once other found hold
      refine ⟨hold'.isSome, ?_⟩
      have hnot : other ∉ [handle] := fun hmem =>
        hne (List.mem_singleton.mp hmem).symm
      rw [List.count_append, List.count_eq_zero.mpr hnot]
      exact hold'.count
  · rw [List.length_modify]
    rcases List.mem_append.mp hother with hold | hnew
    · exact h.concluded other hold
    · rw [List.mem_singleton.mp hnew]
      exact hlt
  · refine forward_modify ResourceReceipt.Settles.refl fun found hfound => ?_
    cases hreceipt.symm.trans hfound
    exact fun hterminal => absurd hterminal hopen

/-- A concluded receipt is concluded again. -/
theorem conclude_again (h : s.OnceEach)
    (hreceipt : s.receipts[handle]? = some receipt)
    (hterminal : receipt.status.Terminal) (hstatus : status.Terminal)
    (now : Nat) : ¬(s.conclude handle status now).OnceEach := by
  intro honce
  have hlater : (s.receipts.modify handle fun receipt =>
      { receipt with status := status, concludedAt := some now })[handle]?
      = some { receipt with status := status, concludedAt := some now } := by
    rw [List.getElem?_modify_eq, hreceipt]
    rfl
  have hcount : (s.concluded ++ [handle]).count handle
      = if status.Terminal then 1 else 0 := (honce handle _ hlater).count
  have hbefore := (h handle receipt hreceipt).count
  rw [if_pos hterminal] at hbefore
  rw [if_pos hstatus, List.count_append, hbefore,
    List.count_singleton_self] at hcount
  exact absurd hcount (by decide)

-- ======================================================= control frames

end ResourceNode

/-- A control frame is to conclude the resource of an id. -/
def ResourceNodeEvent.Concludes (id : Hash16) : ResourceNodeEvent → Prop
  | .cancel payload _ _ => ResourceCancel.decode payload = .ok ⟨id⟩
  | .proof payload _ =>
      ∃ status, ResourceProof.decode payload = .ok ⟨id, status⟩
  | _ => False

namespace ResourceNode

/-- A control frame comes in time: it names no outgoing resource, or one
the receipt of which is not concluded. -/
def Timely (s : ResourceNode) (event : ResourceNodeEvent) : Prop :=
  ∀ id entry, event.Concludes id →
    s.outgoing.lookup id = some entry → s.status entry = some .sent

variable {s s' s'' : ResourceNode} {id : Hash16} {entry : OutgoingResource}
  {receipt : ResourceReceipt} {event : ResourceNodeEvent}

/-- A control frame that names an outgoing resource concludes the receipt
of it. -/
theorem step_concludes (P : Platform) (h : s.Sound)
    (hevent : event.Concludes id)
    (hentry : s.outgoing.lookup id = some entry) :
    ∃ status now, status.Terminal
      ∧ Same (s.conclude entry.receipt status now) (s.step P event) := by
  cases event with
  | cancel payload now clock =>
      have hdecode : ResourceCancel.decode payload = .ok ⟨id⟩ := hevent
      have hcancel := same_cancelIncoming s id (clock 0)
      refine ⟨.failed, now, .inr rfl, ?_⟩
      show Same _ (s.receivedCancel payload now clock)
      unfold receivedCancel
      rw [hdecode]
      dsimp only
      rw [hcancel.outgoing, hentry]
      exact (hcancel.conclude entry.receipt .failed now).trans
        (same_failRequest _ entry (clock 1))
  | proof payload clock =>
      obtain ⟨status, hdecode⟩ := hevent
      refine ⟨if status = resourceProofStatusOk then .completed
        else .failed, clock 0, ?_, ?_⟩
      · split
        case isTrue => exact .inl rfl
        case isFalse => exact .inr rfl
      · have hkeyed := (h.entries _ entry hentry).1
        show Same _ (s.receivedProof payload clock)
        unfold receivedProof
        rw [hdecode]
        dsimp only
        rw [hentry]
        dsimp only
        unfold handleProof
        rw [if_neg (not_not_intro hkeyed.symm)]
        dsimp only
        split
        case isTrue => exact same_deliverRequest _ entry
        case isFalse => exact same_failRequest _ entry (clock 1)
  | send resource sentAt => cases hevent
  | request payload now => cases hevent
  | retry now clock => cases hevent
  | elsewhere tracker requests => cases hevent

/-- One that names none leaves the receipts alone. -/
theorem receivedCancel_quiet {payload : Bytes} {now : Nat}
    {clock : Nat → Nat}
    (h : ∀ id, ResourceCancel.decode payload = .ok ⟨id⟩ →
      s.outgoing.lookup id = none) :
    Same s (s.receivedCancel payload now clock) := by
  unfold receivedCancel
  split
  case h_1 => exact .refl s
  case h_2 cancel hdecode =>
    have hcancel := same_cancelIncoming s cancel.resourceId (clock 0)
    dsimp only
    rw [hcancel.outgoing, h cancel.resourceId hdecode]
    exact hcancel

theorem receivedProof_quiet {payload : Bytes} {clock : Nat → Nat}
    (h : ∀ id status, ResourceProof.decode payload = .ok ⟨id, status⟩ →
      s.outgoing.lookup id = none) :
    Same s (s.receivedProof payload clock) := by
  unfold receivedProof
  split
  case h_1 => exact .refl s
  case h_2 proof hdecode =>
    rw [h proof.resourceId proof.status hdecode]
    exact .refl s

-- ====================================================== the other events

theorem Sound.send (h : s.Sound) (P : Platform) (resource : Outgoing)
    (sentAt : Nat) : s.Advances (s.step P (.send resource sentAt)) := by
  unfold ResourceNode.step
  dsimp only
  unfold ResourceNode.send
  cases hnew : ResourceSendState.new P resource.data resource.partSize
      resource.requestId resource.isResponse resource.isRequest
      resource.now with
  | error e => exact .refl h
  | ok state =>
      refine ⟨⟨fun id entry hentry => ?_, fun handle receipt hreceipt => ?_,
        fun handle hhandle => ?_⟩,
        forward_append ResourceReceipt.Settles.refl _ _⟩
      · show _ ∧ _ < (s.receipts ++ [_]).length
        rw [List.length_append, List.length_singleton]
        change (s.outgoing.insert state.resourceId _).lookup id = _ at hentry
        by_cases heq : id = state.resourceId
        · subst heq
          rw [AList.lookup_insert] at hentry
          cases hentry
          exact ⟨rfl, Nat.lt_succ_self _⟩
        · rw [AList.lookup_insert_ne heq] at hentry
          obtain ⟨hid, hlt⟩ := h.entries id entry hentry
          exact ⟨hid, Nat.lt_succ_of_lt hlt⟩
      · change (s.receipts ++ [_])[handle]? = _ at hreceipt
        show receipt.ConcludedOnce handle s.concluded
        rcases of_concat hreceipt with hold | ⟨rfl, rfl⟩
        · exact h.once handle receipt hold
        · have hnot : s.receipts.length ∉ s.concluded := fun hmem =>
            Nat.lt_irrefl _ (h.concluded _ hmem)
          have hsent : ¬ResourceReceiptStatus.sent.Terminal := by decide
          refine ⟨iff_of_false Bool.false_ne_true hsent, ?_⟩
          rw [List.count_eq_zero.mpr hnot]
          rfl
      · show handle < (s.receipts ++ [_]).length
        rw [List.length_append, List.length_singleton]
        exact Nat.lt_succ_of_lt (h.concluded handle hhandle)

theorem Sound.receivedRequest (h : s.Sound) (P : Platform) (payload : Bytes)
    (now : Nat) : s.Advances (s.receivedRequest P payload now).2 := by
  unfold ResourceNode.receivedRequest
  split
  case h_1 => exact .refl h
  case h_2 request _ =>
    split
    case h_1 => exact .refl h
    case h_2 entry hentry =>
      dsimp only
      split
      case isTrue => exact .refl h
      case isFalse => exact h.put hentry rfl rfl

/-- The poll of an open resource. -/
theorem Sound.pollRetry (h : s.Sound)
    (hentry : s.outgoing.lookup id = some entry)
    (hsent : s.status entry = some .sent) (now : Nat) :
    s.Advances (s.pollRetry id entry now).2 := by
  obtain ⟨receipt, hreceipt, hstatus⟩ := h.exists_receipt hentry
  rw [hsent] at hstatus
  injection hstatus with hstatus
  unfold ResourceNode.pollRetry
  split
  case isTrue => exact .refl h
  case isFalse =>
    split
    case isTrue =>
      exact h.conclude hreceipt hstatus.symm (.inr rfl) now
    case isFalse => exact h.put hentry rfl rfl

theorem Sound.retryResource {round : RetryRound} (h : round.node.Sound)
    (now : Nat) (clock : Hash16 → Nat) (id : Hash16) :
    round.node.Advances (retryResource now clock round id).node := by
  unfold ResourceNode.retryResource
  split
  case h_1 => exact .refl h
  case h_2 entry hentry =>
    split
    case h_1 => exact h.same (same_deliverRequest _ entry)
    case h_2 => exact h.same (same_failRequest _ entry (clock id))
    case h_3 hsent =>
      have hpoll := h.pollRetry hentry hsent now
      split
      case h_1 node hnode =>
        rw [hnode] at hpoll
        exact hpoll
      case h_2 parts node hnode =>
        rw [hnode] at hpoll
        exact hpoll
    case h_4 => exact .refl h

/-- The retry reads the status of an entry right before it polls it. -/
theorem Sound.retryOutgoingResources (h : s.Sound) (now : Nat)
    (clock : Hash16 → Nat) :
    s.Advances (s.retryOutgoingResources now clock).2 := by
  unfold ResourceNode.retryOutgoingResources
  dsimp only
  have hround := @forward_foldl _ _ RetryRound Hash16
    (fun round => round.node.Sound) (fun round => round.node.receipts)
    (ResourceNode.retryResource now clock) ResourceReceipt.Settles.refl
    (fun _ _ _ => ResourceReceipt.Settles.trans)
    (fun round id hround => ⟨(hround.retryResource now clock id).sound,
      (hround.retryResource now clock id).forward⟩) ⟨s, [], []⟩ h
    s.outgoing.keys
  have hremove := @forward_foldl _ _ ResourceNode Hash16
    ResourceNode.Sound ResourceNode.receipts ResourceNode.remove
    ResourceReceipt.Settles.refl
    (fun _ _ _ => ResourceReceipt.Settles.trans)
    (fun node id hnode => ⟨(hnode.remove id).sound,
      (hnode.remove id).forward⟩) _ hround.1
    (s.outgoing.keys.foldl (ResourceNode.retryResource now clock)
      ⟨s, [], []⟩).remove
  exact Advances.trans ⟨hround.1, hround.2⟩ ⟨hremove.1, hremove.2⟩

-- ================================================================= runs

/-- A step in time keeps every concluded receipt as it is. -/
theorem Sound.step (h : s.Sound) (P : Platform) (htimely : s.Timely event) :
    s.Advances (s.step P event) := by
  by_cases hnamed : ∃ id entry, event.Concludes id
      ∧ s.outgoing.lookup id = some entry
  · obtain ⟨id, entry, hevent, hentry⟩ := hnamed
    obtain ⟨receipt, hreceipt, hstatus⟩ := h.exists_receipt hentry
    rw [htimely id entry hevent hentry] at hstatus
    injection hstatus with hstatus
    obtain ⟨status, now, hterminal, hsame⟩ :=
      step_concludes P h hevent hentry
    have hconclude := h.conclude hreceipt hstatus.symm hterminal now
    exact hconclude.trans (hconclude.sound.same hsame)
  · have hnone (id : Hash16) (hevent : event.Concludes id) :
        s.outgoing.lookup id = none :=
      Option.eq_none_iff_forall_ne_some.mpr fun entry hentry =>
        hnamed ⟨id, entry, hevent, hentry⟩
    cases event with
    | send resource sentAt => exact h.send P resource sentAt
    | cancel payload now clock => exact h.same (receivedCancel_quiet hnone)
    | proof payload clock =>
        exact h.same (receivedProof_quiet fun id status hdecode =>
          hnone id ⟨status, hdecode⟩)
    | request payload now => exact h.receivedRequest P payload now
    | retry now clock => exact h.retryOutgoingResources now clock
    | elsewhere tracker requests => exact h.same ⟨rfl, rfl, rfl⟩

/-- A control frame that comes late writes a second time. -/
theorem Sound.timely (h : s.Sound) (P : Platform)
    (honce : (s.step P event).OnceEach) : s.Timely event := by
  intro id entry hevent hentry
  obtain ⟨receipt, hreceipt, hstatus⟩ := h.exists_receipt hentry
  rw [hstatus]
  rcases receipt.status.terminal_or_sent with hterminal | hsent
  · obtain ⟨status, now, hlater, hsame⟩ := step_concludes P h hevent hentry
    exact absurd (hsame.onceEach honce)
      (conclude_again h.once hreceipt hterminal hlater now)
  · rw [hsent]

/-- Receipts are final along a run: one that is concluded after some of
the events is the same after any more of them, and at every point the
`concluded_at` of a receipt was written once if it is concluded, and
never if it is not. -/
structure ReceiptsFinal (P : Platform) (s : ResourceNode)
    (events : List ResourceNodeEvent) : Prop where
  stays : ∀ done later, done <+: later → later <+: events →
    Forward ResourceReceipt.Settles (s.after P done).receipts
      (s.after P later).receipts
  once : ∀ done, done <+: events → (s.after P done).OnceEach

/-- The receipts of a run are final exactly when every proof and every
cancel in it that names an outgoing resource comes before the receipt of
that resource is concluded. -/
theorem receipts_final_iff (P : Platform) (tracker : ResourceTracker)
    (requests : RequestTracker) (events : List ResourceNodeEvent) :
    ReceiptsFinal P (start tracker requests) events
      ↔ ∀ done event, done ++ [event] <+: events →
        ((start tracker requests).after P done).Timely event := by
  have hstart := sound_start tracker requests
  have honce := @Run.holds_throughout_iff ResourceNode ResourceNodeEvent
    (ResourceNode.step P) Timely Sound (start tracker requests) events
    (fun _ _ => True) OnceEach hstart (fun _ h => h.once)
    (fun _ _ h _ htimely => (h.step P htimely).sound)
    (fun _ _ h _ honce => h.timely P honce) (fun _ _ _ => trivial)
  constructor
  · intro h
    exact honce.mp h.once
  · intro h
    refine ⟨fun done later hdone hlater => ?_, honce.mpr h⟩
    exact @Run.throughout_related ResourceNode ResourceNodeEvent
      (ResourceNode.step P) Timely Sound (start tracker requests) events
      (fun s s' => Forward ResourceReceipt.Settles s.receipts s'.receipts)
      (fun s => Forward.refl ResourceReceipt.Settles.refl s.receipts)
      (fun _ _ _ => Forward.trans fun _ _ _ => ResourceReceipt.Settles.trans)
      hstart (fun _ _ h htimely =>
        ⟨(h.step P htimely).sound, (h.step P htimely).forward⟩)
      h done later hdone hlater

open Reference Sending

/-- The five bytes of `docSending`. -/
noncomputable def docResource : Outgoing where
  destination := List.Vector.replicate 16 0
  data := docSending.data
  partSize := 2
  requestId := none
  isResponse := false
  isRequest := false
  timeout := resourceProofTimeout
  maxRetries := resourceDefaultMaxRetries
  now := 0

noncomputable def docProof (status : UInt8) (now : Nat) :
    ResourceNodeEvent :=
  .proof (ResourceProof.encode ⟨docSending.resourceId platform, status⟩)
    fun _ => now

/-- The resource is proved, and then a proof says that it failed. -/
noncomputable def docLateProof : List ResourceNodeEvent :=
  [.send docResource 0, docProof resourceProofStatusOk 1, docProof 0 2]

noncomputable def docReceipt (status : ResourceReceiptStatus) (now : Nat) :
    ResourceReceipt where
  resourceId := docSending.resourceId platform
  status := status
  sentAt := 0
  concludedAt := some now
  timeout := resourceProofTimeout

/-- A completed receipt becomes a failed one. -/
theorem late_proof_changes_receipt :
    ¬ReceiptsFinal platform (start (.new 10) .new) docLateProof := by
  intro h
  have hbefore : ((start (.new 10) .new).after platform
      (docLateProof.take 2)).receipts[0]?
      = some (docReceipt .completed 1) := by decide +kernel
  have hafter : ((start (.new 10) .new).after platform
      docLateProof).receipts[0]? = some (docReceipt .failed 2) := by
    decide +kernel
  obtain ⟨later, hlater, hsettles⟩ := h.stays (docLateProof.take 2)
    docLateProof (List.take_prefix 2 _) List.prefix_rfl 0 _ hbefore
  cases hafter.symm.trans hlater
  have hstatus := congrArg (·.status) (hsettles (.inl rfl))
  exact absurd hstatus (by decide)

/-- Once a retry took the entry away, the second proof comes to
nothing. -/
example : ((start (.new 10) .new).after platform
    [.send docResource 0, docProof resourceProofStatusOk 1,
      .retry 2 (fun _ => 2), docProof 0 3]).receipts
    = [docReceipt .completed 1] := by
  decide +kernel

end ResourceNode

end Lxmf
