/-
Receipts of requests only move forward
(reticulum-patched/src/request.rs).

No operation asks whether a receipt is final. What keeps a final receipt
as it is, is that its handle is gone: a handle leaves the map of pending
requests in the step that makes its receipt final, and never comes back.
A pending handle belongs to the id its receipt carries, so two entries
of the map never share a receipt.
-/
import Lxmf.Library.Cells
import Lxmf.RequestTracker

namespace Lxmf

open Cells

-- ============================================================== receipts

/-- A final status. -/
def RequestStatus.Final (status : RequestStatus) : Prop :=
  status = .ready ∨ status = .failed

instance (status : RequestStatus) : Decidable status.Final :=
  inferInstanceAs (Decidable (status = .ready ∨ status = .failed))

/-- How far a status is: `Sent < Delivered < Receiving < {Ready, Failed}`. -/
def RequestStatus.stage : RequestStatus → Nat
  | .sent => 0
  | .delivered => 1
  | .receiving => 2
  | .ready => 3
  | .failed => 3

/-- What may become of a receipt: it keeps its id, its status stays or
moves to a later stage, and once final it stays as it is. -/
structure RequestReceipt.Moves (receipt later : RequestReceipt) : Prop where
  requestId : later.requestId = receipt.requestId
  status : later.status = receipt.status
    ∨ receipt.status.stage < later.status.stage
  final : receipt.status.Final → later = receipt

/-- The receipt of a handle agrees with its status and with the calls of
its callbacks so far. -/
structure RequestReceipt.Agrees (receipt : RequestReceipt) (handle : Nat)
    (fired : List (Nat × RequestCallback)) : Prop where
  response : receipt.response.isSome = true ↔ receipt.status = .ready
  concluded : receipt.concludedAt.isSome = true ↔ receipt.status.Final
  /-- Its response callback was called, if it is set, exactly when it
  is ready. -/
  onResponse : fired.count (handle, .response)
    = if receipt.status = .ready ∧ receipt.callbacks.response = true
      then 1 else 0
  onFailed : fired.count (handle, .failed)
    = if receipt.status = .failed ∧ receipt.callbacks.failed = true
      then 1 else 0

namespace RequestReceipt

variable {receipt later last : RequestReceipt}

theorem Moves.refl (receipt : RequestReceipt) : receipt.Moves receipt :=
  ⟨rfl, .inl rfl, fun _ => rfl⟩

theorem Moves.trans (h : receipt.Moves later) (h' : later.Moves last) :
    receipt.Moves last := by
  refine ⟨h'.requestId.trans h.requestId, ?_, fun hfinal => ?_⟩
  · rcases h.status with hkeep | hless
    · rw [← hkeep]
      exact h'.status
    · rcases h'.status with hkeep' | hless'
      · rw [hkeep']
        exact .inr hless
      · exact .inr (hless.trans hless')
  · have hlater := h.final hfinal
    rw [← hlater] at hfinal ⊢
    exact h'.final hfinal

/-- At most one of the two callbacks was called, at most once. -/
theorem Agrees.count_le_one {handle : Nat}
    {fired : List (Nat × RequestCallback)}
    (h : receipt.Agrees handle fired) :
    fired.count (handle, .response) + fired.count (handle, .failed) ≤ 1 := by
  rw [h.onResponse, h.onFailed]
  split
  case isTrue hready =>
    have hnot : ¬(receipt.status = .failed
        ∧ receipt.callbacks.failed = true) := by
      rw [hready.1]
      exact fun hfailed => nomatch hfailed.1
    rw [if_neg hnot]
  case isFalse =>
    split
    case isTrue => exact Nat.le_refl 1
    case isFalse => exact Nat.zero_le 1

end RequestReceipt

-- ============================================================ the tracker

namespace RequestTracker

/-- A pending handle has an open receipt of the id it is pending for, and
every receipt agrees with the calls of its callbacks. -/
structure Sound (t : RequestTracker) : Prop where
  pending : ∀ requestId handle, t.pending.lookup requestId = some handle →
    ∃ receipt, t.receipts[handle]? = some receipt
      ∧ receipt.requestId = requestId ∧ ¬receipt.status.Final
  agrees : ∀ (handle : Nat) (receipt : RequestReceipt),
    t.receipts[handle]? = some receipt →
      receipt.Agrees handle t.fired
  fired : ∀ call ∈ t.fired, call.1 < t.receipts.length

variable {t : RequestTracker} {requestId : Hash16} {handle : Nat}
  {receipt : RequestReceipt}

theorem sound_new : Sound new := by
  refine ⟨fun id handle h => ?_, fun handle receipt h => ?_,
    fun call h => ?_⟩
  · cases h
  · cases h
  · cases h

/-- One pending receipt changes, and calls of its callbacks are added.
What is pending afterwards was pending before, and not for its id if the
receipt is final now. -/
theorem Sound.change (h : t.Sound)
    (hpending : t.pending.lookup requestId = some handle)
    (hreceipt : t.receipts[handle]? = some receipt)
    {f : RequestReceipt → RequestReceipt} {pending : HashMap Hash16 Nat}
    {calls : List (Nat × RequestCallback)}
    (hkept : ∀ id other, pending.lookup id = some other →
      t.pending.lookup id = some other)
    (hgone : (f receipt).status.Final → requestId ∉ pending)
    (hid : (f receipt).requestId = receipt.requestId)
    (hcalls : ∀ call ∈ calls, call.1 = handle)
    (hagrees : (f receipt).Agrees handle (t.fired ++ calls)) :
    Sound ⟨t.receipts.modify handle f, pending, t.fired ++ calls⟩ := by
  have hlt := (List.getElem?_eq_some_iff.mp hreceipt).choose
  obtain ⟨_, hreceipt', hrequestId, _⟩ := h.pending requestId handle hpending
  cases hreceipt.symm.trans hreceipt'
  refine ⟨fun id other hother => ?_, fun other receipt' hother => ?_,
    fun call hcall => ?_⟩
  · obtain ⟨receipt', hreceipt', hid', hopen⟩ :=
      h.pending id other (hkept id other hother)
    by_cases heq : handle = other
    · subst heq
      cases hreceipt.symm.trans hreceipt'
      refine ⟨f receipt, ?_, hid.trans hid', fun hfinal => ?_⟩
      · dsimp only
        rw [List.getElem?_modify_eq, hreceipt]
        rfl
      · refine hgone hfinal ?_
        rw [← hrequestId, hid']
        exact AList.lookup_isSome.mp (Option.isSome_of_mem hother)
    · refine ⟨receipt', ?_, hid', hopen⟩
      dsimp only
      rw [List.getElem?_modify_ne _ _ heq, hreceipt']
  · rcases of_modify hother with ⟨rfl, old, hold, rfl⟩ | ⟨heq, hold⟩
    · cases hreceipt.symm.trans hold
      exact hagrees
    · have hother := h.agrees other receipt' hold
      have hcount (callback : RequestCallback) :
          (t.fired ++ calls).count (other, callback)
            = t.fired.count (other, callback) := by
        have hzero : calls.count (other, callback) = 0 :=
          List.count_eq_zero.mpr fun hcall => heq (hcalls _ hcall).symm
        rw [List.count_append, hzero, Nat.add_zero]
      refine ⟨hother.response, hother.concluded, ?_, ?_⟩
      · rw [hcount, hother.onResponse]
      · rw [hcount, hother.onFailed]
  · dsimp only
    rw [List.length_modify]
    rcases List.mem_append.mp hcall with hcall | hcall
    · exact h.fired call hcall
    · rw [hcalls call hcall]
      exact hlt

/-- The callbacks of a pending receipt that conclude it are still to be
called. -/
theorem Sound.not_called (h : t.Sound)
    (hpending : t.pending.lookup requestId = some handle)
    (hreceipt : t.receipts[handle]? = some receipt) :
    ¬receipt.status.Final ∧ t.fired.count (handle, .response) = 0
      ∧ t.fired.count (handle, .failed) = 0 := by
  obtain ⟨receipt', hreceipt', _, hopen⟩ :=
    h.pending requestId handle hpending
  cases hreceipt.symm.trans hreceipt'
  have hagrees := h.agrees handle receipt hreceipt
  refine ⟨hopen, ?_, ?_⟩
  · rw [hagrees.onResponse, if_neg fun hready => hopen (.inl hready.1)]
  · rw [hagrees.onFailed, if_neg fun hfailed => hopen (.inr hfailed.1)]

/-- What an operation does: the invariant is kept, and the receipts move
forward. -/
structure Advances (t t' : RequestTracker) : Prop where
  sound : t'.Sound
  forward : Forward RequestReceipt.Moves t.receipts t'.receipts

theorem Sound.stays (h : t.Sound) : t.Advances t :=
  ⟨h, Forward.refl RequestReceipt.Moves.refl _⟩

theorem Advances.trans {t' t'' : RequestTracker} (h : t.Advances t')
    (h' : t'.Advances t'') : t.Advances t'' :=
  ⟨h'.sound, h.forward.trans (fun _ _ _ => RequestReceipt.Moves.trans)
    h'.forward⟩

/-- A pending receipt moves on and stays open. -/
theorem Sound.update (h : t.Sound)
    (hpending : t.pending.lookup requestId = some handle)
    (hreceipt : t.receipts[handle]? = some receipt)
    {f : RequestReceipt → RequestReceipt}
    (hmoves : receipt.Moves (f receipt)) (hopen : ¬(f receipt).status.Final)
    (hsame : (f receipt).response = receipt.response
      ∧ (f receipt).concludedAt = receipt.concludedAt) :
    t.Advances (t.update handle f) := by
  obtain ⟨hstill, hresponse, hfailed⟩ := h.not_called hpending hreceipt
  have hagrees := h.agrees handle receipt hreceipt
  refine ⟨?_, ?_⟩
  · have hlater : (f receipt).Agrees handle (t.fired ++ []) := by
      rw [List.append_nil]
      refine ⟨?_, ?_, ?_, ?_⟩
      · rw [hsame.1, hagrees.response]
        exact iff_of_false (fun hready => hstill (.inl hready))
          fun hready => hopen (.inl hready)
      · rw [hsame.2, hagrees.concluded]
        exact iff_of_false hstill hopen
      · rw [hresponse, if_neg fun hready => hopen (.inl hready.1)]
      · rw [hfailed, if_neg fun hfailed => hopen (.inr hfailed.1)]
    have hchange := h.change hpending hreceipt (fun _ _ hother => hother)
      (fun hfinal => absurd hfinal hopen) hmoves.requestId
      (List.forall_mem_nil _) hlater
    rw [List.append_nil] at hchange
    exact hchange
  · refine forward_modify RequestReceipt.Moves.refl fun other hother => ?_
    cases hreceipt.symm.trans hother
    exact hmoves

/-- The calls `fire` adds. -/
def callsOf (handle : Nat) (callback : RequestCallback)
    (receipt : RequestReceipt) : List (Nat × RequestCallback) :=
  if receipt.callbacks.isSet callback then [(handle, callback)] else []

theorem fire_eq (hreceipt : t.receipts[handle]? = some receipt)
    (callback : RequestCallback) :
    t.fire handle callback
      = { t with fired := t.fired ++ callsOf handle callback receipt } := by
  unfold fire callsOf
  rw [hreceipt]
  rfl

theorem count_callsOf (handle : Nat) (callback : RequestCallback)
    (receipt : RequestReceipt) :
    (callsOf handle callback receipt).count (handle, callback)
      = if receipt.callbacks.isSet callback = true then 1 else 0 := by
  unfold callsOf
  split
  case isTrue => exact List.count_singleton_self
  case isFalse => rfl

theorem count_callsOf_ne {callback other : RequestCallback}
    (hne : callback ≠ other) (handle : Nat) (receipt : RequestReceipt) :
    (callsOf handle callback receipt).count (handle, other) = 0 := by
  refine List.count_eq_zero.mpr fun hcall => hne ?_
  unfold callsOf at hcall
  split at hcall
  case isTrue =>
    cases List.mem_singleton.mp hcall
    rfl
  case isFalse => cases hcall

theorem mem_callsOf {callback : RequestCallback}
    {call : Nat × RequestCallback}
    (h : call ∈ callsOf handle callback receipt) : call.1 = handle := by
  unfold callsOf at h
  split at h
  case isTrue =>
    cases List.mem_singleton.mp h
    rfl
  case isFalse => cases h

/-- A progress callback concludes nothing. -/
theorem Sound.fireProgress (h : t.Sound) (requestId : Hash16) :
    t.Advances (t.fireProgress requestId) := by
  unfold RequestTracker.fireProgress
  split
  case h_1 => exact h.stays
  case h_2 handle hpending =>
    obtain ⟨receipt, hreceipt, _, hopen⟩ :=
      h.pending requestId handle hpending
    have hagrees := h.agrees handle receipt hreceipt
    rw [fire_eq hreceipt]
    refine ⟨?_, Forward.refl RequestReceipt.Moves.refl _⟩
    have hlater : (id receipt).Agrees handle
        (t.fired ++ callsOf handle .progress receipt) := by
      refine ⟨hagrees.response, hagrees.concluded, ?_, ?_⟩
      · rw [List.count_append, count_callsOf_ne (by decide)]
        exact hagrees.onResponse
      · rw [List.count_append, count_callsOf_ne (by decide)]
        exact hagrees.onFailed
    have hchange := h.change hpending hreceipt (fun _ _ hother => hother)
      (fun hfinal => absurd hfinal hopen) rfl (fun _ => mem_callsOf) hlater
    rw [List.modify_id] at hchange
    exact hchange

/-- A pending receipt becomes final, its handle is taken out of the map
and its callback is called. -/
theorem Sound.conclude (h : t.Sound)
    (hpending : t.pending.lookup requestId = some handle)
    (hreceipt : t.receipts[handle]? = some receipt)
    {f : RequestReceipt → RequestReceipt} {callback : RequestCallback}
    (hid : (f receipt).requestId = receipt.requestId)
    (hfinal : (f receipt).status.Final)
    (hagrees : (f receipt).Agrees handle
      (t.fired ++ callsOf handle callback (f receipt))) :
    t.Advances (((t.removePending requestId).update handle f).fire handle
      callback) := by
  obtain ⟨hstill, _⟩ := h.not_called hpending hreceipt
  have hmodify : (t.receipts.modify handle f)[handle]?
      = some (f receipt) := by
    rw [List.getElem?_modify_eq, hreceipt]
    rfl
  have hstage : receipt.status.stage < (f receipt).status.stage := by
    rcases hfinal with hready | hfailed
    · rw [hready]
      cases hstatus : receipt.status with
      | ready => exact absurd (.inl hstatus) hstill
      | failed => exact absurd (.inr hstatus) hstill
      | _ => decide
    · rw [hfailed]
      cases hstatus : receipt.status with
      | ready => exact absurd (.inl hstatus) hstill
      | failed => exact absurd (.inr hstatus) hstill
      | _ => decide
  refine ⟨?_, ?_⟩
  · rw [fire_eq hmodify]
    refine h.change hpending hreceipt (fun id other hother => ?_)
      (fun _ hmem => ?_) hid (fun _ => mem_callsOf) hagrees
    · exact (HashMap.lookup_of_lookup_erase hother).2
    · exact (AList.mem_erase.mp hmem).1 rfl
  · refine forward_modify RequestReceipt.Moves.refl fun other hother => ?_
    cases hreceipt.symm.trans hother
    exact ⟨hid, .inr hstage, fun hfinal => absurd hfinal hstill⟩

-- ======================================================== the operations

theorem Sound.registerRequest (h : t.Sound) (requestId : Hash16)
    (timeout : Nat) (callbacks : RequestCallbacks) (now : Nat) :
    t.Advances (t.registerRequest requestId timeout callbacks now).2 := by
  have hnew (callback : RequestCallback) :
      t.fired.count (t.receipts.length, callback) = 0 :=
    List.count_eq_zero.mpr fun hcall =>
      Nat.lt_irrefl _ (h.fired _ hcall)
  refine ⟨⟨fun id other hother => ?_, fun other receipt hother => ?_,
    fun call hcall => ?_⟩, forward_append RequestReceipt.Moves.refl _ _⟩
  · unfold RequestTracker.registerRequest at hother ⊢
    dsimp only at hother ⊢
    by_cases heq : id = requestId
    · subst heq
      rw [AList.lookup_insert] at hother
      cases hother
      refine ⟨_, List.getElem?_concat_length, rfl, ?_⟩
      show ¬RequestStatus.sent.Final
      decide
    · rw [AList.lookup_insert_ne heq] at hother
      obtain ⟨receipt, hreceipt, hid, hopen⟩ := h.pending id other hother
      have hlt := (List.getElem?_eq_some_iff.mp hreceipt).choose
      refine ⟨receipt, ?_, hid, hopen⟩
      rw [List.getElem?_append_left hlt, hreceipt]
  · unfold RequestTracker.registerRequest at hother ⊢
    dsimp only at hother ⊢
    rcases of_concat hother with hold | ⟨rfl, rfl⟩
    · exact h.agrees other receipt hold
    · refine ⟨?_, ?_, hnew .response, hnew .failed⟩
      · exact iff_of_false Bool.false_ne_true (fun hready => nomatch hready)
      · refine iff_of_false Bool.false_ne_true ?_
        show ¬RequestStatus.sent.Final
        decide
  · have hlt := h.fired call hcall
    unfold RequestTracker.registerRequest
    dsimp only
    rw [List.length_append]
    omega

theorem Sound.markDelivered (h : t.Sound) (requestId : Hash16) :
    t.Advances (t.markDelivered requestId) := by
  unfold RequestTracker.markDelivered
  split
  case h_1 => exact h.stays
  case h_2 handle hpending =>
    obtain ⟨receipt, hreceipt, _, hopen⟩ :=
      h.pending requestId handle hpending
    refine h.update hpending hreceipt ?_ ?_ ?_
    · split
      case isTrue hsent =>
        refine ⟨rfl, .inr ?_, fun hfinal => absurd hfinal hopen⟩
        rw [hsent]
        exact Nat.one_pos
      case isFalse => exact .refl _
    · split
      case isTrue =>
        show ¬RequestStatus.delivered.Final
        decide
      case isFalse => exact hopen
    · split <;> exact ⟨rfl, rfl⟩

theorem Sound.markReceiving (h : t.Sound) (requestId : Hash16)
    (progress : F64) : t.Advances (t.markReceiving requestId progress) := by
  unfold RequestTracker.markReceiving
  dsimp only
  split
  case h_1 => exact h.fireProgress requestId
  case h_2 handle hpending =>
    obtain ⟨receipt, hreceipt, _, hopen⟩ :=
      h.pending requestId handle hpending
    have hne : receipt.status ≠ .failed := fun hfailed =>
      hopen (.inr hfailed)
    have hupdate : t.Advances (t.update handle fun receipt =>
        if receipt.status ≠ .failed then
          { receipt with status := .receiving, progress := progress }
        else receipt) := by
      refine h.update hpending hreceipt ?_ ?_ ?_
      · rw [if_pos hne]
        refine ⟨rfl, ?_, fun hfinal => absurd hfinal hopen⟩
        cases hstatus : receipt.status with
        | failed => exact absurd hstatus hne
        | ready => exact absurd (.inl hstatus) hopen
        | receiving => exact .inl rfl
        | sent => exact .inr Nat.two_pos
        | delivered => exact .inr Nat.one_lt_two
      · rw [if_pos hne]
        show ¬RequestStatus.receiving.Final
        decide
      · rw [if_pos hne]
        exact ⟨rfl, rfl⟩
    exact hupdate.trans (hupdate.sound.fireProgress requestId)

theorem Sound.recordResponse (h : t.Sound) (requestId : Hash16)
    (response : Bytes) (now : Nat) :
    t.Advances (t.recordResponse requestId response now).2 := by
  unfold RequestTracker.recordResponse
  split
  case h_1 => exact h.stays
  case h_2 handle hpending =>
    obtain ⟨receipt, hreceipt, _, hopen⟩ :=
      h.pending requestId handle hpending
    obtain ⟨_, hresponse, hfailed⟩ := h.not_called hpending hreceipt
    have hnot : ¬((t.removePending requestId).receipts[handle]?.any
        fun receipt => decide (receipt.status = .failed)) = true := by
      unfold removePending
      dsimp only
      rw [hreceipt]
      exact fun hany => hopen (.inr (of_decide_eq_true hany))
    dsimp only
    rw [if_neg hnot]
    refine h.conclude hpending hreceipt rfl (.inl rfl) ?_
    refine ⟨?_, ?_, ?_, ?_⟩
    · exact iff_of_true rfl rfl
    · exact iff_of_true rfl (.inl rfl)
    · rw [List.count_append, hresponse, count_callsOf, Nat.zero_add]
      refine if_congr ?_ rfl rfl
      exact (and_iff_right rfl).symm
    · rw [List.count_append, hfailed, count_callsOf_ne (by decide)]
      exact (if_neg fun hboth => nomatch hboth.1).symm

theorem Sound.markFailed (h : t.Sound) (requestId : Hash16) (now : Nat) :
    t.Advances (t.markFailed requestId now) := by
  unfold RequestTracker.markFailed
  split
  case h_1 => exact h.stays
  case h_2 handle hpending =>
    obtain ⟨receipt, hreceipt, _, hopen⟩ :=
      h.pending requestId handle hpending
    obtain ⟨_, hresponse, hfailed⟩ := h.not_called hpending hreceipt
    have hagrees := h.agrees handle receipt hreceipt
    dsimp only
    refine h.conclude hpending hreceipt rfl (.inr rfl) ?_
    refine ⟨?_, ?_, ?_, ?_⟩
    · rw [hagrees.response]
      exact iff_of_false (fun hready => hopen (.inl hready))
        (fun hready => nomatch hready)
    · exact iff_of_true rfl (.inr rfl)
    · rw [List.count_append, hresponse, count_callsOf_ne (by decide)]
      exact (if_neg fun hboth => nomatch hboth.1).symm
    · rw [List.count_append, hfailed, count_callsOf, Nat.zero_add]
      refine if_congr ?_ rfl rfl
      exact (and_iff_right rfl).symm

/-- A run of steps that advance from sound trackers advances. -/
theorem Sound.foldl {β : Type} {step : RequestTracker → β → RequestTracker}
    (hstep : ∀ t : RequestTracker, ∀ b, t.Sound → t.Advances (step t b))
    (h : t.Sound) (bs : List β) : t.Advances (bs.foldl step t) := by
  obtain ⟨hsound, hforward⟩ := forward_foldl RequestReceipt.Moves.refl
    (fun _ _ _ => RequestReceipt.Moves.trans)
    (fun t b h => ⟨(hstep t b h).sound, (hstep t b h).forward⟩) h bs
  exact ⟨hsound, hforward⟩

theorem Sound.pollTimeouts (h : t.Sound) (now : Nat) (clock : Nat → Nat) :
    t.Advances (t.pollTimeouts now clock) := by
  unfold RequestTracker.pollTimeouts
  exact h.foldl (fun _ id h => h.markFailed id.1 (clock id.2)) _

theorem Sound.perform (h : t.Sound) (operation : RequestOperation) :
    t.Advances (t.perform operation) := by
  cases operation with
  | registerRequest requestId timeout callbacks now =>
      exact h.registerRequest requestId timeout callbacks now
  | markDelivered requestId => exact h.markDelivered requestId
  | markReceiving requestId progress =>
      exact h.markReceiving requestId progress
  | recordResponse requestId response now =>
      exact h.recordResponse requestId response now
  | markFailed requestId now => exact h.markFailed requestId now
  | pollTimeouts now clock => exact h.pollTimeouts now clock

/-- The tracker after a run of operations. -/
def after (operations : List RequestOperation) : RequestTracker :=
  operations.foldl RequestTracker.perform new

theorem advances_after (before later : List RequestOperation) :
    (after before).Sound
      ∧ (after before).Advances (after (before ++ later)) := by
  have hbefore : new.Advances (after before) :=
    sound_new.foldl (fun _ operation h => h.perform operation) before
  refine ⟨hbefore.sound, ?_⟩
  unfold after
  rw [List.foldl_append]
  exact hbefore.sound.foldl (fun _ operation h => h.perform operation) later

/-- In every run each receipt moves forward and is left alone once it is
final; at every point it has a response exactly when it is ready, and at
most one of its response and failed callbacks was called, the one of its
final status, once, if it is set. -/
theorem request_receipts_final (before later : List RequestOperation) :
    Forward RequestReceipt.Moves (after before).receipts
        (after (before ++ later)).receipts
      ∧ ∀ (handle : Nat) (receipt : RequestReceipt),
        (after before).receipts[handle]? = some receipt →
          receipt.Agrees handle (after before).fired
            ∧ (after before).fired.count (handle, .response)
              + (after before).fired.count (handle, .failed) ≤ 1 := by
  obtain ⟨hsound, hadvances⟩ := advances_after before later
  refine ⟨hadvances.forward, fun handle receipt hreceipt => ?_⟩
  have hagrees := hsound.agrees handle receipt hreceipt
  exact ⟨hagrees, hagrees.count_le_one⟩

/-- A request is answered, its id is used again, and a timeout and a late
failure reach the second receipt alone. -/
def docOperations : List RequestOperation :=
  let requestId : Hash16 := ⟨List.replicate 16 0x11, rfl⟩
  let callbacks : RequestCallbacks := ⟨true, true, false⟩
  [.registerRequest requestId 5 callbacks 0,
   .markDelivered requestId,
   .markReceiving requestId (.fin 0),
   .recordResponse requestId [0x2a] 3,
   .registerRequest requestId 5 callbacks 4,
   .pollTimeouts 9 (fun _ => 9),
   .markFailed requestId 10]

theorem request_receipts_final_doc :
    ∃ receipt, (after docOperations).receipts[0]? = some receipt
      ∧ receipt.status = .ready
      ∧ (after docOperations).receipts.map (·.status) = [.ready, .failed]
      ∧ (after docOperations).fired.count (0, .response)
        + (after docOperations).fired.count (0, .failed) ≤ 1 := by
  refine ⟨_, rfl, rfl, by decide +kernel, ?_⟩
  exact ((request_receipts_final docOperations []).2 0 _ rfl).2

end RequestTracker

end Lxmf
