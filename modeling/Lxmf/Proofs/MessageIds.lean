/-
Message ids over restarts of a router on one directory.

`OutboundRun.ledger` reads the ids of a run off the router, the caller's
hands and the files. Every call keeps it sound. A restart counts on from
the queued records alone, so it does only where each failed record is
below a queued one (`RestartsCovered`); elsewhere an id comes back whose
failed record is still on disk, and the next failure replaces it.
-/
import Lxmf.Library.Ledger
import Lxmf.Proofs.FileStore
import Lxmf.Proofs.Outbound

namespace Lxmf

open Run

-- =========================================================== the records

namespace FileMessageStore

variable {P : Platform}

/-- A queued record of an id is on disk. -/
def recorded (s : FileMessageStore P) (id : Nat) : Prop :=
  outboundPath id ∈ s.root

/-- A failed record of an id is on disk. -/
def recordedFailed (s : FileMessageStore P) (id : Nat) : Prop :=
  failedPath id ∈ s.root

theorem failedPath_ne_outboundPath (a b : Nat) :
    failedPath a ≠ outboundPath b := by
  intro h
  have hqueued := queuedFile_outboundPath b
  rw [← h, queuedFile_failedPath] at hqueued
  cases hqueued

theorem recorded_saveOutbound (hP : RmpvCodec P) (item : QueuedMessage)
    (s : FileMessageStore P) :
    (s.saveOutbound item).recorded
      = fun id => id = item.id ∨ s.recorded id := by
  obtain ⟨data, hroot, _⟩ := root_saveOutbound hP item s
  funext id
  unfold recorded
  rw [hroot, AList.mem_insert]
  refine propext (or_congr_left ⟨outboundPath_inj, fun h => ?_⟩)
  rw [h]

theorem recorded_removeOutbound (id : Nat) (s : FileMessageStore P) :
    (s.removeOutbound id).recorded
      = fun other => other ≠ id ∧ s.recorded other := by
  funext other
  unfold recorded removeOutbound
  rw [AList.mem_erase]
  refine propext (and_congr_left fun _ => not_congr ⟨outboundPath_inj, ?_⟩)
  exact fun h => by rw [h]

theorem recorded_saveFailed (hP : RmpvCodec P) (item : FailedDelivery)
    (s : FileMessageStore P) :
    (s.saveFailed item).recorded = s.recorded := by
  obtain ⟨data, hroot, _⟩ := root_saveFailed hP item s
  funext id
  unfold recorded
  rw [hroot, AList.mem_insert]
  refine propext (or_iff_right fun h => ?_)
  exact failedPath_ne_outboundPath _ _ h.symm

/-- Every failed record of `s` is in `s'` as it was. -/
def KeepsFailed (s s' : FileMessageStore P) : Prop :=
  ∀ id data, s.root.lookup (failedPath id) = some data →
    s'.root.lookup (failedPath id) = some data

theorem KeepsFailed.refl (s : FileMessageStore P) : KeepsFailed s s :=
  fun _ _ h => h

theorem KeepsFailed.trans {s s' s'' : FileMessageStore P}
    (h : KeepsFailed s s') (h' : KeepsFailed s' s'') : KeepsFailed s s'' :=
  fun id data hdata => h' id data (h id data hdata)

theorem lookup_failed_saveOutbound (hP : RmpvCodec P) (item : QueuedMessage)
    (s : FileMessageStore P) (id : Nat) :
    (s.saveOutbound item).root.lookup (failedPath id)
      = s.root.lookup (failedPath id) := by
  obtain ⟨data, hroot, _⟩ := root_saveOutbound hP item s
  rw [hroot]
  exact AList.lookup_insert_ne (failedPath_ne_outboundPath _ _)

theorem lookup_failed_removeOutbound (removed : Nat)
    (s : FileMessageStore P) (id : Nat) :
    (s.removeOutbound removed).root.lookup (failedPath id)
      = s.root.lookup (failedPath id) :=
  AList.lookup_erase_ne (failedPath_ne_outboundPath _ _)

theorem recordedFailed_iff {s : FileMessageStore P} {id : Nat} :
    s.recordedFailed id ↔ (s.root.lookup (failedPath id)).isSome :=
  AList.lookup_isSome.symm

theorem recordedFailed_saveOutbound (hP : RmpvCodec P)
    (item : QueuedMessage) (s : FileMessageStore P) :
    (s.saveOutbound item).recordedFailed = s.recordedFailed := by
  funext id
  refine propext ?_
  rw [recordedFailed_iff, recordedFailed_iff,
    lookup_failed_saveOutbound hP]

theorem recordedFailed_removeOutbound (removed : Nat)
    (s : FileMessageStore P) :
    (s.removeOutbound removed).recordedFailed = s.recordedFailed := by
  funext id
  refine propext ?_
  rw [recordedFailed_iff, recordedFailed_iff, lookup_failed_removeOutbound]

theorem recordedFailed_saveFailed (hP : RmpvCodec P) (item : FailedDelivery)
    (s : FileMessageStore P) :
    (s.saveFailed item).recordedFailed
      = fun id => id = item.id ∨ s.recordedFailed id := by
  obtain ⟨data, hroot, _⟩ := root_saveFailed hP item s
  funext id
  unfold recordedFailed
  rw [hroot, AList.mem_insert]
  refine propext (or_congr_left ⟨failedPath_inj, fun h => ?_⟩)
  rw [h]

/-- A first failure replaces nothing. -/
theorem keepsFailed_saveFailed (hP : RmpvCodec P) {item : FailedDelivery}
    {s : FileMessageStore P} (h : ¬ s.recordedFailed item.id) :
    KeepsFailed s (s.saveFailed item) := by
  obtain ⟨new, hroot, _⟩ := root_saveFailed hP item s
  intro id data hdata
  rw [hroot, AList.lookup_insert_ne]
  · exact hdata
  · intro hpath
    have hid := failedPath_inj hpath
    subst hid
    refine h (recordedFailed_iff.mpr ?_)
    rw [hdata]
    rfl

/-- A record is in the file of its id. -/
theorem path_of_loadFile {s : FileMessageStore P} (hs : Filed s)
    {file : Sigma fun _ : String => Bytes} (hfile : file ∈ s.root.entries)
    {item : QueuedMessage} (hload : loadFile P file = some item) :
    file.1 = outboundPath item.id := by
  unfold loadFile at hload
  split at hload
  case isTrue hqueued =>
    obtain ⟨other, hpath, hdecode⟩ := hs file hfile hqueued
    rw [hdecode] at hload
    injection hload with hload
    rw [← hload]
    exact hpath
  case isFalse => cases hload

/-- The records a restart loads are those on disk. -/
theorem exists_loadOutbound_iff {s : FileMessageStore P} (hs : Filed s)
    {id : Nat} :
    (∃ item ∈ s.loadOutbound, item.id = id) ↔ s.recorded id := by
  rw [loadOutbound_eq]
  constructor
  · intro h
    obtain ⟨item, hitem, rfl⟩ := h
    obtain ⟨file, hfile, hload⟩ := List.mem_filterMap.mp hitem
    unfold recorded
    rw [← path_of_loadFile hs hfile hload]
    exact AList.mem_keys.mpr (List.mem_keys_of_mem hfile)
  · intro h
    obtain ⟨data, hdata⟩ := HashMap.mem_iff_lookup.mp h
    have hfile := AList.mem_lookup_iff.mp hdata
    obtain ⟨item, hpath, hdecode⟩ :=
      hs _ hfile (queuedFile_outboundPath id)
    refine ⟨item, List.mem_filterMap.mpr ⟨_, hfile, ?_⟩,
      (outboundPath_inj hpath).symm⟩
    unfold loadFile
    rw [if_pos (queuedFile_outboundPath id), hdecode]
    rfl

/-- No id is loaded twice. -/
theorem nodup_ids_loadOutbound {s : FileMessageStore P} (hs : Filed s) :
    (s.loadOutbound.map (·.id)).Nodup := by
  have hkeys : (s.root.entries.map Sigma.fst).Nodup := s.root.nodupKeys
  rw [List.Nodup, List.pairwise_map] at hkeys
  rw [loadOutbound_eq, List.Nodup, List.pairwise_map,
    List.pairwise_filterMap]
  refine hkeys.imp_of_mem fun hfile hother hne => ?_
  intro item hitem item' hitem' hid
  apply hne
  rw [path_of_loadFile hs hfile hitem, path_of_loadFile hs hother hitem',
    hid]

end FileMessageStore

-- ============================================================ dequeuing

section Dequeuing

variable {σ : Type} [MessageStore σ]

/-- A head the caller got: its record is gone. -/
def SentHead (r : RnsRouter σ) (item : QueuedMessage)
    (rest : List QueuedMessage)
    (result : Option (Except RnsError QueuedDelivery) × RnsRouter σ) :
    Prop :=
  ∃ queued, queued.id = item.id
    ∧ result = (some (.ok queued),
        { r with
          outbound := rest
          store := MessageStore.removeOutbound item.id r.store })

theorem nextDelivery_inversion (r : RnsRouter σ) (nowMs : Nat)
    (deliver : Deliver) :
    r.nextDelivery nowMs deliver = (none, r)
    ∨ ∃ item rest, r.outbound = item :: rest
      ∧ (SentHead r item rest (r.nextDelivery nowMs deliver)
        ∨ ∃ err, r.nextDelivery nowMs deliver
            = (some (.error err), { r with outbound := rest })) := by
  unfold RnsRouter.nextDelivery
  split
  case h_1 => exact .inl rfl
  case h_2 item rest hout =>
    split
    case isTrue => exact .inl rfl
    case isFalse =>
      refine .inr ⟨item, rest, hout, ?_⟩
      dsimp only
      split
      case h_1 => exact .inl ⟨_, rfl, rfl⟩
      case h_2 err _ _ => exact .inr ⟨err, rfl⟩

theorem nextDeliveryWithRetry_inversion (r : RnsRouter σ) (nowMs : Nat)
    (deliver : Deliver) :
    r.nextDeliveryWithRetry nowMs deliver = (none, r)
    ∨ ∃ item rest, r.outbound = item :: rest
      ∧ (SentHead r item rest (r.nextDeliveryWithRetry nowMs deliver)
        ∨ ∃ err message, r.nextDeliveryWithRetry nowMs deliver
              = (some (.error err),
                RnsRouter.giveUp { r with outbound := rest }
                  (RnsRouter.attempt item) message err)
            ∨ r.nextDeliveryWithRetry nowMs deliver
              = (some (.error err),
                RnsRouter.retryLater { r with outbound := rest }
                  (RnsRouter.attempt item) message nowMs)) := by
  unfold RnsRouter.nextDeliveryWithRetry
  split
  case h_1 => exact .inl rfl
  case h_2 item rest hout =>
    split
    case isTrue => exact .inl rfl
    case isFalse =>
      refine .inr ⟨item, rest, hout, ?_⟩
      dsimp only
      split
      case h_1 => exact .inl ⟨_, rfl, rfl⟩
      case h_2 err message _ =>
        refine .inr ⟨err, message, ?_⟩
        split
        case h_1 => exact .inl rfl
        case h_2 =>
          split
          case isTrue => exact .inr rfl
          case isFalse => exact .inl rfl

end Dequeuing

-- =========================================================== the ledger

section Orderly

variable {P : Platform} {r : RnsRouter (FileMessageStore P)}
  {held : List Nat}

/-- The ids of a router, of the deliveries its caller holds and of the
files. -/
def RnsRouter.ledger (r : RnsRouter (FileMessageStore P))
    (held : List Nat) : Ledger where
  nextId := r.nextId
  waiting := r.outbound.map (·.id)
  out := r.inflight.keys ++ held
  recorded := r.store.recorded
  failed := r.store.recordedFailed

/-- The ledger is sound, the files are in order and the counter has not
run out. -/
structure Orderly (r : RnsRouter (FileMessageStore P))
    (held : List Nat) : Prop where
  sound : (r.ledger held).Sound
  filed : r.store.Filed
  fits : r.nextId ≤ u64Max

/-- One call leads from an orderly router to another, and leaves the
failed records alone. -/
def OrderlyStep (r r' : RnsRouter (FileMessageStore P))
    (held : List Nat) : Prop :=
  Orderly r' held ∧ FileMessageStore.KeepsFailed r.store r'.store

theorem Orderly.waiting_lt (h : Orderly r held) {item : QueuedMessage}
    (hitem : item ∈ r.outbound) : item.id < 2 ^ 64 := by
  have hlt := h.sound.waiting_lt item.id
    (List.mem_map_of_mem (f := (·.id)) hitem)
  have hfits := h.fits
  unfold u64Max at hfits
  exact Nat.lt_of_lt_of_le hlt (hfits.trans (Nat.sub_le _ _))

theorem enqueue_orderly (hP : RmpvCodec P) (h : Orderly r held)
    (hfits : r.nextId < u64Max) (message : LXMessage)
    (mode : DeliveryMode) :
    OrderlyStep r (r.enqueue message mode).2 held := by
  have hid : r.nextId < 2 ^ 64 :=
    Nat.lt_of_lt_of_le hfits (Nat.sub_le _ _)
  refine ⟨⟨?_, ?_, hfits⟩, ?_⟩
  · have hissue := h.sound.issue
    unfold RnsRouter.ledger at hissue ⊢
    rw [show (r.enqueue message mode).2.store.recorded = _ from
        FileMessageStore.recorded_saveOutbound hP _ _,
      show (r.enqueue message mode).2.store.recordedFailed = _ from
        FileMessageStore.recordedFailed_saveOutbound hP _ _,
      show (r.enqueue message mode).2.outbound.map (·.id)
        = r.outbound.map (·.id) ++ [r.nextId] from List.map_append]
    exact hissue
  · exact FileMessageStore.filed_saveOutbound hP h.filed hid
  · intro id data hdata
    exact (FileMessageStore.lookup_failed_saveOutbound hP _ _ id).trans hdata

theorem ledger_waiting (held : List Nat) {item : QueuedMessage}
    {rest : List QueuedMessage} (hout : r.outbound = item :: rest) :
    (r.ledger held).waiting = item.id :: rest.map (·.id) := by
  show r.outbound.map (·.id) = _
  rw [hout]
  rfl

/-- The head goes to the caller. -/
theorem sentHead_orderly (h : Orderly r held) {item : QueuedMessage}
    {rest : List QueuedMessage} (hout : r.outbound = item :: rest) :
    OrderlyStep r
      { r with
        outbound := rest
        store := MessageStore.removeOutbound item.id r.store }
      (held ++ [item.id]) := by
  have hwaiting := ledger_waiting held hout
  refine ⟨⟨?_, FileMessageStore.filed_removeOutbound h.filed item.id,
    h.fits⟩, ?_⟩
  · have hsend := h.sound.send hwaiting
    unfold RnsRouter.ledger at hsend ⊢
    rw [show (MessageStore.removeOutbound item.id r.store).recorded = _ from
        FileMessageStore.recorded_removeOutbound item.id r.store,
      show (MessageStore.removeOutbound item.id r.store).recordedFailed
        = _ from
        FileMessageStore.recordedFailed_removeOutbound item.id r.store,
      ← List.append_assoc]
    exact hsend
  · intro id data hdata
    exact (FileMessageStore.lookup_failed_removeOutbound _ _ id).trans hdata

/-- The head goes nowhere: its record stays. -/
theorem droppedHead_orderly (h : Orderly r held) {item : QueuedMessage}
    {rest : List QueuedMessage} (hout : r.outbound = item :: rest) :
    OrderlyStep r { r with outbound := rest } held := by
  have hnodup : (r.outbound.map (·.id)).Nodup := h.sound.waiting_nodup
  rw [hout] at hnodup
  refine ⟨⟨?_, h.filed, h.fits⟩, .refl r.store⟩
  refine h.sound.shrink ?_ (List.nodup_cons.mp hnodup).2
    (List.Subset.refl _) h.sound.out_nodup
  intro id hid
  show id ∈ r.outbound.map (·.id)
  rw [hout]
  exact List.mem_cons_of_mem _ hid

theorem giveUp_orderly (hP : RmpvCodec P) (h : Orderly r held)
    {item : QueuedMessage} {rest : List QueuedMessage}
    (hout : r.outbound = item :: rest) (message : LXMessage)
    (err : RnsError) :
    OrderlyStep r (RnsRouter.giveUp { r with outbound := rest }
      (RnsRouter.attempt item) message err) held := by
  have hwaiting := ledger_waiting held hout
  have hsound := h.sound.giveUp hwaiting
  have hnot : ¬ r.store.recordedFailed item.id := by
    intro hfailed
    refine (h.sound.failed_gone item.id hfailed).1 ?_
    rw [hwaiting]
    exact List.mem_cons_self
  refine ⟨⟨?_, ?_, h.fits⟩, ?_⟩
  · unfold RnsRouter.ledger RnsRouter.giveUp at *
    simp only [MessageStore.saveFailed, MessageStore.removeOutbound,
      RnsRouter.attempt] at hsound ⊢
    rw [FileMessageStore.recorded_saveFailed hP,
      FileMessageStore.recordedFailed_saveFailed hP,
      FileMessageStore.recorded_removeOutbound,
      FileMessageStore.recordedFailed_removeOutbound]
    exact hsound
  · exact FileMessageStore.filed_saveFailed hP
      (FileMessageStore.filed_removeOutbound h.filed item.id) _
  · refine FileMessageStore.KeepsFailed.trans ?_
      (FileMessageStore.keepsFailed_saveFailed hP ?_)
    · intro id data hdata
      exact (FileMessageStore.lookup_failed_removeOutbound item.id _
        id).trans hdata
    · show ¬ (FileMessageStore.removeOutbound item.id
        r.store).recordedFailed item.id
      rw [FileMessageStore.recordedFailed_removeOutbound]
      exact hnot

theorem retryLater_orderly (hP : RmpvCodec P) (h : Orderly r held)
    {item : QueuedMessage} {rest : List QueuedMessage}
    (hout : r.outbound = item :: rest) (message : LXMessage)
    (nowMs : Nat) :
    OrderlyStep r (RnsRouter.retryLater { r with outbound := rest }
      (RnsRouter.attempt item) message nowMs) held := by
  have hmem : item.id ∈ (r.ledger held).waiting := by
    rw [ledger_waiting held hout]
    exact List.mem_cons_self
  have hperm : (rest.map (·.id) ++ [item.id]).Perm
      (r.outbound.map (·.id)) := by
    rw [hout]
    exact List.perm_append_comm
  have hsound := (h.sound.record hmem).shrink hperm.subset
    (hperm.nodup_iff.mpr h.sound.waiting_nodup) (List.Subset.refl _)
    h.sound.out_nodup
  refine ⟨⟨?_, ?_, h.fits⟩, ?_⟩
  · unfold RnsRouter.ledger RnsRouter.retryLater at *
    simp only [MessageStore.saveOutbound, RnsRouter.attempt,
      List.map_append, List.map_cons, List.map_nil] at hsound ⊢
    rw [FileMessageStore.recorded_saveOutbound hP,
      FileMessageStore.recordedFailed_saveOutbound hP]
    exact hsound
  · refine FileMessageStore.filed_saveOutbound hP h.filed ?_
    have hitem : item ∈ r.outbound := hout ▸ List.mem_cons_self
    have hlt := h.waiting_lt hitem
    exact hlt
  · intro id data hdata
    exact (FileMessageStore.lookup_failed_saveOutbound hP _ _ id).trans hdata

/-- A delivery the caller held goes into flight. -/
theorem markInflight_orderly (h : Orderly r held)
    (delivery : QueuedDelivery) {held' : List Nat}
    (hheld : held.Perm (delivery.id :: held')) (sentAtMs timeoutMs : Nat) :
    OrderlyStep r (r.markInflight delivery sentAtMs timeoutMs) held' := by
  have hnodup : (r.inflight.keys ++ held).Nodup := h.sound.out_nodup
  have hnew : delivery.id ∉ r.inflight.keys := by
    intro hmem
    exact (List.nodup_append'.mp hnodup).2.2 hmem
      (hheld.mem_iff.mpr List.mem_cons_self)
  have hperm : ((delivery.id :: r.inflight.keys) ++ held').Perm
      (r.inflight.keys ++ held) := by
    refine List.perm_middle.symm.trans ?_
    exact hheld.symm.append_left _
  refine ⟨⟨?_, h.filed, h.fits⟩, .refl r.store⟩
  have hshrunk := h.sound.shrink (List.Subset.refl _) h.sound.waiting_nodup
    hperm.subset (hperm.nodup_iff.mpr hnodup)
  unfold RnsRouter.ledger RnsRouter.markInflight at *
  simp only [AList.keys_insert, List.erase_of_not_mem hnew] at hshrunk ⊢
  exact hshrunk

theorem markDelivered_orderly (h : Orderly r held) (id : Nat) :
    OrderlyStep r (r.markDelivered id).2 held := by
  unfold RnsRouter.markDelivered
  split
  case h_1 => exact ⟨h, .refl r.store⟩
  case h_2 inflight hlookup =>
    have hnodup : (r.inflight.keys ++ held).Nodup := h.sound.out_nodup
    have hsub : ((r.inflight.keys.erase id) ++ held).Sublist
        (r.inflight.keys ++ held) :=
      (List.erase_sublist).append (List.Sublist.refl held)
    refine ⟨⟨?_, h.filed, h.fits⟩, .refl r.store⟩
    have hshrunk := h.sound.shrink (List.Subset.refl _)
      h.sound.waiting_nodup hsub.subset (hnodup.sublist hsub)
    unfold RnsRouter.ledger at *
    rw [AList.keys_erase]
    exact hshrunk

theorem markFailed_orderly (hP : RmpvCodec P) (h : Orderly r held)
    (id : Nat) (error : String) (attempts : Nat) :
    OrderlyStep r (r.markFailed id error attempts).2 held := by
  unfold RnsRouter.markFailed
  split
  case h_1 => exact ⟨h, .refl r.store⟩
  case h_2 inflight hlookup =>
    have hkey : id ∈ r.inflight.keys :=
      AList.mem_keys.mp (HashMap.mem_iff_lookup.mpr ⟨inflight, hlookup⟩)
    have hmem : id ∈ (r.ledger held).out := List.mem_append_left held hkey
    have hnot : ¬ r.store.recordedFailed id := by
      intro hfailed
      exact (h.sound.failed_gone id hfailed).2.1 hmem
    have hsound := h.sound.fail hmem
    refine ⟨⟨?_, FileMessageStore.filed_saveFailed hP h.filed _, h.fits⟩,
      FileMessageStore.keepsFailed_saveFailed hP hnot⟩
    unfold RnsRouter.ledger at *
    simp only [MessageStore.saveFailed, AList.keys_erase,
      List.erase_append_left held hkey] at hsound ⊢
    rw [FileMessageStore.recorded_saveFailed hP,
      FileMessageStore.recordedFailed_saveFailed hP]
    exact hsound

theorem OrderlyStep.trans {r' r'' : RnsRouter (FileMessageStore P)}
    {held' : List Nat} (h : OrderlyStep r r' held)
    (h' : OrderlyStep r' r'' held') : OrderlyStep r r'' held' :=
  ⟨h'.1, h.2.trans h'.2⟩

theorem pollTimeouts_orderly (hP : RmpvCodec P) (h : Orderly r held)
    (nowMs : Nat) : OrderlyStep r (r.pollTimeouts nowMs).2 held := by
  unfold RnsRouter.pollTimeouts
  generalize r.expired nowMs = ids
  induction ids generalizing r with
  | nil => exact ⟨h, .refl r.store⟩
  | cons id ids ih =>
      have hfirst := markFailed_orderly hP h id "delivery timeout" 0
      exact hfirst.trans (ih hfirst.1)

theorem popFailed_orderly (h : Orderly r held) :
    OrderlyStep r r.popFailed.2 held := by
  unfold RnsRouter.popFailed
  split
  case h_1 => exact ⟨h, .refl r.store⟩
  case h_2 => exact ⟨⟨h.sound, h.filed, h.fits⟩, .refl r.store⟩

-- =========================================================== restarting

/-- The counter ends above every id restored. -/
theorem foldl_restoreItem_nextId (base : Option Nat)
    (items : List QueuedMessage) (r : RnsRouter (FileMessageStore P)) :
    r.nextId ≤ (items.foldl (RnsRouter.restoreItem base) r).nextId
    ∧ ∀ item ∈ items, satAdd64 item.id 1
      ≤ (items.foldl (RnsRouter.restoreItem base) r).nextId := by
  induction items generalizing r with
  | nil => exact ⟨Nat.le_refl _, fun item hitem => nomatch hitem⟩
  | cons first items ih =>
      obtain ⟨hstart, hitems⟩ := ih (RnsRouter.restoreItem base r first)
      have hfirst : (RnsRouter.restoreItem base r first).nextId
          = max r.nextId (satAdd64 first.id 1) := by
        rw [RnsRouter.restoreItem_eq]
      rw [hfirst] at hstart
      rw [List.foldl_cons]
      refine ⟨(Nat.le_max_left _ _).trans hstart, ?_⟩
      intro item hitem
      rcases List.mem_cons.mp hitem with rfl | hrest
      · exact (Nat.le_max_right _ _).trans hstart
      · exact hitems item hrest

theorem foldl_restoreItem_fits (base : Option Nat)
    (items : List QueuedMessage) {r : RnsRouter (FileMessageStore P)}
    (h : r.nextId ≤ u64Max) :
    (items.foldl (RnsRouter.restoreItem base) r).nextId ≤ u64Max := by
  induction items generalizing r with
  | nil => exact h
  | cons first items ih =>
      refine ih ?_
      rw [RnsRouter.restoreItem_eq]
      exact Nat.max_le.mpr ⟨h, Nat.min_le_right _ _⟩

theorem foldl_restoreItem_frame (base : Option Nat)
    (items : List QueuedMessage) (r : RnsRouter (FileMessageStore P)) :
    (items.foldl (RnsRouter.restoreItem base) r).store = r.store
    ∧ (items.foldl (RnsRouter.restoreItem base) r).inflight
      = r.inflight := by
  induction items generalizing r with
  | nil => exact ⟨rfl, rfl⟩
  | cons first items ih =>
      obtain ⟨hstore, hinflight⟩ := ih (RnsRouter.restoreItem base r first)
      rw [RnsRouter.restoreItem_eq] at hstore hinflight
      rw [List.foldl_cons, RnsRouter.restoreItem_eq]
      exact ⟨hstore, hinflight⟩

/-- A restart below whose queued records every failed one is. -/
theorem restart_orderly (h : Orderly r held) (delivery : RnsOutbound)
    (hcovered : ∀ id, r.store.recordedFailed id →
      ∃ item ∈ r.store.loadOutbound, id < item.id) :
    OrderlyStep r (RnsRouter.withStore delivery r.store) [] := by
  obtain ⟨base, items, hperm, heq⟩ := RnsRouter.withStore_eq delivery r.store
  have hid (item : QueuedMessage) (hitem : item ∈ items) :
      r.store.recorded item.id :=
    (FileMessageStore.exists_loadOutbound_iff h.filed).mp
      ⟨item, hperm.mem_iff.mp hitem, rfl⟩
  have hlt (item : QueuedMessage) (hitem : item ∈ items) :
      item.id < (RnsRouter.withStore delivery r.store).nextId := by
    have hbelow := h.sound.recorded_lt item.id (hid item hitem)
    have hle := (foldl_restoreItem_nextId base items
      (RnsRouter.empty delivery r.store)).2 item hitem
    rw [← heq] at hle
    refine Nat.lt_of_lt_of_le ?_ hle
    exact Nat.lt_min.mpr ⟨Nat.lt_succ_self _,
      Nat.lt_of_lt_of_le hbelow h.fits⟩
  have hstore : (RnsRouter.withStore delivery r.store).store = r.store := by
    rw [heq]
    exact (foldl_restoreItem_frame base items _).1
  have hinflight : (RnsRouter.withStore delivery r.store).inflight = ∅ := by
    rw [heq]
    exact (foldl_restoreItem_frame base items _).2
  have hids : (RnsRouter.withStore delivery r.store).outbound.map (·.id)
      = items.map (·.id) := by
    rw [heq, RnsRouter.foldl_restoreItem_outbound, List.map_append,
      List.map_map]
    show List.map _ items = _
    congr 1
    funext item
    exact RnsRouter.shifted_id base item
  refine ⟨⟨?_, ?_, ?_⟩, ?_⟩
  · have hrestart := h.sound.restart
      (RnsRouter.withStore delivery r.store).nextId (items.map (·.id))
      ?_ ?_ ?_ ?_
    · unfold RnsRouter.ledger at hrestart ⊢
      rw [hids, hstore, hinflight]
      exact hrestart
    · exact (hperm.map _).nodup_iff.mpr
        (FileMessageStore.nodup_ids_loadOutbound h.filed)
    · intro id hmem
      obtain ⟨item, hitem, rfl⟩ := List.mem_map.mp hmem
      exact hid item hitem
    · intro id hrec
      obtain ⟨item, hitem, rfl⟩ :=
        (FileMessageStore.exists_loadOutbound_iff h.filed).mpr hrec
      exact hlt item (hperm.mem_iff.mpr hitem)
    · intro id hfailed
      obtain ⟨item, hitem, hless⟩ := hcovered id hfailed
      exact Nat.lt_trans hless (hlt item (hperm.mem_iff.mpr hitem))
  · rw [hstore]
    exact h.filed
  · rw [heq]
    have hone : 1 ≤ u64Max := by decide
    exact foldl_restoreItem_fits base items hone
  · rw [hstore]
    exact .refl r.store

end Orderly

-- ============================================================== the run

inductive RestartAction where
  | call (action : OutboundAction)
  | restart (delivery : RnsOutbound)

section RestartRun

variable {P : Platform}

/-- A restart is a fresh router on the same store. What the caller held
is lost. -/
def RestartAction.apply :
    RestartAction → OutboundRun (FileMessageStore P) →
      Option (OutboundRun (FileMessageStore P))
  | .call action, s => s.apply action
  | .restart delivery, s =>
      some { s with
        router := .withStore delivery s.router.store
        returned := [] }

/-- Every failed record is below a queued one when the router restarts,
and the counter does not overflow. -/
def RestartsCovered (s : OutboundRun (FileMessageStore P)) :
    RestartAction → Prop
  | .restart _ => ∀ id, s.router.store.recordedFailed id →
      ∃ item ∈ s.router.store.loadOutbound, id < item.id
  | .call (.enqueue _ _) => s.router.nextId < u64Max
  | .call _ => True

def OutboundRun.Orderly (s : OutboundRun (FileMessageStore P)) : Prop :=
  Lxmf.Orderly s.router (s.returned.map (·.id))

theorem orderly_fresh (delivery : RnsOutbound) :
    (OutboundRun.start (RnsRouter.withStore delivery
      ({} : FileMessageStore P))).Orderly := by
  have hempty : Lxmf.Orderly
      (RnsRouter.empty delivery ({} : FileMessageStore P)) [] := by
    refine ⟨?_, FileMessageStore.filed_empty, by
      show 1 ≤ u64Max
      decide⟩
    exact ⟨nofun, nofun, nofun, nofun, .nil, .nil, nofun, nofun, nofun⟩
  exact (restart_orderly hempty delivery nofun).1

/-- What a run's step does to the ids and to the failed records. -/
def OutboundRun.OrderlyStep (s s' : OutboundRun (FileMessageStore P)) :
    Prop :=
  Lxmf.OrderlyStep s.router s'.router (s'.returned.map (·.id))

theorem dequeued_sent_orderly {s : OutboundRun (FileMessageStore P)}
    (h : s.Orderly) {item : QueuedMessage} {rest : List QueuedMessage}
    (hout : s.router.outbound = item :: rest)
    {result : Option (Except RnsError QueuedDelivery)
      × RnsRouter (FileMessageStore P)}
    (hsent : SentHead s.router item rest result) :
    OutboundRun.OrderlyStep s (s.dequeued result) := by
  obtain ⟨queued, hid, rfl⟩ := hsent
  have hstep := sentHead_orderly h hout
  show Lxmf.OrderlyStep s.router _ ((s.returned ++ [queued]).map (·.id))
  rw [List.map_append, List.map_singleton, hid]
  exact hstep

theorem nextDelivery_orderly {s : OutboundRun (FileMessageStore P)}
    (h : s.Orderly) (nowMs : Nat) (deliver : Deliver) :
    OutboundRun.OrderlyStep s
      (s.dequeued (s.router.nextDelivery nowMs deliver)) := by
  rcases nextDelivery_inversion s.router nowMs deliver with
    heq | ⟨item, rest, hout, hsent | ⟨err, heq⟩⟩
  · rw [heq]
    exact ⟨h, .refl _⟩
  · exact dequeued_sent_orderly h hout hsent
  · rw [heq]
    exact droppedHead_orderly h hout

theorem nextDeliveryWithRetry_orderly (hP : RmpvCodec P)
    {s : OutboundRun (FileMessageStore P)} (h : s.Orderly) (nowMs : Nat)
    (deliver : Deliver) :
    OutboundRun.OrderlyStep s
      (s.dequeued (s.router.nextDeliveryWithRetry nowMs deliver)) := by
  rcases nextDeliveryWithRetry_inversion s.router nowMs deliver with
    heq | ⟨item, rest, hout, hsent | ⟨err, message, heq | heq⟩⟩
  · rw [heq]
    exact ⟨h, .refl _⟩
  · exact dequeued_sent_orderly h hout hsent
  · rw [heq]
    exact giveUp_orderly hP h hout message err
  · rw [heq]
    exact retryLater_orderly hP h hout message nowMs

theorem apply_orderly (hP : RmpvCodec P)
    {s s' : OutboundRun (FileMessageStore P)} (h : s.Orderly)
    {a : RestartAction} (hok : RestartsCovered s a)
    (happly : a.apply s = some s') : OutboundRun.OrderlyStep s s' := by
  cases a with
  | restart delivery =>
      injection happly with happly
      subst happly
      exact restart_orderly h delivery hok
  | call action =>
      cases action with
      | enqueue message mode =>
          injection happly with happly
          subst happly
          exact enqueue_orderly hP h hok message mode
      | nextDelivery nowMs deliver =>
          injection happly with happly
          subst happly
          exact nextDelivery_orderly h nowMs deliver
      | nextDeliveryWithRetry nowMs deliver =>
          injection happly with happly
          subst happly
          exact nextDeliveryWithRetry_orderly hP h nowMs deliver
      | markInflight delivery sentAtMs timeoutMs =>
          unfold RestartAction.apply OutboundRun.apply at happly
          dsimp only at happly
          split at happly
          case isTrue hmem =>
            injection happly with happly
            subst happly
            exact markInflight_orderly h delivery
              ((List.perm_cons_erase hmem).map _) sentAtMs timeoutMs
          case isFalse => cases happly
      | markDelivered id =>
          have hstep := markDelivered_orderly h id
          unfold RestartAction.apply OutboundRun.apply at happly
          dsimp only at happly
          split at happly
          case h_1 _ r heq =>
            injection happly with happly
            subst happly
            rw [heq] at hstep
            exact hstep
          case h_2 r heq =>
            injection happly with happly
            subst happly
            rw [heq] at hstep
            exact hstep
      | markFailed id error attempts =>
          injection happly with happly
          subst happly
          exact markFailed_orderly hP h id error attempts
      | pollTimeouts nowMs =>
          injection happly with happly
          subst happly
          exact pollTimeouts_orderly hP h nowMs
      | popFailed =>
          have hstep := popFailed_orderly h
          unfold RestartAction.apply OutboundRun.apply at happly
          dsimp only at happly
          split at happly
          case h_1 _ r heq =>
            injection happly with happly
            subst happly
            rw [heq] at hstep
            exact hstep
          case h_2 r heq =>
            injection happly with happly
            subst happly
            rw [heq] at hstep
            exact hstep

/-- In every run from an empty directory whose restarts are covered, an
id that is handed out has no record on disk, and no failed record is
ever replaced. -/
theorem ids_unique_over_restarts (hP : RmpvCodec P)
    (delivery : RnsOutbound) {s : OutboundRun (FileMessageStore P)}
    (h : Reaches RestartAction.apply RestartsCovered
      (.start (.withStore delivery ({} : FileMessageStore P))) s) :
    (∀ message mode,
      ¬ s.router.store.recorded (s.router.enqueue message mode).1
      ∧ ¬ s.router.store.recordedFailed (s.router.enqueue message mode).1)
    ∧ ∀ a s', RestartsCovered s a → a.apply s = some s' →
        FileMessageStore.KeepsFailed s.router.store s'.router.store := by
  have horderly : s.Orderly :=
    h.invariant (orderly_fresh delivery)
      fun s a s' hs hok happly => (apply_orderly hP hs hok happly).1
  refine ⟨fun _ _ => horderly.sound.unused, ?_⟩
  intro a s' hok happly
  exact (apply_orderly hP horderly hok happly).2

end RestartRun

section RestartInstance

open Reference

/-- Nothing on disk but a failed record: the counter starts again. -/
theorem withStore_of_loadOutbound_nil {P : Platform}
    (delivery : RnsOutbound) {store : FileMessageStore P}
    (h : store.loadOutbound = []) :
    RnsRouter.withStore delivery store
      = RnsRouter.empty delivery store := by
  obtain ⟨base, items, hperm, heq⟩ := RnsRouter.withStore_eq delivery store
  rw [show MessageStore.loadOutbound store = [] from h] at hperm
  rw [heq, hperm.eq_nil]
  rfl

/-- The documentation example, with other content. -/
def docOther : LXMessage := { docMessage with content := [0x62, 0x79, 0x65] }

/-- The failure the strict policy makes of a first message. -/
def refusal (m : LXMessage) : FailedDelivery where
  id := 1
  error := RnsError.text (.cryptoPolicyViolation .enforceRatchets .direct
    "delivery mode does not apply LXMF-layer encryption yet")
  message := { m with state := stateFailed }
  attempts := 1

/-- What is on disk after the first message of a router was refused. -/
noncomputable def refusedStore (m : LXMessage)
    (store : FileMessageStore platform) : FileMessageStore platform :=
  ((store.saveOutbound
    ⟨1, { m with state := stateOutbound }, .direct, 0, 0⟩).removeOutbound
      1).saveFailed (refusal m)

/-- The first message of a router is queued and refused. -/
noncomputable def refuse (m : LXMessage) : List RestartAction :=
  [.call (.enqueue m .direct),
   .call (.nextDeliveryWithRetry 0 (deliverOn strictOutbound))]

theorem loadOutbound_refusedStore (m : LXMessage) :
    (refusedStore m {}).loadOutbound = [] := by
  have hone : 1 < 2 ^ 64 := by decide
  have hfiled := @FileMessageStore.filed_saveOutbound platform
    platform_rmpvCodec {} FileMessageStore.filed_empty
    ⟨1, { m with state := stateOutbound }, .direct, 0, 0⟩ hone
  unfold refusedStore
  rw [FileMessageStore.loadOutbound_saveFailed platform_rmpvCodec,
    FileMessageStore.loadOutbound_removeOutbound hfiled,
    FileMessageStore.loadOutbound_saveOutbound platform_rmpvCodec
      FileMessageStore.filed_empty]
  rfl

theorem lookup_refusedStore (m : LXMessage)
    (store : FileMessageStore platform) :
    ∃ data, (refusedStore m store).root.lookup (failedPath 1) = some data
      ∧ platform.writeValue (encodeFailedValue (refusal m)) = .ok data := by
  obtain ⟨data, hroot, hdata⟩ := FileMessageStore.root_saveFailed
    platform_rmpvCodec (refusal m) ((store.saveOutbound
      ⟨1, { m with state := stateOutbound }, .direct, 0, 0⟩).removeOutbound 1)
  refine ⟨data, ?_, hdata⟩
  unfold refusedStore
  rw [hroot]
  exact AList.lookup_insert _

/-- One message queued, the router restarted: the queued record covers
what comes after. -/
theorem ids_unique_doc :
    ∃ s, Reaches RestartAction.apply RestartsCovered
        (.start (.withStore strictOutbound
          ({} : FileMessageStore platform))) s
      ∧ s.issued = [1]
      ∧ ∀ message mode, ¬ s.router.store.recordedFailed
          (s.router.enqueue message mode).1 := by
  let start : OutboundRun (FileMessageStore platform) :=
    .start (.withStore strictOutbound ({} : FileMessageStore platform))
  have hstart : start = .start (.empty strictOutbound
      ({} : FileMessageStore platform)) := by
    show OutboundRun.start (RnsRouter.withStore strictOutbound
      ({} : FileMessageStore platform)) = _
    rw [withStore_of_loadOutbound_nil strictOutbound rfl]
  have henqueue : RestartsCovered start
      (.call (.enqueue docMessage .direct)) := by
    rw [hstart]
    show 1 < u64Max
    decide
  have hqueued : Reaches RestartAction.apply RestartsCovered start _ :=
    Reaches.start.step (.call (.enqueue docMessage .direct)) henqueue rfl
  have hrestart : RestartsCovered
      { start with
        router := (start.router.enqueue docMessage .direct).2
        issued := [(start.router.enqueue docMessage .direct).1] }
      (.restart strictOutbound) := by
    intro id hfailed
    have hnone := FileMessageStore.recordedFailed_saveOutbound
      platform_rmpvCodec ⟨1, { docMessage with state := stateOutbound },
        .direct, 0, 0⟩ {}
    rw [hstart] at hfailed
    have hempty : ({} : FileMessageStore platform).recordedFailed id :=
      (congrFun hnone id).mp hfailed
    exact (AList.notMem_empty _ hempty).elim
  refine ⟨_, hqueued.step (.restart strictOutbound) hrestart rfl, ?_, ?_⟩
  · show [start.router.nextId] = [1]
    rw [hstart]
    rfl
  · intro message mode
    exact ((ids_unique_over_restarts platform_rmpvCodec strictOutbound
      (hqueued.step (.restart strictOutbound) hrestart rfl)).1
        message mode).2

/-- One message refused, the router restarted, another refused: the
second gets the id of the first, whose failed record it replaces. -/
theorem failed_record_replaced :
    ∃ s s', run RestartAction.apply
        (refuse docMessage ++ [.restart strictOutbound])
        (.start (.withStore strictOutbound
          ({} : FileMessageStore platform))) = some s
      ∧ s.router.store.recordedFailed (s.router.enqueue docOther .direct).1
      ∧ run RestartAction.apply (refuse docOther) s = some s'
      ∧ ¬ FileMessageStore.KeepsFailed s.router.store s'.router.store := by
  rw [withStore_of_loadOutbound_nil strictOutbound rfl]
  obtain ⟨first, hfirst, hfirstWritten⟩ := lookup_refusedStore docMessage {}
  obtain ⟨second, hsecond, hsecondWritten⟩ :=
    lookup_refusedStore docOther (refusedStore docMessage {})
  have hrestart : RnsRouter.withStore strictOutbound
      (refusedStore docMessage {})
        = .empty strictOutbound (refusedStore docMessage {}) :=
    withStore_of_loadOutbound_nil _ (loadOutbound_refusedStore docMessage)
  let s : OutboundRun (FileMessageStore platform) :=
    { OutboundRun.start (.empty strictOutbound
        (refusedStore docMessage {})) with issued := [1] }
  obtain ⟨s', hrun, hstore⟩ : ∃ s', run RestartAction.apply
      (refuse docOther) s = some s'
    ∧ s'.router.store = refusedStore docOther (refusedStore docMessage {}) :=
    ⟨_, rfl, rfl⟩
  refine ⟨s, s', ?_, ?_, hrun, ?_⟩
  · show some { OutboundRun.start (RnsRouter.withStore strictOutbound
      (refusedStore docMessage {})) with issued := [1] } = some s
    rw [hrestart]
  · refine FileMessageStore.recordedFailed_iff.mpr ?_
    show ((refusedStore docMessage {}).root.lookup (failedPath 1)).isSome
    rw [hfirst]
    rfl
  · intro hkeeps
    have hsame := hkeeps 1 first hfirst
    rw [hstore, hsecond] at hsame
    injection hsame with hsame
    have hvalues := platform_rmpvCodec.write_inj
      (hsecondWritten.trans (hsame ▸ hfirstWritten.symm))
    revert hvalues
    decide

end RestartInstance

end Lxmf
