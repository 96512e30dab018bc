/-
One sequence of calls on the two message stores.

A store in memory appends what it is given, a store of files replaces
the record of the same id. What each holds of one id is told by the
versions of it saved since it was last removed (`versions`): the first
has all of them, in order, the second has the last. So the two hold the
same exactly as long as no id has two.
-/
import Lxmf.Proofs.FileStore
import Lxmf.Proofs.Transport

namespace Lxmf

-- =============================================================== calls

/-- A call that changes the queued messages, or files a failed one. -/
inductive StoreCall where
  | saveOutbound (item : QueuedMessage)
  | removeOutbound (id : Nat)
  | saveFailed (item : FailedDelivery)

namespace StoreCall

def apply {σ : Type} [MessageStore σ] (s : σ) : StoreCall → σ
  | .saveOutbound item => MessageStore.saveOutbound item s
  | .removeOutbound id => MessageStore.removeOutbound id s
  | .saveFailed item => MessageStore.saveFailed item s

/-- The numbers of an item saved are of their types. -/
def Fits : StoreCall → Prop
  | .saveOutbound item => item.Fits
  | .removeOutbound _ => True
  | .saveFailed _ => True

/-- One call, on the versions of an id. -/
def version (id : Nat) (saved : List QueuedMessage) :
    StoreCall → List QueuedMessage
  | .saveOutbound item => if item.id = id then saved ++ [item] else saved
  | .removeOutbound removed => if removed = id then [] else saved
  | .saveFailed _ => saved

/-- The versions of an id saved since it was last removed. -/
def versions (id : Nat) (calls : List StoreCall) : List QueuedMessage :=
  calls.foldl (version id) []

/-- The latest version of an id that is still to be delivered. -/
def latest (id : Nat) (calls : List StoreCall) : Option QueuedMessage :=
  (versions id calls).getLast?

theorem versions_append (id : Nat) (calls : List StoreCall)
    (call : StoreCall) :
    versions id (calls ++ [call]) = version id (versions id calls) call := by
  unfold versions
  rw [List.foldl_append]
  rfl

end StoreCall

open StoreCall

/-- A store after some calls on an empty one. -/
def afterCalls {σ : Type} [MessageStore σ] (empty : σ)
    (calls : List StoreCall) : σ :=
  calls.foldl apply empty

theorem afterCalls_append {σ : Type} [MessageStore σ] (empty : σ)
    (calls : List StoreCall) (call : StoreCall) :
    afterCalls empty (calls ++ [call])
      = apply (afterCalls empty calls) call := by
  unfold afterCalls
  rw [List.foldl_append]
  rfl

/-- The items of one id. -/
def ofId (id : Nat) (items : List QueuedMessage) : List QueuedMessage :=
  items.filter fun m => m.id = id

theorem ofId_filter_ne (id other : Nat) (items : List QueuedMessage) :
    ofId id (items.filter fun m => m.id ≠ other)
      = if other = id then [] else ofId id items := by
  unfold ofId
  rw [List.filter_filter]
  by_cases h : other = id
  · rw [if_pos h, List.filter_eq_nil_iff]
    intro m _
    simp [h]
  · rw [if_neg h]
    refine List.filter_congr fun m _ => ?_
    by_cases hm : m.id = id
    · simp [hm, Ne.symm h]
    · simp [hm]

-- ============================================================ in memory

/-- The store in memory holds every version. -/
theorem ofId_memory (id : Nat) (calls : List StoreCall) :
    ofId id (MessageStore.loadOutbound
        (afterCalls ({} : InMemoryStore) calls))
      = versions id calls := by
  induction calls using List.reverseRecOn with
  | nil => rfl
  | append_singleton calls call ih =>
      rw [afterCalls_append, versions_append, ← ih]
      generalize afterCalls ({} : InMemoryStore) calls = s
      cases call with
      | saveOutbound item =>
          show ofId id (s.outbound ++ [item])
            = if item.id = id then ofId id s.outbound ++ [item]
              else ofId id s.outbound
          unfold ofId
          rw [List.filter_append]
          by_cases h : item.id = id
          · rw [if_pos h, List.filter_cons_of_pos (by simp [h])]
            rfl
          · rw [if_neg h, List.filter_cons_of_neg (by simp [h])]
            exact List.append_nil _
      | removeOutbound removed =>
          show ofId id (s.outbound.filter fun m => m.id != removed)
            = if removed = id then [] else ofId id s.outbound
          rw [← ofId_filter_ne]
          congr 1
          refine List.filter_congr fun m _ => ?_
          by_cases h : m.id = removed
          · simp [h]
          · simp [h]
      | saveFailed item => rfl

-- ============================================================= in files

section Files

variable {P : Platform}

theorem filed_afterCalls (hP : RmpvCodec P) {calls : List StoreCall}
    (hfits : ∀ call ∈ calls, call.Fits) :
    FileMessageStore.Filed
      (afterCalls ({} : FileMessageStore P) calls) := by
  induction calls using List.reverseRecOn with
  | nil => exact FileMessageStore.filed_empty
  | append_singleton calls call ih =>
      have hbefore := ih fun c hc => hfits c (List.mem_append_left _ hc)
      have hcall := hfits call (List.mem_append_right _ List.mem_cons_self)
      rw [afterCalls_append]
      cases call with
      | saveOutbound item =>
          exact FileMessageStore.filed_saveOutbound hP hbefore hcall.id
      | removeOutbound id =>
          exact FileMessageStore.filed_removeOutbound hbefore id
      | saveFailed item =>
          exact FileMessageStore.filed_saveFailed hP hbefore item

/-- The store of files holds the last version. -/
theorem ofId_files (hP : RmpvCodec P) (id : Nat) {calls : List StoreCall}
    (hfits : ∀ call ∈ calls, call.Fits) :
    ofId id (MessageStore.loadOutbound
        (afterCalls ({} : FileMessageStore P) calls))
      = (latest id calls).toList := by
  induction calls using List.reverseRecOn with
  | nil => rfl
  | append_singleton calls call ih =>
      have hfits' : ∀ c ∈ calls, c.Fits :=
        fun c hc => hfits c (List.mem_append_left _ hc)
      have hcall := hfits call (List.mem_append_right _ List.mem_cons_self)
      have hfiled := filed_afterCalls hP hfits'
      have hbefore := ih hfits'
      unfold latest at hbefore ⊢
      rw [afterCalls_append, versions_append]
      generalize afterCalls ({} : FileMessageStore P) calls = s
        at hbefore hfiled ⊢
      generalize versions id calls = saved at hbefore ⊢
      cases call with
      | saveOutbound item =>
          show ofId id (s.saveOutbound item).loadOutbound
            = (if item.id = id then saved ++ [item]
                else saved).getLast?.toList
          rw [FileMessageStore.loadOutbound_saveOutbound hP hfiled,
            QueuedMessage.trimmed_of_fits hcall]
          unfold ofId
          by_cases h : item.id = id
          · rw [if_pos h, List.filter_cons_of_pos (by simp [h])]
            have hnone := ofId_filter_ne id item.id s.loadOutbound
            rw [if_pos h] at hnone
            unfold ofId at hnone
            rw [hnone, List.getLast?_append]
            rfl
          · rw [if_neg h, List.filter_cons_of_neg (by simp [h])]
            have hsame := ofId_filter_ne id item.id s.loadOutbound
            rw [if_neg h] at hsame
            exact hsame.trans hbefore
      | removeOutbound removed =>
          show ofId id (s.removeOutbound removed).loadOutbound
            = (if removed = id then [] else saved).getLast?.toList
          rw [FileMessageStore.loadOutbound_removeOutbound hfiled,
            ofId_filter_ne]
          by_cases h : removed = id
          · rw [if_pos h, if_pos h]
            rfl
          · rw [if_neg h, if_neg h]
            exact hbefore
      | saveFailed item =>
          show ofId id (s.saveFailed item).loadOutbound
            = saved.getLast?.toList
          rw [FileMessageStore.loadOutbound_saveFailed hP]
          exact hbefore

end Files

-- ========================================================== restoring

/-- What a fresh router queues of one id, as messages. -/
def restoredMessages {σ : Type} [MessageStore σ] (delivery : RnsOutbound)
    (store : σ) (id : Nat) : List LXMessage :=
  (ofId id (RnsRouter.withStore delivery store).outbound).map (·.message)

/-- A fresh router queues what its store holds of an id. -/
theorem restoredMessages_perm {σ : Type} [MessageStore σ]
    (delivery : RnsOutbound) (store : σ) (id : Nat) :
    (restoredMessages delivery store id).Perm
      ((ofId id (MessageStore.loadOutbound store)).map (·.message)) := by
  obtain ⟨base, items, hperm, houtbound⟩ :=
    RnsRouter.withStore_outbound delivery store
  have hofId : ofId id (items.map (RnsRouter.shifted base))
      = (ofId id items).map (RnsRouter.shifted base) := by
    unfold ofId
    rw [List.filter_map]
    congr 1
    refine List.filter_congr fun m _ => ?_
    simp [RnsRouter.shifted_id]
  have hmessage : (fun m : QueuedMessage => m.message)
      ∘ RnsRouter.shifted base = fun m => m.message := by
    funext m
    exact RnsRouter.shifted_message base m
  unfold restoredMessages
  rw [houtbound, hofId, List.map_map, hmessage]
  exact (hperm.filter _).map _

/-- A store with one item of an id has it queued once. -/
theorem restoredMessages_of_ofId {σ : Type} [MessageStore σ]
    (delivery : RnsOutbound) {store : σ} {id : Nat}
    {item : Option QueuedMessage}
    (h : ofId id (MessageStore.loadOutbound store) = item.toList) :
    restoredMessages delivery store id = item.toList.map (·.message) := by
  have hperm := restoredMessages_perm delivery store id
  rw [h] at hperm
  cases item with
  | none => exact hperm.eq_nil
  | some item => exact List.perm_singleton.mp hperm

-- ============================================================ agreement

/-- What two stores that were given the same calls owe each other. -/
structure StoresAgree (P : Platform) (calls : List StoreCall) : Prop where
  same : (MessageStore.loadOutbound
      (afterCalls ({} : InMemoryStore) calls)).Perm
    (MessageStore.loadOutbound (afterCalls ({} : FileMessageStore P) calls))
  memory : ∀ id, ofId id (MessageStore.loadOutbound
      (afterCalls ({} : InMemoryStore) calls)) = (latest id calls).toList
  files : ∀ id, ofId id (MessageStore.loadOutbound
      (afterCalls ({} : FileMessageStore P) calls))
    = (latest id calls).toList
  memoryRestored : ∀ delivery id,
    restoredMessages delivery (afterCalls ({} : InMemoryStore) calls) id
      = (latest id calls).toList.map (·.message)
  filesRestored : ∀ delivery id,
    restoredMessages delivery (afterCalls ({} : FileMessageStore P) calls) id
      = (latest id calls).toList.map (·.message)

/-- Items that agree on every id are the same up to order. -/
theorem perm_of_ofId {l l' : List QueuedMessage}
    (h : ∀ id, ofId id l = ofId id l') : l.Perm l' := by
  rw [List.perm_iff_count]
  intro m
  have hcount (items : List QueuedMessage) :
      items.count m = (ofId m.id items).count m := by
    unfold ofId
    rw [List.count_filter (by simp)]
  rw [hcount l, hcount l', h m.id]

theorem toList_getLast?_of_length {α : Type} {l : List α}
    (h : l.length ≤ 1) : l.getLast?.toList = l := by
  match l with
  | [] => rfl
  | [_] => rfl
  | _ :: _ :: _ => simp at h

theorem length_toList_le {α : Type} (o : Option α) : o.toList.length ≤ 1 := by
  cases o with
  | none => exact Nat.zero_le 1
  | some _ => exact Nat.le_refl 1

/-- The two stores agree after some calls exactly when none of the ids
was saved a second time without having been removed. -/
theorem stores_agree_iff {P : Platform} (hP : RmpvCodec P)
    {calls : List StoreCall} (hfits : ∀ call ∈ calls, call.Fits) :
    StoresAgree P calls ↔ ∀ id, (versions id calls).length ≤ 1 := by
  constructor
  · intro h id
    rw [← ofId_memory, h.memory id]
    exact length_toList_le _
  · intro h
    have hmemory (id : Nat) : ofId id (MessageStore.loadOutbound
        (afterCalls ({} : InMemoryStore) calls))
          = (latest id calls).toList := by
      rw [ofId_memory]
      exact (toList_getLast?_of_length (h id)).symm
    have hfiles (id : Nat) := ofId_files hP id hfits
    refine {
      same := perm_of_ofId fun id => (hmemory id).trans (hfiles id).symm
      memory := hmemory
      files := hfiles
      memoryRestored := ?_
      filesRestored := ?_ }
    · exact fun delivery id => restoredMessages_of_ofId delivery (hmemory id)
    · exact fun delivery id => restoredMessages_of_ofId delivery (hfiles id)

section StoreInstance

open Reference

/-- The documentation example in the queue. -/
def docItem : QueuedMessage where
  id := 1
  message := { docMessage with state := stateOutbound }
  mode := .propagated
  attempts := 0
  nextAttemptAtMs := 0

/-- The same after one failed attempt at time 1000. -/
def docRetried : QueuedMessage where
  id := 1
  message := { docMessage with state := stateSending }
  mode := .propagated
  attempts := 1
  nextAttemptAtMs := 1500

theorem docItem_fits : docItem.Fits :=
  ⟨by decide, by decide, by decide, nofun, nofun⟩

theorem docRetried_fits : docRetried.Fits :=
  ⟨by decide, by decide, by decide, nofun, nofun⟩

/-- Removed in between, the second version is the only one. -/
theorem stores_agree_removed :
    StoresAgree platform
      [.saveOutbound docItem, .removeOutbound 1,
       .saveOutbound docRetried] := by
  refine (stores_agree_iff platform_rmpvCodec ?_).mpr ?_
  · intro call hcall
    simp only [List.mem_cons, List.not_mem_nil, or_false] at hcall
    rcases hcall with rfl | rfl | rfl
    · exact docItem_fits
    · trivial
    · exact docRetried_fits
  · intro id
    by_cases h : 1 = id
    · cases h
      decide
    · have hnone : versions id [.saveOutbound docItem, .removeOutbound 1,
          .saveOutbound docRetried] = [] := by
        simp [versions, version, docItem, docRetried, h]
      rw [hnone]
      exact Nat.zero_le 1

/-- One failed attempt saves the item again: the store in memory has it
twice, and so has the queue of a router restarted on it. -/
theorem retry_doubles :
    ((((RnsRouter.empty docOutbound ({} : InMemoryStore)).enqueue
        docMessage .propagated).2.nextDeliveryWithRetry 1000
          fun m _ => (.error (.reticulum "no path"), m)).2.store
      = afterCalls {} [.saveOutbound docItem, .saveOutbound docRetried])
    ∧ (restoredMessages docOutbound (afterCalls ({} : InMemoryStore)
        [.saveOutbound docItem, .saveOutbound docRetried]) 1).length = 2
    ∧ ¬ StoresAgree platform
        [.saveOutbound docItem, .saveOutbound docRetried] := by
  refine ⟨by decide, ?_, ?_⟩
  · rw [(restoredMessages_perm docOutbound _ 1).length_eq]
    decide
  · intro h
    have hmemory := h.memory 1
    revert hmemory
    decide

end StoreInstance

end Lxmf
