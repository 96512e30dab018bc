/-
The duplicate cache is a window over the ids it accepted
(lxmf-rs/src/rns/router.rs: `DeliveredCache`).

# Shape of the argument

What the eviction loop does is one equation: of the queue it keeps the
last `maxEntries` ids, and it takes the others out of the set
(`evict_eq`). So a call that accepts an id moves the queue on by that id
(`markDelivered_new`), and the window over the accepted ids moves in the
same way (`rtake_concat`). A cache of no entries is a window of length
zero: it accepts every id and keeps none.
-/
import Lxmf.RnsRouter
import Mathlib.Data.List.DropRight

namespace Lxmf

namespace DeliveredCache

-- ====================================================== the window

/-- A window moves on by what is put behind it. -/
theorem rtake_concat {α : Type} (l : List α) (x : α) (n : Nat) :
    (l.rtake n ++ [x]).rtake n = (l ++ [x]).rtake n := by
  cases n with
  | zero => rw [List.rtake_zero, List.rtake_zero]
  | succ n =>
      rw [List.rtake_concat_succ, List.rtake_concat_succ]
      congr 1
      unfold List.rtake
      rw [List.drop_drop, List.length_drop]
      congr 1
      omega

theorem length_rtake_le {α : Type} (l : List α) (n : Nat) :
    (l.rtake n).length ≤ n := by
  unfold List.rtake
  rw [List.length_drop]
  omega

theorem rdrop_append_rtake {α : Type} (l : List α) (n : Nat) :
    l.rdrop n ++ l.rtake n = l :=
  List.take_append_drop (l.length - n) l

-- ==================================================== the eviction loop

theorem evict_eq (maxEntries : Nat) (order : List Hash32)
    (seen : Finset Hash32) :
    evict maxEntries order seen
      = (order.rtake maxEntries,
        seen \ (order.rdrop maxEntries).toFinset) := by
  induction order generalizing seen with
  | nil => rw [List.rtake_nil, List.rdrop_nil, List.toFinset_nil,
      Finset.sdiff_empty, evict]
  | cons oldest order ih =>
      have hlen : (oldest :: order).length = order.length + 1 := rfl
      unfold evict
      split
      case isTrue hlong =>
        rw [hlen] at hlong
        have hdrop : (oldest :: order).length - maxEntries
            = (order.length - maxEntries) + 1 := by omega
        rw [ih]
        unfold List.rtake List.rdrop
        rw [hdrop, List.drop_succ_cons, List.take_succ_cons,
          List.toFinset_cons, Finset.erase_sdiff_comm,
          Finset.sdiff_insert]
      case isFalse hfits =>
        have hdrop : (oldest :: order).length - maxEntries = 0 := by
          omega
        unfold List.rtake List.rdrop
        rw [hdrop, List.drop_zero, List.take_zero, List.toFinset_nil,
          Finset.sdiff_empty]

/-- Eviction takes ids off the queue and out of the set together. -/
theorem mem_evict {maxEntries : Nat} {order : List Hash32}
    {seen : Finset Hash32} (hnodup : order.Nodup)
    (hseen : ∀ id ∈ order, id ∈ seen) {id : Hash32}
    (hid : id ∈ (evict maxEntries order seen).1) :
    id ∈ (evict maxEntries order seen).2 := by
  rw [evict_eq] at hid ⊢
  have hsplit := rdrop_append_rtake order maxEntries
  rw [← hsplit, List.nodup_append'] at hnodup
  have hmem : id ∈ order := by
    rw [← hsplit]
    exact List.mem_append_right _ hid
  refine Finset.mem_sdiff.mpr ⟨hseen id hmem, ?_⟩
  rw [List.mem_toFinset]
  exact fun hdropped => hnodup.2.2 hdropped hid

-- ========================================================= one call

/-- The queue has no duplicates and holds what the set holds. -/
structure InStep (c : DeliveredCache) : Prop where
  nodup : c.order.Nodup
  same : ∀ id, id ∈ c.order ↔ id ∈ c.seen

theorem inStep_new (maxEntries : Nat) : (new maxEntries).InStep where
  nodup := List.nodup_nil
  same id := by
    refine ⟨fun h => absurd h List.not_mem_nil, ?_⟩
    exact fun h => absurd h (Finset.notMem_empty id)

theorem markDelivered_seen {c : DeliveredCache} {id : Hash32}
    (h : id ∈ c.seen) : c.markDelivered id = (false, c) := by
  unfold markDelivered
  rw [if_pos h]

theorem markDelivered_new {c : DeliveredCache} {id : Hash32}
    (h : id ∉ c.seen) :
    (c.markDelivered id).1 = true
      ∧ (c.markDelivered id).2.maxEntries = c.maxEntries
      ∧ (c.markDelivered id).2.order
        = (c.order ++ [id]).rtake c.maxEntries := by
  unfold markDelivered
  rw [if_neg h, evict_eq]
  exact ⟨rfl, rfl, rfl⟩

theorem InStep.markDelivered {c : DeliveredCache} (h : c.InStep)
    (id : Hash32) : (c.markDelivered id).2.InStep := by
  by_cases hid : id ∈ c.seen
  · rw [markDelivered_seen hid]
    exact h
  have hnew : id ∉ c.order := fun hmem => hid ((h.same id).mp hmem)
  have hnodup : (c.order ++ [id]).Nodup :=
    List.nodup_append_comm.mp (List.nodup_cons.mpr ⟨hnew, h.nodup⟩)
  have hsame : ∀ x, x ∈ c.order ++ [id] ↔ x ∈ insert id c.seen := by
    intro x
    rw [List.mem_append, List.mem_singleton, Finset.mem_insert,
      h.same x, or_comm]
  unfold DeliveredCache.markDelivered
  rw [if_neg hid]
  refine ⟨?_, fun x => ⟨mem_evict hnodup fun y => (hsame y).mp, ?_⟩⟩
  · rw [evict_eq]
    exact hnodup.sublist (List.drop_sublist _ _)
  · -- what the set still holds was queued and is not among the dropped
    rw [evict_eq]
    intro hx
    obtain ⟨hset, hkept⟩ := Finset.mem_sdiff.mp hx
    rw [List.mem_toFinset] at hkept
    have hmem := (hsame x).mpr hset
    rw [← rdrop_append_rtake (c.order ++ [id]) c.maxEntries] at hmem
    exact (List.mem_append.mp hmem).resolve_left hkept

-- ============================================================ a run

/-- The cache after a series of calls. -/
def markAll (c : DeliveredCache) (ids : List Hash32) : DeliveredCache :=
  ids.foldl (fun c id => (c.markDelivered id).2) c

/-- The ids whose call returned true, in the order of the calls. -/
def accepted (c : DeliveredCache) : List Hash32 → List Hash32
  | [] => []
  | id :: ids =>
      let (isNew, c) := c.markDelivered id
      if isNew then id :: accepted c ids else accepted c ids

theorem InStep.markAll {c : DeliveredCache} (h : c.InStep)
    (ids : List Hash32) : (c.markAll ids).InStep := by
  induction ids generalizing c with
  | nil => exact h
  | cons id ids ih => exact ih (h.markDelivered id)

/-- The queue is the window over what it held and what was accepted. -/
theorem markAll_order {c : DeliveredCache} {held : List Hash32}
    (h : c.order = held.rtake c.maxEntries) (ids : List Hash32) :
    (c.markAll ids).maxEntries = c.maxEntries
      ∧ (c.markAll ids).order
        = (held ++ accepted c ids).rtake c.maxEntries := by
  induction ids generalizing c held with
  | nil =>
      unfold accepted
      rw [List.append_nil]
      exact ⟨rfl, h⟩
  | cons id ids ih =>
      have hstep : c.markAll (id :: ids)
          = (c.markDelivered id).2.markAll ids := rfl
      rw [hstep]
      unfold accepted
      by_cases hid : id ∈ c.seen
      · rw [markDelivered_seen hid]
        exact ih h
      · obtain ⟨htrue, hmax, horder⟩ := markDelivered_new hid
        have hwindow : (c.markDelivered id).2.order
            = (held ++ [id]).rtake (c.markDelivered id).2.maxEntries := by
          rw [horder, hmax, h, rtake_concat]
        have hrun := ih hwindow
        rw [hmax, List.append_assoc] at hrun
        dsimp only
        rw [if_pos htrue]
        exact hrun

/-- A cache that has accepted `accepted` is a window over it. -/
structure Window (c : DeliveredCache) (maxEntries : Nat)
    (accepted : List Hash32) : Prop where
  nodup : c.order.Nodup
  same : ∀ id, id ∈ c.order ↔ id ∈ c.seen
  length : c.order.length ≤ maxEntries
  last : ∀ id, c.seenBefore id = true ↔ id ∈ accepted.rtake maxEntries
  fresh : ∀ id, (c.markDelivered id).1 = true ↔ c.seenBefore id = false

theorem window_markAll (maxEntries : Nat) (ids : List Hash32) :
    ((new maxEntries).markAll ids).Window maxEntries
      (accepted (new maxEntries) ids) := by
  have hstep := (inStep_new maxEntries).markAll ids
  have hempty : (new maxEntries).order
      = ([] : List Hash32).rtake (new maxEntries).maxEntries :=
    (List.rtake_nil _).symm
  obtain ⟨-, horder⟩ := markAll_order hempty ids
  rw [List.nil_append] at horder
  refine ⟨hstep.nodup, hstep.same, ?_, fun id => ?_, fun id => ?_⟩
  · rw [horder]
    exact length_rtake_le _ _
  · unfold seenBefore
    rw [decide_eq_true_iff, ← hstep.same, horder]
    exact Iff.rfl
  · unfold seenBefore
    rw [decide_eq_false_iff_not]
    by_cases hid : id ∈ ((new maxEntries).markAll ids).seen
    · rw [markDelivered_seen hid]
      exact ⟨fun h => absurd h Bool.false_ne_true, fun h => absurd hid h⟩
    · exact ⟨fun _ => hid, fun _ => (markDelivered_new hid).1⟩

-- An id marked again after it was evicted counts again.
example :
    accepted (new 1) ([0, 1, 1, 0].map (List.Vector.replicate 32))
      = [0, 1, 0].map (List.Vector.replicate 32) := by
  decide

end DeliveredCache

end Lxmf
