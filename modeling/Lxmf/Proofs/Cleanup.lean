/-
What a cleanup leaves in the store, and what it takes out of it
(lxmf-rs/src/rns/router.rs: `clean_propagation_store`).

The expired entries go first. If the rest is above the limit, entries go
in falling weight until what is needed is freed, so each of them weighs
at least as much as any that stays, and without the last of them the
store would still be above the limit.

The loop counts what it frees in a `usize`. The data of a store is in
memory all at once and its size sums to one, which the last of these
facts is stated for; the others hold of any sizes.
-/
import Lxmf.Library.Shedding
import Lxmf.Proofs.PeerTable

namespace Lxmf

open Shedding

-- ========================================================= stored sizes

namespace PropagationStore

variable {s : PropagationStore}

/-- Distinct ids of stored entries, each with the size of its data. -/
structure Stocked (s : PropagationStore) (sized : List (Hash32 × Nat)) :
    Prop where
  nodup : (sized.map (·.1)).Nodup
  stored : ∀ e ∈ sized, ∃ entry, s.get e.1 = some entry
    ∧ entry.lxmData.length = e.2

theorem get_remove (s : PropagationStore) (id k : Hash32) :
    (s.remove id).get k = if k = id then none else s.get k := by
  unfold get
  rw [remove_entries]
  by_cases hk : k = id
  · rw [if_pos hk, hk, AList.lookup_erase]
  · rw [if_neg hk, AList.lookup_erase_ne hk]

theorem get_removes (s : PropagationStore) (ids : List Hash32)
    (k : Hash32) :
    (ids.foldl remove s).get k = if k ∈ ids then none else s.get k := by
  induction ids generalizing s with
  | nil => rfl
  | cons id ids ih =>
      rw [List.foldl_cons, ih, get_remove]
      by_cases hk : k = id <;> by_cases hmem : k ∈ ids <;> simp [hk, hmem]

/-- A removal takes the size of the entry off the total. -/
theorem totalSizeBytes_remove {id : Hash32} {entry : PropagationEntry}
    (h : s.get id = some entry) :
    (s.remove id).totalSizeBytes + entry.lxmData.length
      = s.totalSizeBytes := by
  have hmem : id ∈ s.entries.entries.keys :=
    HashMap.mem_iff_lookup.mpr ⟨entry, h⟩
  obtain ⟨found, before, after, -, hentries, herase⟩ :=
    List.exists_of_kerase hmem
  have hfound : found = entry := by
    have hlookup : s.entries.lookup id = some found :=
      AList.mem_lookup_iff.mpr (by rw [hentries]; simp)
    exact Option.some.inj (hlookup.symm.trans h)
  have hremoved : (s.remove id).entries.entries = before ++ after := herase
  unfold totalSizeBytes
  rw [hremoved, hentries, ← hfound]
  simp only [List.map_append, List.map_cons, List.sum_append, List.sum_cons]
  omega

theorem listIds_remove {id : Hash32} {entry : PropagationEntry}
    (h : s.get id = some entry) :
    (s.remove id).listIds.length + 1 = s.listIds.length := by
  have hmem : id ∈ s.entries.keys := HashMap.mem_iff_lookup.mpr ⟨entry, h⟩
  unfold listIds
  rw [remove_entries, AList.keys_erase, List.length_erase_of_mem hmem]
  have hpos := List.length_pos_of_mem hmem
  omega

theorem Stocked.tail {e : Hash32 × Nat} {sized : List (Hash32 × Nat)}
    (h : s.Stocked (e :: sized)) : (s.remove e.1).Stocked sized where
  nodup := (List.nodup_cons.mp h.nodup).2
  stored other hother := by
    obtain ⟨entry, hget, hsize⟩ :=
      h.stored other (List.mem_cons_of_mem e hother)
    have hne : other.1 ≠ e.1 := by
      intro heq
      have hagain : e.1 ∈ sized.map (·.1) :=
        List.mem_map.mpr ⟨other, hother, heq⟩
      exact (List.nodup_cons.mp h.nodup).1 hagain
    exact ⟨entry, by rw [get_remove, if_neg hne, hget], hsize⟩

theorem Stocked.of_initial {sized dropped : List (Hash32 × Nat)}
    (h : s.Stocked sized) (hpre : dropped <+: sized) :
    s.Stocked dropped where
  nodup := (hpre.map _).sublist.nodup h.nodup
  stored e he := h.stored e (hpre.subset he)

/-- The sizes removed, taken together. -/
theorem Stocked.removes {sized : List (Hash32 × Nat)}
    (h : s.Stocked sized) :
    ((sized.map (·.1)).foldl remove s).totalSizeBytes
        + (sized.map (·.2)).sum = s.totalSizeBytes
      ∧ ((sized.map (·.1)).foldl remove s).listIds.length + sized.length
        = s.listIds.length := by
  induction sized generalizing s with
  | nil => exact ⟨rfl, rfl⟩
  | cons e sized ih =>
      obtain ⟨entry, hget, hsize⟩ := h.stored e List.mem_cons_self
      obtain ⟨htotal, hcount⟩ := ih h.tail
      have htotal' := totalSizeBytes_remove hget
      have hcount' := listIds_remove hget
      rw [List.map_cons, List.foldl_cons, List.map_cons, List.sum_cons,
        List.length_cons]
      omega

/-- The entries of the store that pass a test, with their sizes. -/
theorem stocked_filter (s : PropagationStore)
    (p : (_ : Hash32) × PropagationEntry → Bool) :
    s.Stocked ((s.entries.entries.filter p).map fun e =>
      (e.1, e.2.lxmData.length)) where
  nodup := by
    rw [List.map_map]
    exact (List.filter_sublist.map _).nodup s.entries.nodupKeys
  stored e he := by
    obtain ⟨stored, hstored, rfl⟩ := List.mem_map.mp he
    refine ⟨stored.2, AList.mem_lookup_iff.mpr ?_, rfl⟩
    exact List.mem_of_mem_filter hstored

end PropagationStore

-- ============================================================ weights

theorem F64.max_fin (a b : ℚ) :
    F64.max (.fin a) (.fin b) = .fin (Max.max a b) := by
  have hlt : F64.lt (.fin a) (.fin b) = decide (a < b) := rfl
  show (if F64.lt (.fin a) (.fin b) then F64.fin b else F64.fin a) = _
  rw [hlt]
  by_cases h : a < b
  · rw [if_pos (decide_eq_true h), max_eq_right h.le]
  · rw [if_neg (by simpa using h), max_eq_left (not_lt.mp h)]

namespace LxmfRouter

variable {σ : Type}

/-- The timestamp is a positive number, and not too old. -/
def Alive (nowMs : Nat) (entry : PropagationEntry) : Prop :=
  ∃ t : ℚ, entry.timestamp = .fin t ∧ 0 < t
    ∧ (nowMs : ℚ) / 1000 ≤ t + messageExpiry

theorem expiredEntry_eq_false_iff {nowMs : Nat} {entry : PropagationEntry} :
    expiredEntry (nowS nowMs) entry = false ↔ Alive nowMs entry := by
  unfold expiredEntry nowS Alive
  cases entry.timestamp with
  | nan => simp [F64.isFinite]
  | inf negative => simp [F64.isFinite]
  | fin t => simp [F64.isFinite, F64.le, F64.lt, F64.add]

/-- The weight of an entry of this age, in seconds. -/
def weightAt (prioritised : Finset Hash16) (entry : PropagationEntry)
    (age : ℚ) : ℚ :=
  let priority : ℚ :=
    match destinationPrefix entry.lxmData with
    | some dest => if dest ∈ prioritised then 1 / 10 else 1
    | none => 1
  priority * max (max age 0 / 60 / 60 / 24 / 4) 1 * entry.lxmData.length

/-- Priority, age and size, multiplied. -/
theorem entryWeight_eq {prioritised : Finset Hash16} {nowMs : Nat}
    {entry : PropagationEntry} {t : ℚ} (h : entry.timestamp = .fin t) :
    entryWeight prioritised (nowS nowMs) entry
      = .fin (weightAt prioritised entry ((nowMs : ℚ) / 1000 - t)) := by
  have hage : ((nowS nowMs).sub entry.timestamp).max (.fin 0)
      = .fin (max ((nowMs : ℚ) / 1000 - t) 0) := by
    rw [h]
    show F64.max (.fin ((nowMs : ℚ) / 1000 + -t)) (.fin 0) = _
    rw [F64.max_fin, ← sub_eq_add_neg]
  unfold entryWeight weightAt
  dsimp only
  rw [hage]
  generalize max ((nowMs : ℚ) / 1000 - t) 0 = age
  have hweight : ((F64.exactMul (.fin age)
      (.fin (1 / 60 / 60 / 24))).exactMul
      (.fin (1 / 4))).max (.fin 1)
      = .fin (max (age / 60 / 60 / 24 / 4) 1) := by
    show F64.max (.fin (age * (1 / 60 / 60 / 24) * (1 / 4))) (.fin 1) = _
    rw [F64.max_fin]
    congr 2
    ring
  rw [hweight]
  cases destinationPrefix entry.lxmData with
  | none => rfl
  | some dest =>
      dsimp only
      by_cases hdest : dest ∈ prioritised
      · rw [if_pos hdest, if_pos hdest]
        rfl
      · rw [if_neg hdest, if_neg hdest]
        rfl

-- =========================================================== the order

/-- The number a weight stands for. -/
def weightNumber : F64 → ℚ
  | .fin q => q
  | _ => 0

/-- The order holds each entry once, with its size. -/
theorem byWeight_perm (r : LxmfRouter σ) (now : F64) :
    List.Perm (r.byWeight now)
      (r.propagationStore.entries.entries.map fun e =>
        (e.1, e.2.lxmData.length)) := by
  unfold byWeight
  refine ((List.mergeSort_perm _ _).map _).trans ?_
  rw [List.map_map]
  exact List.Perm.rfl

theorem byWeight_stocked (r : LxmfRouter σ) (now : F64) :
    r.propagationStore.Stocked (r.byWeight now) := by
  have hall := r.propagationStore.stocked_filter fun _ => true
  rw [List.filter_true] at hall
  have hperm := byWeight_perm r now
  exact ⟨(hperm.map _).nodup_iff.mpr hall.nodup,
    fun e he => hall.stored e (hperm.mem_iff.mp he)⟩

theorem byWeight_total (r : LxmfRouter σ) (now : F64) :
    ((r.byWeight now).map (·.2)).sum
      = r.propagationStore.totalSizeBytes := by
  rw [((byWeight_perm r now).map (·.2)).sum_eq, List.map_map]
  rfl

/-- Every stored entry is in the order. -/
theorem mem_byWeight {r : LxmfRouter σ} {now : F64} {id : Hash32}
    {entry : PropagationEntry} (h : r.propagationStore.get id = some entry) :
    (id, entry.lxmData.length) ∈ r.byWeight now :=
  (byWeight_perm r now).mem_iff.mpr
    (List.mem_map.mpr ⟨⟨id, entry⟩, AList.mem_lookup_iff.mp h, rfl⟩)

/-- Of two entries the first in the order weighs at least as much. -/
def Heavier (r : LxmfRouter σ) (now : F64) (a b : Hash32) : Prop :=
  ∀ entryA entryB, r.propagationStore.get a = some entryA →
    r.propagationStore.get b = some entryB →
    (entryWeight r.propagationPrioritised now entryB).le
      (entryWeight r.propagationPrioritised now entryA) = true

theorem byWeight_heavier {r : LxmfRouter σ} {nowMs : Nat}
    (h : ∀ id entry, r.propagationStore.get id = some entry →
      Alive nowMs entry) :
    (r.byWeight (nowS nowMs)).Pairwise fun a b =>
      r.Heavier (nowS nowMs) a.1 b.1 := by
  unfold byWeight
  dsimp only
  generalize hweighted : (r.propagationStore.entries.entries.map fun e =>
    (entryWeight r.propagationPrioritised (nowS nowMs) e.2, e.1,
      e.2.lxmData.length)) = weighted
  have hweight : ∀ a ∈ weighted, ∃ entry,
      r.propagationStore.get a.2.1 = some entry
      ∧ a.1 = entryWeight r.propagationPrioritised (nowS nowMs) entry
      ∧ a.1 = .fin (weightNumber a.1) := by
    intro a ha
    rw [← hweighted] at ha
    obtain ⟨e, he, rfl⟩ := List.mem_map.mp ha
    have hget : r.propagationStore.get e.1 = some e.2 :=
      AList.mem_lookup_iff.mpr he
    obtain ⟨t, ht, -⟩ := h _ _ hget
    exact ⟨e.2, hget, rfl, by rw [entryWeight_eq ht]; rfl⟩
  -- the comparison of the source is an order on weights that are numbers
  have hsorted : weighted.mergeSort (fun a b => !a.1.lt b.1)
      = weighted.mergeSort
        fun a b => decide (weightNumber b.1 ≤ weightNumber a.1) := by
    have hsame := List.map_mergeSort (f := id) (l := weighted)
      (r := fun a b => !a.1.lt b.1)
      (s := fun a b => decide (weightNumber b.1 ≤ weightNumber a.1)) ?_
    · rwa [List.map_id, List.map_id] at hsame
    · intro a ha b hb
      obtain ⟨_, _, _, hfinA⟩ := hweight a ha
      obtain ⟨_, _, _, hfinB⟩ := hweight b hb
      show (!a.1.lt b.1) = decide (weightNumber b.1 ≤ weightNumber a.1)
      rw [hfinA, hfinB]
      show (!decide _) = _
      rw [← decide_not]
      exact decide_eq_decide.mpr not_lt
  rw [hsorted, List.pairwise_map]
  refine List.Pairwise.imp_of_mem ?_ (List.pairwise_mergeSort ?_ ?_ weighted)
  · intro a b ha hb hle entryA entryB hgetA hgetB
    obtain ⟨foundA, hfoundA, hwA, hfinA⟩ :=
      hweight a (List.mem_mergeSort.mp ha)
    obtain ⟨foundB, hfoundB, hwB, hfinB⟩ :=
      hweight b (List.mem_mergeSort.mp hb)
    rw [hfoundA] at hgetA
    rw [hfoundB] at hgetB
    rw [← Option.some.inj hgetA, ← Option.some.inj hgetB, ← hwA, ← hwB,
      hfinA, hfinB]
    exact hle
  · intro a b c hab hbc
    exact decide_eq_true
      ((of_decide_eq_true hbc).trans (of_decide_eq_true hab))
  · intro a b
    rcases le_total (weightNumber b.1) (weightNumber a.1) with hle | hle
    · rw [decide_eq_true hle, Bool.true_or]
    · rw [decide_eq_true hle, Bool.or_true]

-- =========================================================== the loops

/-- The ids the first loop removes. -/
def expiredIds (r : LxmfRouter σ) (nowMs : Nat) : List Hash32 :=
  (r.propagationStore.entries.entries.filter fun e =>
    expiredEntry (nowS nowMs) e.2).map (·.1)

/-- The router after the first loop. -/
def withoutExpired (r : LxmfRouter σ) (nowMs : Nat) : LxmfRouter σ :=
  (r.expiredIds nowMs).foldl removeEntry r

/-- What the second loop removes, in its order: of the ids in falling
weight, those before enough is freed. -/
def evicted (r : LxmfRouter σ) (nowMs : Nat) : List (Hash32 × Nat) :=
  match r.propagationStoreLimitBytes with
  | some limitBytes =>
      let totalBytes := r.propagationStore.totalSizeBytes
      if limitBytes < totalBytes then
        shed u64Max (totalBytes - limitBytes) (·.2)
          (r.byWeight (nowS nowMs)) 0
      else []
  | none => []

/-- The ids a cleanup evicts, in its order. -/
def evictedIds (r : LxmfRouter σ) (nowMs : Nat) : List Hash32 :=
  ((r.withoutExpired nowMs).evicted nowMs).map (·.1)

theorem removeEntry_store (r : LxmfRouter σ) (id : Hash32) :
    (r.removeEntry id).propagationStore = r.propagationStore.remove id := by
  obtain ⟨root, h⟩ := removeEntry_eq r id
  rw [h]

theorem removeEntries_store (r : LxmfRouter σ) (ids : List Hash32) :
    (ids.foldl removeEntry r).propagationStore
      = ids.foldl PropagationStore.remove r.propagationStore := by
  obtain ⟨root, h⟩ := removeEntries_eq r ids
  rw [h]

/-- The eviction loop drops what it should of a list of stored ids. -/
theorem evictEntries_eq_shed {r : LxmfRouter σ}
    {sized : List (Hash32 × Nat)} (h : r.propagationStore.Stocked sized)
    (bytesNeeded freed : Nat) :
    evictEntries bytesNeeded sized freed r
      = (let dropped := shed u64Max bytesNeeded (·.2) sized freed
         (dropped.length, (dropped.map (·.1)).foldl removeEntry r)) := by
  induction sized generalizing freed r with
  | nil => rfl
  | cons e sized ih =>
      obtain ⟨entry, hget, -⟩ := h.stored e List.mem_cons_self
      have hhas : r.propagationStore.has e.1 = true :=
        PropagationStore.has_iff.mpr
          (HashMap.mem_iff_lookup.mpr ⟨entry, hget⟩)
      have htail : (r.removeEntry e.1).propagationStore.Stocked sized := by
        rw [removeEntry_store]
        exact h.tail
      have hrest := ih htail (satAdd64 freed e.2)
      unfold evictEntries shed
      dsimp only
      by_cases henough : bytesNeeded ≤ freed
      · rw [if_pos henough, if_pos henough]
        rfl
      · rw [if_neg henough, if_neg henough, if_pos hhas, hrest]
        rfl

theorem cleanPropagationStore_runs (r : LxmfRouter σ) (nowMs : Nat) :
    r.cleanPropagationStore nowMs
      = ((r.expiredIds nowMs).length + (r.evictedIds nowMs).length,
        (r.evictedIds nowMs).foldl removeEntry
          (r.withoutExpired nowMs)) := by
  unfold cleanPropagationStore evictedIds withoutExpired expiredIds
  dsimp only
  generalize (r.propagationStore.entries.entries.filter fun e =>
    expiredEntry (nowS nowMs) e.2).map (·.1) = expired
  generalize expired.foldl removeEntry r = kept
  unfold evicted
  cases kept.propagationStoreLimitBytes with
  | none => rfl
  | some limitBytes =>
      dsimp only
      by_cases habove : limitBytes < kept.propagationStore.totalSizeBytes
      · rw [if_pos habove, if_pos habove,
          evictEntries_eq_shed (byWeight_stocked kept (nowS nowMs)),
          List.length_map]
      · rw [if_neg habove, if_neg habove]
        rfl

-- ======================================================= the first loop

theorem mem_expiredIds {r : LxmfRouter σ} {nowMs : Nat} {id : Hash32} :
    id ∈ r.expiredIds nowMs ↔ ∃ entry,
      r.propagationStore.get id = some entry ∧ ¬ Alive nowMs entry := by
  unfold expiredIds
  constructor
  · intro h
    obtain ⟨e, he, rfl⟩ := List.mem_map.mp h
    obtain ⟨hmem, hexpired⟩ := List.mem_filter.mp he
    refine ⟨e.2, AList.mem_lookup_iff.mpr hmem, ?_⟩
    rw [← expiredEntry_eq_false_iff, hexpired]
    exact fun h => nomatch h
  · rintro ⟨entry, hget, hdead⟩
    rw [← expiredEntry_eq_false_iff, Bool.not_eq_false] at hdead
    exact List.mem_map.mpr ⟨⟨id, entry⟩,
      List.mem_filter.mpr ⟨AList.mem_lookup_iff.mp hget, hdead⟩, rfl⟩

/-- The first loop leaves the entries that are alive. -/
theorem get_withoutExpired {r : LxmfRouter σ} {nowMs : Nat} {id : Hash32}
    {entry : PropagationEntry} :
    (r.withoutExpired nowMs).propagationStore.get id = some entry
      ↔ r.propagationStore.get id = some entry ∧ Alive nowMs entry := by
  unfold withoutExpired
  rw [removeEntries_store, PropagationStore.get_removes]
  by_cases hexpired : id ∈ r.expiredIds nowMs
  · rw [if_pos hexpired]
    obtain ⟨dead, hget, hdead⟩ := mem_expiredIds.mp hexpired
    refine iff_of_false (fun h => nomatch h) ?_
    rintro ⟨hsame, halive⟩
    rw [hget] at hsame
    exact hdead (Option.some.inj hsame ▸ halive)
  · rw [if_neg hexpired]
    constructor
    · intro hget
      refine ⟨hget, ?_⟩
      by_contra hdead
      exact hexpired (mem_expiredIds.mpr ⟨entry, hget, hdead⟩)
    · exact fun h => h.1

theorem withoutExpired_count (r : LxmfRouter σ) (nowMs : Nat) :
    (r.withoutExpired nowMs).propagationStore.listIds.length
        + (r.expiredIds nowMs).length
      = r.propagationStore.listIds.length := by
  have hcount := (r.propagationStore.stocked_filter fun e =>
    expiredEntry (nowS nowMs) e.2).removes.2
  rw [List.map_map, List.length_map] at hcount
  unfold withoutExpired
  rw [removeEntries_store]
  unfold expiredIds
  rw [List.length_map]
  exact hcount

theorem withoutExpired_settings (r : LxmfRouter σ) (nowMs : Nat) :
    (r.withoutExpired nowMs).propagationStoreLimitBytes
        = r.propagationStoreLimitBytes
      ∧ (r.withoutExpired nowMs).propagationPrioritised
        = r.propagationPrioritised := by
  obtain ⟨root, h⟩ := removeEntries_eq r (r.expiredIds nowMs)
  unfold withoutExpired
  rw [h]
  exact ⟨rfl, rfl⟩

-- ====================================================== the second loop

theorem evicted_initial (r : LxmfRouter σ) (nowMs : Nat) :
    r.evicted nowMs <+: r.byWeight (nowS nowMs) := by
  unfold evicted
  split
  case h_1 =>
    dsimp only
    split
    case isTrue => exact shed_prefix
    case isFalse => exact List.nil_prefix
  case h_2 => exact List.nil_prefix

theorem evicted_stocked (r : LxmfRouter σ) (nowMs : Nat) :
    r.propagationStore.Stocked (r.evicted nowMs) :=
  (byWeight_stocked r _).of_initial (evicted_initial r nowMs)

/-- Without what is evicted the store is within its limit. -/
theorem evicted_enough {r : LxmfRouter σ} {nowMs limitBytes : Nat}
    (h : r.propagationStoreLimitBytes = some limitBytes) :
    r.propagationStore.totalSizeBytes
      ≤ limitBytes + ((r.evicted nowMs).map (·.2)).sum := by
  unfold evicted
  rw [h]
  dsimp only
  split
  case isTrue =>
    rcases shed_enough u64Max
      (r.propagationStore.totalSizeBytes - limitBytes) (·.2)
      (r.byWeight (nowS nowMs)) 0 with hall | hsum
    · rw [hall, byWeight_total]
      exact Nat.le_add_left _ _
    · omega
  case isFalse => omega

/-- With the last of it put back the store is above its limit. -/
theorem evicted_last {r : LxmfRouter σ} {nowMs limitBytes : Nat}
    {init : List (Hash32 × Nat)} {last : Hash32 × Nat}
    (h : r.propagationStoreLimitBytes = some limitBytes)
    (hfits : r.propagationStore.totalSizeBytes ≤ u64Max)
    (hlast : r.evicted nowMs = init ++ [last]) :
    limitBytes + (init.map (·.2)).sum
      < r.propagationStore.totalSizeBytes := by
  unfold evicted at hlast
  rw [h] at hlast
  dsimp only at hlast
  split at hlast
  case isTrue habove =>
    have hshort := shed_last (by omega) hlast
    omega
  case isFalse => simp at hlast

/-- What is evicted weighs at least as much as what is not. -/
theorem evicted_heavier {r : LxmfRouter σ} {nowMs : Nat}
    (h : ∀ id entry, r.propagationStore.get id = some entry →
      Alive nowMs entry) {a b : Hash32} {entryB : PropagationEntry}
    (ha : a ∈ (r.evicted nowMs).map (·.1))
    (hb : r.propagationStore.get b = some entryB)
    (hkept : b ∉ (r.evicted nowMs).map (·.1)) :
    r.Heavier (nowS nowMs) a b := by
  obtain ⟨rest, hrest⟩ := evicted_initial r nowMs
  have hordered := byWeight_heavier h
  rw [← hrest] at hordered
  have hacross := (List.pairwise_append.mp hordered).2.2
  obtain ⟨e, he, rfl⟩ := List.mem_map.mp ha
  have hmem : (b, entryB.lxmData.length) ∈ r.byWeight (nowS nowMs) :=
    mem_byWeight hb
  rw [← hrest] at hmem
  rcases List.mem_append.mp hmem with hevicted | hleft
  · exact absurd (List.mem_map.mpr ⟨_, hevicted, rfl⟩) hkept
  · exact hacross e he _ hleft

-- ========================================================= the cleanup

/-- The result of a cleanup, the number it returns and the router it
leaves. -/
structure StoreCleaned (r : LxmfRouter σ) (nowMs : Nat)
    (result : Nat × LxmfRouter σ) : Prop where
  /-- The expired entries go, then those evicted, one after the other. -/
  inOrder : result.2
    = (r.evictedIds nowMs).foldl removeEntry (r.withoutExpired nowMs)
  alive : ∀ id entry, result.2.propagationStore.get id = some entry →
    Alive nowMs entry
  unchanged : ∀ id entry, result.2.propagationStore.get id = some entry →
    r.propagationStore.get id = some entry
  evicts : ∀ id, id ∈ r.evictedIds nowMs ↔
    result.2.propagationStore.get id = none ∧ ∃ entry,
      r.propagationStore.get id = some entry ∧ Alive nowMs entry
  within : ∀ limitBytes, r.propagationStoreLimitBytes = some limitBytes →
    result.2.propagationStore.totalSizeBytes ≤ limitBytes
  heaviest : ∀ id ∈ r.evictedIds nowMs, ∀ kept entry,
    result.2.propagationStore.get kept = some entry →
    r.Heavier (nowS nowMs) id kept
  needed : ∀ limitBytes, r.propagationStoreLimitBytes = some limitBytes →
    r.propagationStore.totalSizeBytes ≤ u64Max →
    ∀ last entry, (r.evictedIds nowMs).getLast? = some last →
      r.propagationStore.get last = some entry →
      limitBytes < result.2.propagationStore.totalSizeBytes
        + entry.lxmData.length
  unlimited : r.propagationStoreLimitBytes = none → r.evictedIds nowMs = []
  count : result.1 + result.2.propagationStore.listIds.length
    = r.propagationStore.listIds.length

theorem cleanPropagationStore_get {r : LxmfRouter σ} {nowMs : Nat}
    {id : Hash32} {entry : PropagationEntry} :
    (r.cleanPropagationStore nowMs).2.propagationStore.get id = some entry
      ↔ id ∉ r.evictedIds nowMs
        ∧ r.propagationStore.get id = some entry ∧ Alive nowMs entry := by
  rw [cleanPropagationStore_runs, removeEntries_store,
    PropagationStore.get_removes, ← get_withoutExpired]
  by_cases h : id ∈ r.evictedIds nowMs
  · rw [if_pos h]
    exact iff_of_false (fun hnone => nomatch hnone) fun hboth => hboth.1 h
  · rw [if_neg h]
    exact (and_iff_right h).symm

/-- The expired entries take their size with them. -/
theorem withoutExpired_total (r : LxmfRouter σ) (nowMs : Nat) :
    (r.withoutExpired nowMs).propagationStore.totalSizeBytes
      ≤ r.propagationStore.totalSizeBytes := by
  have htotal := (r.propagationStore.stocked_filter fun e =>
    expiredEntry (nowS nowMs) e.2).removes.1
  rw [List.map_map] at htotal
  unfold withoutExpired
  rw [removeEntries_store]
  exact Nat.le.intro htotal

/-- What is evicted is alive. -/
theorem alive_of_evicted {r : LxmfRouter σ} {nowMs : Nat} {id : Hash32}
    (h : id ∈ r.evictedIds nowMs) :
    ∃ entry, r.propagationStore.get id = some entry
      ∧ Alive nowMs entry := by
  obtain ⟨e, he, rfl⟩ := List.mem_map.mp h
  obtain ⟨entry, hget, -⟩ :=
    (evicted_stocked (r.withoutExpired nowMs) nowMs).stored e he
  exact ⟨entry, get_withoutExpired.mp hget⟩

theorem evictedIds_heaviest {r : LxmfRouter σ} {nowMs : Nat}
    {id kept : Hash32} {entry : PropagationEntry}
    (hid : id ∈ r.evictedIds nowMs)
    (hkept : (r.cleanPropagationStore nowMs).2.propagationStore.get kept
      = some entry) :
    r.Heavier (nowS nowMs) id kept := by
  obtain ⟨hleft, hget, halive⟩ := cleanPropagationStore_get.mp hkept
  have hheavier : (r.withoutExpired nowMs).Heavier (nowS nowMs) id kept :=
    evicted_heavier (fun k e hk => (get_withoutExpired.mp hk).2) hid
      (get_withoutExpired.mpr ⟨hget, halive⟩) hleft
  intro entryA entryB hA hB
  obtain ⟨found, hfound, halive'⟩ := alive_of_evicted hid
  rw [hA] at hfound
  rw [← Option.some.inj hfound] at halive'
  rw [hget] at hB
  rw [← (withoutExpired_settings r nowMs).2]
  refine hheavier entryA entryB (get_withoutExpired.mpr ⟨hA, halive'⟩) ?_
  rw [← hB]
  exact get_withoutExpired.mpr ⟨hget, halive⟩

/-- Back with the last evicted entry, the store is above its limit. -/
theorem evictedIds_needed {r : LxmfRouter σ} {nowMs limitBytes : Nat}
    (hlimit : r.propagationStoreLimitBytes = some limitBytes)
    (hfits : r.propagationStore.totalSizeBytes ≤ u64Max)
    {last : Hash32} {entry : PropagationEntry}
    (hlast : (r.evictedIds nowMs).getLast? = some last)
    (hget : r.propagationStore.get last = some entry) :
    limitBytes < ((r.evictedIds nowMs).foldl PropagationStore.remove
        (r.withoutExpired nowMs).propagationStore).totalSizeBytes
      + entry.lxmData.length := by
  have hstocked := evicted_stocked (r.withoutExpired nowMs) nowMs
  have htotal := hstocked.removes.1
  have hbound := withoutExpired_total r nowMs
  rw [← (withoutExpired_settings r nowMs).1] at hlimit
  unfold evictedIds at hlast ⊢
  rw [List.getLast?_map, Option.map_eq_some_iff] at hlast
  obtain ⟨e, he, rfl⟩ := hlast
  obtain ⟨init, hinit⟩ := List.getLast?_eq_some_iff.mp he
  have hshort := evicted_last hlimit (hbound.trans hfits) hinit
  obtain ⟨found, hfound, hsize⟩ :=
    hstocked.stored e (List.mem_of_getLast? he)
  have hsame : found = entry :=
    Option.some.inj ((get_withoutExpired.mp hfound).1.symm.trans hget)
  have hsum : (((r.withoutExpired nowMs).evicted nowMs).map (·.2)).sum
      = (init.map (·.2)).sum + e.2 := by
    rw [hinit, List.map_append, List.sum_append]
    rfl
  rw [← hsame, hsize]
  omega

/-- A cleanup leaves no expired entry and, of the others, those that fit,
giving up the heaviest and no more of them than it has to. -/
theorem store_cleanup (r : LxmfRouter σ) (nowMs : Nat) :
    StoreCleaned r nowMs (r.cleanPropagationStore nowMs) := by
  have hruns := cleanPropagationStore_runs r nowMs
  have hstocked := evicted_stocked (r.withoutExpired nowMs) nowMs
  obtain ⟨htotal, hcount⟩ := hstocked.removes
  have hstore : (r.cleanPropagationStore nowMs).2.propagationStore
      = (r.evictedIds nowMs).foldl PropagationStore.remove
        (r.withoutExpired nowMs).propagationStore := by
    rw [hruns, removeEntries_store]
  refine ⟨by rw [hruns], ?_, ?_, ?_, ?_, ?_, ?_, ?_, ?_⟩
  · exact fun id entry h => (cleanPropagationStore_get.mp h).2.2
  · exact fun id entry h => (cleanPropagationStore_get.mp h).2.1
  · intro id
    constructor
    · intro hid
      refine ⟨?_, alive_of_evicted hid⟩
      rw [Option.eq_none_iff_forall_ne_some]
      exact fun entry h => (cleanPropagationStore_get.mp h).1 hid
    · rintro ⟨hgone, entry, hget, halive⟩
      by_contra hid
      rw [cleanPropagationStore_get.mpr ⟨hid, hget, halive⟩] at hgone
      cases hgone
  · intro limitBytes hlimit
    rw [← (withoutExpired_settings r nowMs).1] at hlimit
    have henough : (r.withoutExpired nowMs).propagationStore.totalSizeBytes
        ≤ limitBytes
          + (((r.withoutExpired nowMs).evicted nowMs).map (·.2)).sum :=
      evicted_enough hlimit
    rw [hstore]
    unfold evictedIds
    omega
  · exact fun id hid kept entry h => evictedIds_heaviest hid h
  · intro limitBytes hlimit hfits last entry hlast hget
    rw [hstore]
    exact evictedIds_needed hlimit hfits hlast hget
  · intro hlimit
    rw [← (withoutExpired_settings r nowMs).1] at hlimit
    unfold evictedIds evicted
    rw [hlimit]
    rfl
  · have hexpired := withoutExpired_count r nowMs
    have hreturned : (r.cleanPropagationStore nowMs).1
        = (r.expiredIds nowMs).length + (r.evictedIds nowMs).length := by
      rw [hruns]
    rw [hstore, hreturned]
    unfold evictedIds
    rw [List.length_map]
    omega

end LxmfRouter

end Lxmf
