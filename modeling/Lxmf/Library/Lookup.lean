/-
Association lists told by what a lookup finds.

Two maps agree when every lookup in them finds the same, whatever the
order of their entries (`Agrees`). Inserting respects it, and what one
entry at most satisfies is found alike in both (`Agrees.find?_eq`). A
map rebuilt from its entries, each value changed by `f`, finds the
changed value (`lookup_rebuild`), which is what writing a map entry by
entry and reading it back rests on.
-/
import Mathlib.Data.List.AList
import Mathlib.Tactic.Tauto

namespace AList

variable {α : Type*} [DecidableEq α] {β : α → Type*}

/-- Every lookup finds the same in both. -/
def Agrees (m m' : AList β) : Prop := ∀ k, m.lookup k = m'.lookup k

variable {m m' : AList β}

theorem Agrees.refl (m : AList β) : m.Agrees m := fun _ => rfl

theorem Agrees.mem_iff (h : m.Agrees m') {k : α} : k ∈ m ↔ k ∈ m' := by
  rw [← lookup_isSome, ← lookup_isSome, h k]

theorem Agrees.insert (h : m.Agrees m') (k : α) (v : β k) :
    (m.insert k v).Agrees (m'.insert k v) := by
  intro other
  by_cases hother : other = k
  · subst hother
    rw [lookup_insert, lookup_insert]
  · rw [lookup_insert_ne hother, lookup_insert_ne hother, h other]

theorem Agrees.mem_entries_iff (h : m.Agrees m') {e : Sigma β} :
    e ∈ m.entries ↔ e ∈ m'.entries := by
  obtain ⟨k, v⟩ := e
  rw [← mem_lookup_iff, ← mem_lookup_iff, h k]

/-- Where one entry at most is looked for, it is found in any order. -/
theorem Agrees.find?_eq (h : m.Agrees m') {p : Sigma β → Bool}
    (hunique : ∀ a ∈ m.entries, ∀ b ∈ m.entries,
      p a = true → p b = true → a = b) :
    m.entries.find? p = m'.entries.find? p := by
  cases hfound : m.entries.find? p with
  | none =>
      rw [List.find?_eq_none] at hfound
      refine (List.find?_eq_none.mpr fun a ha => ?_).symm
      exact hfound a (h.mem_entries_iff.mpr ha)
  | some a =>
      have ha := List.mem_of_find?_eq_some hfound
      have hp := List.find?_some hfound
      cases hfound' : m'.entries.find? p with
      | none =>
          rw [List.find?_eq_none] at hfound'
          exact absurd hp (hfound' a (h.mem_entries_iff.mp ha))
      | some b =>
          have hb := h.mem_entries_iff.mpr
            (List.mem_of_find?_eq_some hfound')
          rw [hunique a ha b hb hp (List.find?_some hfound')]

-- ============================================================== erasing

theorem mem_foldl_erase {ids : List α} {k : α} :
    k ∈ ids.foldl (fun m id => m.erase id) m ↔ k ∈ m ∧ k ∉ ids := by
  induction ids generalizing m with
  | nil => simp
  | cons id ids ih =>
      rw [List.foldl_cons, ih, mem_erase, List.mem_cons]
      tauto

theorem lookup_foldl_erase {ids : List α} {k : α} (h : k ∉ ids) :
    (ids.foldl (fun m id => m.erase id) m).lookup k = m.lookup k := by
  induction ids generalizing m with
  | nil => rfl
  | cons first ids ih =>
      have hids := List.not_mem_of_not_mem_cons h
      rw [List.foldl_cons, ih hids,
        lookup_erase_ne (List.ne_of_not_mem_cons h)]

theorem lookup_of_lookup_foldl_erase {ids : List α} {k : α} {v : β k}
    (h : (ids.foldl (fun m id => m.erase id) m).lookup k = some v) :
    m.lookup k = some v ∧ k ∉ ids := by
  have hmem : k ∈ ids.foldl (fun m id => m.erase id) m := by
    rw [← lookup_isSome, h]
    rfl
  have hkept := mem_foldl_erase.mp hmem
  exact ⟨(lookup_foldl_erase hkept.2).symm.trans h, hkept.2⟩

-- =========================================================== rebuilding

section Rebuild

variable {V W : Type*}

/-- Inserting distinct keys one after the other: each is found with its
own value, any other as before. -/
theorem lookup_foldl_insert (f : V → W)
    {entries : List (Sigma fun _ : α => V)} (h : entries.NodupKeys)
    (m : AList fun _ : α => W) (k : α) :
    (entries.foldl (fun t e => t.insert e.1 (f e.2)) m).lookup k
      = ((entries.dlookup k).map f).or (m.lookup k) := by
  induction entries generalizing m with
  | nil => rfl
  | cons e entries ih =>
      obtain ⟨hnew, hrest⟩ := List.nodupKeys_cons.mp h
      rw [List.foldl_cons, ih hrest]
      by_cases hk : k = e.1
      · subst hk
        rw [lookup_insert, List.dlookup_eq_none.mpr hnew]
        obtain ⟨key, v⟩ := e
        rw [List.dlookup_cons_eq]
        rfl
      · obtain ⟨key, v⟩ := e
        rw [lookup_insert_ne hk, List.dlookup_cons_ne entries ⟨key, v⟩ hk]

/-- A map rebuilt from its entries. -/
theorem lookup_rebuild (f : V → W) (m : AList fun _ : α => V) (k : α) :
    (m.entries.foldl (fun t e => t.insert e.1 (f e.2))
        (∅ : AList fun _ : α => W)).lookup k
      = (m.lookup k).map f := by
  rw [lookup_foldl_insert f m.nodupKeys, lookup_empty, Option.or_none]
  rfl

/-- Values inserted under keys of their own: the last one of a key is
found. -/
theorem lookup_foldl_insert_key (key : V → α) (vs : List V)
    (m : AList fun _ : α => V) (k : α) :
    (vs.foldl (fun t v => t.insert (key v) v) m).lookup k
      = ((vs.filter fun v => decide (key v = k)).getLast?).or
        (m.lookup k) := by
  induction vs generalizing m with
  | nil => rfl
  | cons v vs ih =>
      rw [List.foldl_cons, ih]
      by_cases hk : key v = k
      · subst hk
        rw [lookup_insert, List.filter_cons_of_pos (by simp),
          List.getLast?_cons]
        cases (vs.filter fun w => decide (key w = key v)).getLast? with
        | none => rfl
        | some w => rfl
      · rw [lookup_insert_ne (Ne.symm hk),
          List.filter_cons_of_neg (by simpa using hk)]

/-- Where one value of a key at most is inserted, it is the one found. -/
theorem lookup_foldl_insert_iff {key : V → α} {vs : List V} {k : α}
    {found : Option V} (h : ∀ v, v ∈ vs ∧ key v = k ↔ found = some v) :
    (vs.foldl (fun t v => t.insert (key v) v)
        (∅ : AList fun _ : α => V)).lookup k = found := by
  rw [lookup_foldl_insert_key, lookup_empty, Option.or_none]
  have hmem : ∀ v, v ∈ vs.filter (fun w => decide (key w = k))
      ↔ found = some v := by
    intro v
    rw [← h v, List.mem_filter, decide_eq_true_iff]
  cases hlast : (vs.filter fun v => decide (key v = k)).getLast? with
  | some v => exact ((hmem v).mp (List.mem_of_getLast? hlast)).symm
  | none =>
      have hnil := List.getLast?_eq_none_iff.mp hlast
      cases found with
      | none => rfl
      | some v =>
          have hv := (hmem v).mpr rfl
          rw [hnil] at hv
          exact absurd hv List.not_mem_nil

/-- Every key of a list gets a new value. -/
theorem lookup_foldl_assign (g : α → V) (keys : List α)
    (m : AList fun _ : α => V) (k : α) :
    (keys.foldl (fun t key => t.insert key (g key)) m).lookup k
      = if k ∈ keys then some (g k) else m.lookup k := by
  induction keys generalizing m with
  | nil => simp
  | cons key keys ih =>
      rw [List.foldl_cons, ih]
      by_cases hk : k = key
      · subst hk
        simp
      · simp [hk, lookup_insert_ne hk]

/-- The values of all keys are changed. -/
theorem lookup_assign_keys (g : α → V) (m : AList fun _ : α => V) (k : α) :
    (m.keys.foldl (fun t key => t.insert key (g key)) m).lookup k
      = (m.lookup k).map fun _ => g k := by
  rw [lookup_foldl_assign]
  cases hlookup : m.lookup k with
  | none =>
      have hout : k ∉ m.keys := by
        rw [← mem_keys, ← lookup_isSome, hlookup]
        simp
      rw [if_neg hout]
      rfl
  | some v =>
      have hin : k ∈ m.keys := by
        rw [← mem_keys, ← lookup_isSome, hlookup]
        rfl
      rw [if_pos hin]
      rfl

end Rebuild

end AList
