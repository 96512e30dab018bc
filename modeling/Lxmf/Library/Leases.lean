/-
Records that lapse when nothing happens to their key for too long.

A table of leases is told by the times it holds for each key (`Held`).
A key may have several records, as a list without unique keys has, and a
renewal may change one of them and leave the others behind. Beside the
table stands the history: of each key, the time it was recorded last
while it was in the table.

# What a sweep decides

No record is newer than the history, and the newest record is the
history's own, unless that has lapsed already (`Tells`). Recording a key
keeps this, and so do a sweep and the time that passes. So after a sweep
a key is in the table exactly when its last recording is recent enough
(`Tells.held_iff`), however many records it had.
-/
import Mathlib.Logic.Function.Basic

namespace Leases

variable {κ : Type*}

/-- The keys and times in a table. -/
abbrev Held (κ : Type*) := κ → Nat → Prop

/-- A history says of a table, up to now, what it holds. -/
structure Tells (latest : κ → Option Nat) (held : Held κ)
    (limit now : Nat) : Prop where
  recorded : ∀ k t, held k t → ∃ l, latest k = some l ∧ t ≤ l
  newest : ∀ k l, latest k = some l → held k l ∨ limit < now - l
  past : ∀ k l, latest k = some l → l ≤ now

variable {latest : κ → Option Nat} {held held' : Held κ}
  {limit now next : Nat}

theorem tells_empty (limit now : Nat) :
    Tells (fun _ : κ => none) (fun _ _ => False) limit now where
  recorded _ _ h := h.elim
  newest _ _ h := by cases h
  past _ _ h := by cases h

/-- Time passes. -/
theorem Tells.later (h : Tells latest held limit now) (hle : now ≤ next) :
    Tells latest held limit next where
  recorded := h.recorded
  newest k l hl := by
    rcases h.newest k l hl with hheld | hlapsed
    · exact .inl hheld
    · right
      omega
  past k l hl := Nat.le_trans (h.past k l hl) hle

/-- A table with the same records. -/
theorem Tells.congr (h : Tells latest held limit now)
    (hsame : ∀ k t, held' k t ↔ held k t) :
    Tells latest held' limit now where
  recorded k t ht := h.recorded k t ((hsame k t).mp ht)
  newest k l hl := by
    rcases h.newest k l hl with hheld | hlapsed
    · exact .inl ((hsame k l).mpr hheld)
    · exact .inr hlapsed
  past := h.past

/-- A record of `k` is added or renewed now: `k` is recorded with the
time, and the other records are among those from before. -/
structure Records (k : κ) (now : Nat) (held held' : Held κ) : Prop where
  self : held' k now
  others : ∀ t, held' k t → t = now ∨ held k t
  frame : ∀ j, j ≠ k → ∀ t, held' j t ↔ held j t

theorem Tells.record [DecidableEq κ] (h : Tells latest held limit now)
    {k : κ} (hrec : Records k now held held') :
    Tells (Function.update latest k (some now)) held' limit now where
  recorded j t ht := by
    by_cases hj : j = k
    · subst hj
      refine ⟨now, Function.update_self .., ?_⟩
      rcases hrec.others t ht with rfl | hold
      · exact Nat.le_refl t
      · obtain ⟨l, hl, hle⟩ := h.recorded j t hold
        exact Nat.le_trans hle (h.past j l hl)
    · rw [Function.update_of_ne hj]
      exact h.recorded j t ((hrec.frame j hj t).mp ht)
  newest j l hl := by
    by_cases hj : j = k
    · subst hj
      rw [Function.update_self] at hl
      injection hl with hl
      subst hl
      exact .inl hrec.self
    · rw [Function.update_of_ne hj] at hl
      rcases h.newest j l hl with hheld | hlapsed
      · exact .inl ((hrec.frame j hj l).mpr hheld)
      · exact .inr hlapsed
  past j l hl := by
    by_cases hj : j = k
    · subst hj
      rw [Function.update_self] at hl
      injection hl with hl
      exact Nat.le_of_eq hl.symm
    · rw [Function.update_of_ne hj] at hl
      exact h.past j l hl

/-- What has lapsed is removed. -/
def Swept (limit now : Nat) (held held' : Held κ) : Prop :=
  ∀ k t, held' k t ↔ held k t ∧ now - t ≤ limit

theorem Tells.sweep (h : Tells latest held limit now)
    (hswept : Swept limit now held held') :
    Tells latest held' limit now where
  recorded k t ht := h.recorded k t ((hswept k t).mp ht).1
  newest k l hl := by
    by_cases hlapsed : limit < now - l
    · exact .inr hlapsed
    · have hheld := (h.newest k l hl).resolve_right hlapsed
      exact .inl ((hswept k l).mpr ⟨hheld, Nat.not_lt.mp hlapsed⟩)
  past := h.past

/-- After a sweep a key is there exactly when it was recorded recently
enough. -/
theorem Tells.held_iff (h : Tells latest held limit now)
    (hswept : Swept limit now held held') (k : κ) :
    (∃ t, held' k t) ↔ ∃ l, latest k = some l ∧ now - l ≤ limit := by
  constructor
  · rintro ⟨t, ht⟩
    obtain ⟨hheld, hrecent⟩ := (hswept k t).mp ht
    obtain ⟨l, hl, hle⟩ := h.recorded k t hheld
    exact ⟨l, hl, by omega⟩
  · rintro ⟨l, hl, hrecent⟩
    have hheld := (h.newest k l hl).resolve_right (Nat.not_lt.mpr hrecent)
    exact ⟨l, (hswept k l).mpr ⟨hheld, hrecent⟩⟩

end Leases
