/-
Cells that are written and flagged by key, and two stores that send each
other what they hold.

A write replaces the value of a cell, whatever it was, and keeps its
flag; a flag update sets the flag of a cell that is there. A store is a
cell for each key.

# Arrival, not age

A write does not look at what it replaces. So a run of updates leaves
the value that was written last (`value_run`), however old it is, and
two stores that send each other all they hold end with the same values,
those of the one that sent first (`exchange`). A flag is never cleared.
-/
import Mathlib.Data.List.Induction
import Mathlib.Logic.Function.Basic

namespace Registers

variable {κ β γ : Type*}

structure Cell (β : Type*) where
  value : β
  flagged : Bool

inductive Update (β : Type*) where
  | write (value : β)
  | flag

namespace Update

def value? : Update β → Option β
  | .write value => some value
  | .flag => none

/-- The cell after the update. -/
def act (c : Option (Cell β)) : Update β → Option (Cell β)
  | .write value => some ⟨value, (c.map Cell.flagged).getD false⟩
  | .flag => c.map fun cell => { cell with flagged := true }

end Update

-- ============================================================= one cell

/-- The value written last. -/
def lastWrite (us : List (Update β)) : Option β :=
  (us.filterMap Update.value?).getLast?

theorem value_act (c : Option (Cell β)) (u : Update β) :
    (u.act c).map Cell.value = u.value?.or (c.map Cell.value) := by
  cases u with
  | write value => rfl
  | flag =>
      cases c with
      | none => rfl
      | some cell => rfl

/-- A run leaves the value written last, or the one from before. -/
theorem value_run (c : Option (Cell β)) (us : List (Update β)) :
    (us.foldl Update.act c).map Cell.value
      = (lastWrite us).or (c.map Cell.value) := by
  unfold lastWrite
  induction us using List.reverseRecOn with
  | nil => rfl
  | append_singleton us u ih =>
      rw [List.foldl_append, List.foldl_cons, List.foldl_nil, value_act, ih,
        List.filterMap_append, List.getLast?_append, ← Option.or_assoc]
      cases u with
      | write value => rfl
      | flag => rfl

theorem flagged_act {c : Option (Cell β)} {cell : Cell β}
    (hc : c = some cell) (hflag : cell.flagged = true) (u : Update β) :
    ∃ cell', u.act c = some cell' ∧ cell'.flagged = true := by
  subst hc
  cases u with
  | write value => exact ⟨_, rfl, hflag⟩
  | flag => exact ⟨_, rfl, rfl⟩

/-- A flag that is set stays set. -/
theorem flagged_run {c : Option (Cell β)} {cell : Cell β}
    (hc : c = some cell) (hflag : cell.flagged = true)
    (us : List (Update β)) :
    ∃ cell', us.foldl Update.act c = some cell'
      ∧ cell'.flagged = true := by
  induction us generalizing c cell with
  | nil => exact ⟨cell, hc, hflag⟩
  | cons u us ih =>
      obtain ⟨next, hnext, hset⟩ := flagged_act hc hflag u
      exact ih hnext hset

-- ============================================================== a store

section Store

variable [DecidableEq κ]

/-- The store after an update of one key. -/
def put (s : κ → Option (Cell β)) (u : κ × Update β) :
    κ → Option (Cell β) :=
  Function.update s u.1 (u.2.act (s u.1))

/-- The updates of one key. -/
def updatesOf (k : κ) (us : List (κ × Update β)) : List (Update β) :=
  (us.filter fun u => decide (u.1 = k)).map (·.2)

/-- A run changes the cell of a key by the updates of that key. -/
theorem run_apply (s : κ → Option (Cell β)) (us : List (κ × Update β))
    (k : κ) :
    us.foldl put s k = (updatesOf k us).foldl Update.act (s k) := by
  unfold updatesOf
  induction us generalizing s with
  | nil => rfl
  | cons u us ih =>
      rw [List.foldl_cons, ih]
      unfold put
      by_cases h : u.1 = k
      · subst h
        rw [Function.update_self, List.filter_cons_of_pos (by simp),
          List.map_cons, List.foldl_cons]
      · rw [Function.update_of_ne (Ne.symm h),
          List.filter_cons_of_neg (by simp [h])]

/-- A key without an update keeps its cell. -/
theorem run_apply_of_not_mem (s : κ → Option (Cell β))
    {us : List (κ × Update β)} {k : κ} (h : k ∉ us.map (·.1)) :
    us.foldl put s k = s k := by
  have hnone : updatesOf k us = [] := by
    unfold updatesOf
    rw [List.map_eq_nil_iff, List.filter_eq_nil_iff]
    intro u hu hkey
    exact h (List.mem_map.mpr ⟨u, hu, of_decide_eq_true hkey⟩)
  rw [run_apply, hnone]
  rfl

/-- The updates write what the store holds, as far as `π` tells. -/
def Sends (π : β → γ) (us : List (κ × Update β))
    (s : κ → Option (Cell β)) : Prop :=
  ∀ k, (lastWrite (updatesOf k us)).map π
    = (s k).map fun cell => π cell.value

/-- Two stores, the first sent to the second and what that makes of it
sent back, hold the same values. -/
theorem exchange {π : β → γ} {a b : κ → Option (Cell β)}
    {us vs : List (κ × Update β)} (hus : Sends π us b)
    (hvs : Sends π vs (us.foldl put a)) (k : κ) :
    ((us.foldl put a k).map fun cell => π cell.value)
        = ((b k).map fun cell => π cell.value).or
          ((a k).map fun cell => π cell.value)
      ∧ ((vs.foldl put b k).map fun cell => π cell.value)
        = (us.foldl put a k).map fun cell => π cell.value := by
  have hrun (s : κ → Option (Cell β)) (ws : List (κ × Update β)) :
      ((ws.foldl put s k).map fun cell => π cell.value)
        = ((lastWrite (updatesOf k ws)).map π).or
          ((s k).map fun cell => π cell.value) := by
    have hvalue := congrArg (Option.map π)
      (value_run (s k) (updatesOf k ws))
    rw [Option.map_or, Option.map_map, Option.map_map,
      ← run_apply s ws k] at hvalue
    exact hvalue
  have hfirst := hrun a us
  rw [hus k] at hfirst
  refine ⟨hfirst, ?_⟩
  rw [hrun b vs, hvs k, hfirst]
  cases b k with
  | none => simp
  | some cell => rfl

end Store

end Registers
