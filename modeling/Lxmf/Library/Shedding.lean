/-
Dropping items, in a fixed order, until enough of their size is gone.

The loop counts what it has dropped and stops when the count reaches
what is needed. Whatever the sizes are, it drops a prefix of the list,
which is the whole list or holds at least what is needed, and before its
last item that was not so. The count may saturate: this can only delay
the stop, and it does so for needs above the bound alone.
-/
import Mathlib.Algebra.GroupWithZero.Nat
import Mathlib.Data.List.Infix

namespace Shedding

variable {α : Type} {cap needed freed : Nat} {size : α → Nat}
  {items : List α}

/-- The items the loop drops, the count starting at `freed` and staying
at `cap` once it is there. -/
def shed (cap needed : Nat) (size : α → Nat) : List α → Nat → List α
  | [], _ => []
  | item :: items, freed =>
      if needed ≤ freed then []
      else item :: shed cap needed size items (min (freed + size item) cap)

theorem shed_prefix : shed cap needed size items freed <+: items := by
  induction items generalizing freed with
  | nil => exact List.prefix_rfl
  | cons item items ih =>
      unfold shed
      split
      case isTrue => exact List.nil_prefix
      case isFalse => exact List.cons_prefix_cons.mpr ⟨rfl, ih⟩

/-- It runs out of items, or has dropped enough. -/
theorem shed_enough (cap needed : Nat) (size : α → Nat) (items : List α)
    (freed : Nat) :
    shed cap needed size items freed = items
      ∨ needed ≤ freed
        + ((shed cap needed size items freed).map size).sum := by
  induction items generalizing freed with
  | nil => exact .inl rfl
  | cons item items ih =>
      unfold shed
      split
      case isTrue henough => exact .inr (Nat.le_add_right_of_le henough)
      case isFalse =>
        rcases ih (min (freed + size item) cap) with hall | hsum
        · exact .inl (by rw [hall])
        · refine .inr ?_
          rw [List.map_cons, List.sum_cons]
          omega

/-- Before its last item it had not dropped enough. -/
theorem shed_last {init : List α} {last : α} (hcap : needed ≤ cap)
    (h : shed cap needed size items freed = init ++ [last]) :
    freed + (init.map size).sum < needed := by
  induction items generalizing freed init with
  | nil => simp [shed] at h
  | cons item items ih =>
      unfold shed at h
      split at h
      case isTrue => simp at h
      case isFalse hshort =>
        cases init with
        | nil =>
            rw [List.map_nil, List.sum_nil]
            omega
        | cons first init =>
            obtain ⟨hfirst, hrest⟩ := List.cons.inj h
            have hlater := ih hrest
            rw [List.map_cons, List.sum_cons, ← hfirst]
            omega

end Shedding
