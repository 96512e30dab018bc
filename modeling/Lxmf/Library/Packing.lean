/-
Packing what fits, in one pass and in the order asked.

For each candidate it is decided once whether it goes in: it stays out
if it is absent, or would exceed the limit together with what is in
already. The pass then goes on with the next one, which may be smaller.
What is in never exceeds the limit, and what stays out would have.

The size so far may be kept in a counter that saturates at `cap`. This
makes no difference as long as what is in stays below the cap, nor for
any limit below it.
-/
import Mathlib.Algebra.GroupWithZero.Nat
import Mathlib.Data.List.ReduceOption

namespace Packing

variable {β : Type*} {cap used : Nat} {limit : Option Nat}
  {size : β → Nat} {candidates : List (Option β)}

/-- It would exceed the limit, by the saturating count. -/
def exceeds (cap : Nat) (limit : Option Nat) (used size : Nat) : Bool :=
  match limit with
  | some limit => decide (limit < min (used + size) cap)
  | none => false

/-- What goes in for each of the candidates, the count starting at
`used`. -/
def pack (cap : Nat) (limit : Option Nat) (size : β → Nat) :
    List (Option β) → Nat → List (Option β)
  | [], _ => []
  | none :: candidates, used => none :: pack cap limit size candidates used
  | some item :: candidates, used =>
      if exceeds cap limit used (size item) then
        none :: pack cap limit size candidates used
      else
        some item :: pack cap limit size candidates
          (min (used + size item) cap)

/-- The size of what goes in. -/
def total (size : β → Nat) (packed : List (Option β)) : Nat :=
  (packed.reduceOption.map size).sum

theorem total_none (packed : List (Option β)) :
    total size (none :: packed) = total size packed := by
  unfold total
  rw [List.reduceOption_cons_of_none]

theorem total_some (item : β) (packed : List (Option β)) :
    total size (some item :: packed) = size item + total size packed := by
  unfold total
  rw [List.reduceOption_cons_of_some, List.map_cons, List.sum_cons]

theorem length_pack :
    (pack cap limit size candidates used).length = candidates.length := by
  induction candidates generalizing used with
  | nil => rfl
  | cons candidate candidates ih =>
      cases candidate with
      | none => exact congrArg Nat.succ ih
      | some item =>
          unfold pack
          split
          case isTrue => exact congrArg Nat.succ ih
          case isFalse => exact congrArg Nat.succ ih

/-- What goes in is the candidate of its place. -/
theorem pack_some {i : Nat} {item : β}
    (h : (pack cap limit size candidates used)[i]? = some (some item)) :
    candidates[i]? = some (some item) := by
  induction candidates generalizing used i with
  | nil => cases h
  | cons candidate candidates ih =>
      cases candidate with
      | none =>
          cases i with
          | zero => cases h
          | succ i => exact ih h
      | some first =>
          unfold pack at h
          split at h
          case isTrue =>
            cases i with
            | zero => cases h
            | succ i => exact ih h
          case isFalse =>
            cases i with
            | zero => exact h
            | succ i => exact ih h

/-- What stays out would have exceeded the limit, together with all that
is in before it. -/
theorem pack_none {i : Nat} {item : β}
    (hcandidate : candidates[i]? = some (some item))
    (h : (pack cap limit size candidates used)[i]? = some none) :
    ∃ bound ∈ limit, bound < used + size item
      + total size ((pack cap limit size candidates used).take i) := by
  induction candidates generalizing used i with
  | nil => cases hcandidate
  | cons candidate candidates ih =>
      cases candidate with
      | none =>
          cases i with
          | zero => cases hcandidate
          | succ i =>
              obtain ⟨bound, hbound, hlt⟩ := ih hcandidate h
              refine ⟨bound, hbound, ?_⟩
              rw [pack, List.take_succ_cons, total_none]
              exact hlt
      | some first =>
          unfold pack at h ⊢
          split at h
          case isTrue hexceeds =>
            rw [if_pos hexceeds]
            cases i with
            | zero =>
                cases hcandidate
                unfold exceeds at hexceeds
                cases limit with
                | none => cases hexceeds
                | some bound =>
                    have hlt := of_decide_eq_true hexceeds
                    exact ⟨bound, rfl, by omega⟩
            | succ i =>
                obtain ⟨bound, hbound, hlt⟩ := ih hcandidate h
                refine ⟨bound, hbound, ?_⟩
                rw [List.take_succ_cons, total_none]
                exact hlt
          case isFalse hfits =>
            rw [if_neg hfits]
            cases i with
            | zero => cases h
            | succ i =>
                obtain ⟨bound, hbound, hlt⟩ := ih hcandidate h
                refine ⟨bound, hbound, ?_⟩
                rw [List.take_succ_cons, total_some]
                omega

/-- What is in does not exceed the limit, as the count has it. -/
theorem total_pack_le {bound : Nat} (hused : min used cap ≤ bound) :
    min (used + total size (pack cap (some bound) size candidates used)) cap
      ≤ bound := by
  induction candidates generalizing used with
  | nil => exact hused
  | cons candidate candidates ih =>
      cases candidate with
      | none =>
          rw [pack, total_none]
          exact ih hused
      | some item =>
          unfold pack
          split
          case isTrue =>
            rw [total_none]
            exact ih hused
          case isFalse hfits =>
            have hle : min (used + size item) cap ≤ bound := by
              have hnot := of_decide_eq_false (Bool.not_eq_true _ ▸ hfits)
              omega
            have hrest := @ih (min (used + size item) cap) (by omega)
            rw [total_some]
            omega

end Packing
