/-
A queue that is drained from the front, where what was handled may come
back at the end.

The loop stops at the first item that is not ready. The length is no
measure of it; the budgets are: an item that comes back has less left
than before. So the loop ends after as many turns as there is budget,
and of a kind of items it handles no more than their budgets allow. An
item that is not ready hides what stands behind it.
-/
import Mathlib.Algebra.GroupWithZero.Nat
import Mathlib.Algebra.Order.BigOperators.Group.List
import Mathlib.Data.List.TakeWhile

namespace WorkQueue

variable {α : Type} (ready : α → Bool) (handle : Nat → α → Option α)

/-- The loop, for at most `fuel` turns, from the `k`-th call of `handle`
on: what was handled, in order, and the queue that is left. -/
def drain : Nat → Nat → List α → List α × List α
  | 0, _, queue => ([], queue)
  | _ + 1, _, [] => ([], [])
  | fuel + 1, k, a :: queue =>
      if ready a then
        let rest := drain fuel (k + 1) (queue ++ (handle k a).toList)
        (a :: rest.1, rest.2)
      else ([], a :: queue)

/-- The loop has nothing more to do. -/
def Stopped (queue : List α) : Prop := ∀ a ∈ queue.head?, ready a = false

variable {ready handle}

-- ============================================================= one pass

theorem drain_blocked {a : α} (h : ready a = false) (fuel k : Nat)
    (queue : List α) :
    drain ready handle fuel k (a :: queue) = ([], a :: queue) := by
  cases fuel with
  | zero => rfl
  | succ fuel =>
      unfold drain
      rw [h]
      rfl

theorem drain_ready {a : α} (h : ready a = true) (fuel k : Nat)
    (queue : List α) :
    drain ready handle (fuel + 1) k (a :: queue)
      = (a :: (drain ready handle fuel (k + 1)
            (queue ++ (handle k a).toList)).1,
          (drain ready handle fuel (k + 1)
            (queue ++ (handle k a).toList)).2) := by
  rw [drain, if_pos h]

/-- What an item keeps when it comes back, the queue keeps. -/
theorem forall_mem_drain {Q : α → Prop}
    (hkeep : ∀ k a b, handle k a = some b → Q a → Q b) (fuel k : Nat)
    {queue : List α} (h : ∀ a ∈ queue, Q a) :
    ∀ a ∈ (drain ready handle fuel k queue).2, Q a := by
  induction fuel generalizing k queue with
  | zero => exact h
  | succ fuel ih =>
      cases queue with
      | nil => exact h
      | cons a queue =>
          unfold drain
          split
          case isFalse => exact h
          case isTrue =>
            refine ih (k + 1) fun b hb => ?_
            rcases List.mem_append.mp hb with hb | hb
            · exact h b (List.mem_cons_of_mem a hb)
            · exact hkeep k a b (Option.mem_toList.mp hb)
                (h a List.mem_cons_self)

/-- A loop that carries more than it looks at. -/
theorem map_drain {β : Type} {ready' : β → Bool}
    {handle' : Nat → β → Option β} (f : β → α)
    (hready : ∀ b, ready' b = ready (f b))
    (hhandle : ∀ k b, (handle' k b).map f = handle k (f b)) (fuel k : Nat)
    (queue : List β) :
    (drain ready' handle' fuel k queue).1.map f
      = (drain ready handle fuel k (queue.map f)).1 := by
  induction fuel generalizing k queue with
  | zero => rfl
  | succ fuel ih =>
      cases queue with
      | nil => rfl
      | cons b queue =>
          have hback : (handle' k b).toList.map f
              = (handle k (f b)).toList := by
            rw [← hhandle]
            cases handle' k b <;> rfl
          rw [List.map_cons]
          unfold drain
          rw [hready, ← hback, ← List.map_append]
          split
          case isTrue =>
            dsimp only
            rw [List.map_cons, ih]
          case isFalse => rfl

-- ============================================================== budgets

section Budget

variable {budget : α → Nat}

/-- The turns the items of a queue have left. -/
def total (budget : α → Nat) (queue : List α) : Nat :=
  (queue.map budget).sum

theorem total_append (front queue : List α) :
    total budget (front ++ queue)
      = total budget front + total budget queue := by
  unfold total
  rw [List.map_append, List.sum_append]

/-- A turn costs a part of the budget. -/
theorem total_turn (hpos : ∀ a, 0 < budget a)
    (hless : ∀ k a b, handle k a = some b → budget b < budget a)
    (k : Nat) (a : α) (queue : List α) :
    total budget (queue ++ (handle k a).toList)
      < total budget (a :: queue) := by
  have hcons : total budget (a :: queue)
      = budget a + total budget queue := rfl
  rw [total_append, hcons]
  cases h : handle k a with
  | none =>
      have hpos := hpos a
      have hnil : total budget (none : Option α).toList = 0 := rfl
      omega
  | some b =>
      have hless := hless k a b h
      have hone : total budget (some b).toList = budget b := Nat.add_zero _
      omega

/-- With turns for the whole budget the loop ends by itself. -/
theorem drain_ends (hpos : ∀ a, 0 < budget a)
    (hless : ∀ k a b, handle k a = some b → budget b < budget a)
    {fuel : Nat} {queue : List α} (hfuel : total budget queue ≤ fuel)
    (k : Nat) : Stopped ready (drain ready handle fuel k queue).2 := by
  induction fuel generalizing k queue with
  | zero =>
      cases queue with
      | nil =>
          intro a ha
          cases ha
      | cons a queue =>
          have hturn := total_turn hpos hless k a queue
          omega
  | succ fuel ih =>
      cases queue with
      | nil =>
          intro a ha
          cases ha
      | cons a queue =>
          unfold drain
          split
          case isTrue =>
            have hturn := total_turn hpos hless k a queue
            exact ih (by omega) (k + 1)
          case isFalse hready =>
            intro b hb
            cases hb
            exact Bool.eq_false_of_not_eq_true hready

/-- Of a kind of items that is kept when an item comes back, no more are
handled than their budgets allow. -/
theorem countP_drain_le (hpos : ∀ a, 0 < budget a)
    (hless : ∀ k a b, handle k a = some b → budget b < budget a)
    {p : α → Bool} (hkind : ∀ k a b, handle k a = some b → p b = p a)
    (fuel k : Nat) (queue : List α) :
    (drain ready handle fuel k queue).1.countP p
      ≤ total budget (queue.filter p) := by
  induction fuel generalizing k queue with
  | zero => exact Nat.zero_le _
  | succ fuel ih =>
      cases queue with
      | nil => exact Nat.zero_le _
      | cons a queue =>
          unfold drain
          split
          case isFalse => exact Nat.zero_le _
          case isTrue =>
            have hrest := ih (k + 1) (queue ++ (handle k a).toList)
            have hturn := total_turn hpos hless k a (queue.filter p)
            dsimp only
            rw [List.countP_cons, List.filter_cons]
            rw [List.filter_append, total_append] at hrest
            rw [total_append] at hturn
            cases h : handle k a with
            | none =>
                rw [h] at hrest hturn
                by_cases hp : p a = true
                · rw [if_pos hp, if_pos hp]
                  have hnil : total budget
                    ((none : Option α).toList.filter p) = 0 := rfl
                  omega
                · rw [if_neg hp, if_neg hp]
                  exact hrest
            | some b =>
                have hb := hkind k a b h
                rw [h] at hrest hturn
                by_cases hp : p a = true
                · have hkeep : (some b).toList.filter p = (some b).toList :=
                    List.filter_eq_self.mpr fun c hc => by
                      cases List.mem_singleton.mp hc
                      exact hb.trans hp
                  rw [hkeep] at hrest
                  rw [if_pos hp, if_pos hp]
                  omega
                · have hdrop : (some b).toList.filter p = [] :=
                    List.filter_eq_nil_iff.mpr fun c hc => by
                      cases List.mem_singleton.mp hc
                      exact hb ▸ hp
                  rw [hdrop] at hrest
                  rw [if_neg hp, if_neg hp]
                  exact hrest

end Budget

end WorkQueue
