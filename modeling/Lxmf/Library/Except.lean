/-
Inverting `Except` computations.

Each lemma reads a successful run backwards: which of its parts
succeeded, and with what. Proofs about `do` blocks peel one binding at
a time with `bind_eq_ok` and never unfold the monad. A list that was
written element by element is read back so in any monad
(`mapM_map_eq_pure`).
-/
import Mathlib.Init

namespace Except

variable {ε ε' α β : Type}

/-- A sequence succeeds when its first part does and the rest does on
the result. -/
theorem bind_eq_ok {x : Except ε α} {f : α → Except ε β} {r : β} :
    x >>= f = .ok r ↔ ∃ a, x = .ok a ∧ f a = .ok r := by
  cases x with
  | error e =>
      constructor
      · intro h
        cases h
      · rintro ⟨a, ha, _⟩
        cases ha
  | ok a =>
      constructor
      · intro h
        exact ⟨a, rfl, h⟩
      · rintro ⟨b, hb, h⟩
        cases hb
        exact h

/-- Relabelling the error does not touch a success. -/
theorem mapError_eq_ok {f : ε → ε'} {x : Except ε α} {a : α} :
    x.mapError f = .ok a ↔ x = .ok a := by
  cases x with
  | error e =>
      constructor
      · intro h
        cases h
      · intro h
        cases h
  | ok b =>
      constructor
      · intro h
        cases h
        rfl
      · intro h
        cases h
        rfl

@[simp] theorem ok_bind (a : α) (f : α → Except ε β) :
    (Except.ok a >>= f) = f a := rfl

@[simp] theorem error_bind (e : ε) (f : α → Except ε β) :
    ((Except.error e : Except ε α) >>= f) = .error e := rfl

@[simp] theorem throw_eq_error (e : ε) :
    (throw e : Except ε α) = .error e := rfl

@[simp] theorem pure_eq_ok (a : α) : (pure a : Except ε α) = .ok a := rfl

end Except

namespace List

/-- A list is read back when each of its elements is. -/
theorem mapM_map_eq_pure {m : Type → Type} [Monad m] [LawfulMonad m]
    {α β : Type} {read : β → m α} {write : α → β} {l : List α}
    (h : ∀ a ∈ l, read (write a) = pure a) :
    (l.map write).mapM read = pure l := by
  induction l with
  | nil => rw [List.map_nil, List.mapM_nil]
  | cons a l ih =>
      have hl : (l.map write).mapM read = pure l :=
        ih fun b hb => h b (List.mem_cons_of_mem a hb)
      rw [List.map_cons, List.mapM_cons, h a List.mem_cons_self, hl,
        pure_bind, pure_bind]

end List
