/-
Requests that wait for an answer, booked twice.

A request is registered with whoever watches its time and awaited by
whoever takes the answer. Answering it ends the waiting and leaves the
watch running; when the time is up both end. A request that was answered
or timed out is settled until its id is registered again. `Sound` says
that what is awaited is watched and that nothing settled is awaited, and
every order of the three steps keeps it.
-/
import Mathlib.Data.Set.Insert
import Mathlib.Logic.Relation

@[ext] structure Outstanding (K : Type*) where
  registered : Set K
  awaited : Set K
  settled : Set K

namespace Outstanding

variable {K : Type*} {o o' : Outstanding K}

inductive Step : Outstanding K → Outstanding K → Prop where
  | register (o : Outstanding K) (k : K) : Step o
      { registered := insert k o.registered
        awaited := insert k o.awaited
        settled := o.settled \ {k} }
  | answer (o : Outstanding K) (k : K) : Step o
      { o with
        awaited := o.awaited \ {k}
        settled := insert k o.settled }
  | expire (o : Outstanding K) (ks : Set K) : Step o
      { registered := o.registered \ ks
        awaited := o.awaited \ ks
        settled := o.settled ∪ ks }

/-- What is awaited is watched, and nothing settled is awaited. -/
structure Sound (o : Outstanding K) : Prop where
  watched : ∀ k ∈ o.awaited, k ∈ o.registered
  apart : ∀ k ∈ o.settled, k ∉ o.awaited

theorem Sound.step (h : o.Sound) (hstep : Step o o') : o'.Sound := by
  cases hstep with
  | register k =>
      refine ⟨?_, ?_⟩
      · intro other hother
        rcases hother with rfl | hold
        · exact .inl rfl
        · exact .inr (h.watched other hold)
      · intro other hother hawaited
        rcases hawaited with rfl | hold
        · exact hother.2 rfl
        · exact h.apart other hother.1 hold
  | answer k =>
      refine ⟨?_, ?_⟩
      · intro other hother
        exact h.watched other hother.1
      · intro other hother hawaited
        rcases hother with rfl | hold
        · exact hawaited.2 rfl
        · exact h.apart other hold hawaited.1
  | expire ks =>
      refine ⟨?_, ?_⟩
      · intro other hother
        exact ⟨h.watched other hother.1, hother.2⟩
      · intro other hother hawaited
        rcases hother with hold | hnew
        · exact h.apart other hold hawaited.1
        · exact hawaited.2 hnew

theorem Sound.steps (h : o.Sound)
    (hsteps : Relation.ReflTransGen Step o o') : o'.Sound := by
  induction hsteps with
  | refl => exact h
  | tail _ hstep ih => exact ih.step hstep

end Outstanding
