/-
Passing tokens on without losing one.

# The ledger

Holders take tokens and release them. The log records who took what, in
order, and a holder takes a token once. A holder may release a token
only when another took it later. The last one to take a token then
still holds it (`Sound.exists_holder`), so no token is lost, however
takes and releases of many tokens interleave.

# Asking

Holders that talk over a network cannot see the log. `Asked` is what
one of them may have been asked for: if it turns out to hold the token
when it answers, it took it after the one that asked. A step of anyone
keeps that true, so the question may travel for as long as it likes.
-/
import Mathlib.Data.List.Nodup
import Mathlib.Data.Set.Insert
import Mathlib.Logic.Relation

namespace Custody

variable {ι τ : Type}

/-- Who took what, in order, and who holds what. -/
structure Ledger (ι τ : Type) where
  log : List (ι × τ)
  held : Set (ι × τ)

/-- `q` was taken after `p`. -/
def Later (log : List (ι × τ)) (p q : ι × τ) : Prop :=
  [p, q].Sublist log

inductive Step (c : Ledger ι τ) : Ledger ι τ → Prop where
  | take (p : ι × τ) : p ∉ c.log →
      Step c ⟨c.log ++ [p], insert p c.held⟩
  | release (p : ι × τ) (m : ι) : Later c.log p (m, p.2) →
      Step c ⟨c.log, c.held \ {p}⟩

abbrev Steps : Ledger ι τ → Ledger ι τ → Prop :=
  Relation.ReflTransGen Step

/-- What no step breaks: whoever took a token and does not hold it was
followed by another. -/
structure Sound (c : Ledger ι τ) : Prop where
  nodup : c.log.Nodup
  logged : ∀ p ∈ c.held, p ∈ c.log
  followed : ∀ p ∈ c.log, p ∉ c.held → ∃ m, Later c.log p (m, p.2)

-- ============================================================ the log

theorem Later.append {log : List (ι × τ)} {p q : ι × τ}
    (h : Later log p q) (more : List (ι × τ)) : Later (log ++ more) p q :=
  h.trans (List.sublist_append_left log more)

/-- A new entry comes after every old one. -/
theorem later_of_mem {log : List (ι × τ)} {p : ι × τ} (h : p ∈ log)
    (q : ι × τ) : Later (log ++ [q]) p q := by
  have hp : [p].Sublist log := List.singleton_sublist.mpr h
  exact hp.append (List.Sublist.refl [q])

/-- Nothing comes after the last entry. -/
theorem not_later_getLast {log : List (ι × τ)} (hnodup : log.Nodup)
    (hne : log ≠ []) (q : ι × τ) : ¬ Later log (log.getLast hne) q := by
  intro h
  have hsplit := List.dropLast_append_getLast hne
  generalize log.getLast hne = p at h hsplit
  generalize log.dropLast = rest at hsplit
  subst hsplit
  unfold Later at h
  rw [List.sublist_append_iff] at h
  obtain ⟨before, after, heq, hbefore, hafter⟩ := h
  have hp : p ∉ rest := by
    intro hmem
    exact (List.nodup_append.mp hnodup).2.2 p hmem p
      (List.mem_singleton_self p) rfl
  cases before with
  | nil =>
      have hlen := hafter.length_le
      rw [List.nil_append] at heq
      rw [← heq] at hlen
      simp at hlen
  | cons first before =>
      injection heq with hfirst _
      subst hfirst
      exact hp (hbefore.subset List.mem_cons_self)

-- ========================================================== soundness

theorem sound_empty : Sound (⟨[], ∅⟩ : Ledger ι τ) :=
  ⟨List.nodup_nil, fun _ hp => hp.elim, fun _ hp => by cases hp⟩

theorem Sound.take {c : Ledger ι τ} (h : Sound c) {p : ι × τ}
    (hfresh : p ∉ c.log) : Sound ⟨c.log ++ [p], insert p c.held⟩ := by
  refine ⟨?_, ?_, ?_⟩
  · refine List.nodup_append.mpr ⟨h.nodup, List.nodup_singleton p, ?_⟩
    intro a ha b hb hab
    rw [List.mem_singleton.mp hb] at hab
    exact hfresh (hab ▸ ha)
  · intro q hq
    rcases hq with hq | hq
    · exact List.mem_append_right _ (List.mem_singleton.mpr hq)
    · exact List.mem_append_left _ (h.logged q hq)
  · intro q hq hnot
    have hold : q ∈ c.log := by
      rcases List.mem_append.mp hq with hq | hq
      · exact hq
      · exact absurd (.inl (List.mem_singleton.mp hq)) hnot
    obtain ⟨m, hm⟩ := h.followed q hold fun hheld => hnot (.inr hheld)
    exact ⟨m, hm.append [p]⟩

theorem Sound.release {c : Ledger ι τ} (h : Sound c) {p : ι × τ} {m : ι}
    (hlater : Later c.log p (m, p.2)) : Sound ⟨c.log, c.held \ {p}⟩ := by
  refine ⟨h.nodup, fun q hq => h.logged q hq.1, ?_⟩
  intro q hq hnot
  by_cases hqp : q = p
  · subst hqp
    exact ⟨m, hlater⟩
  · exact h.followed q hq fun hheld => hnot ⟨hheld, hqp⟩

theorem Sound.step {c c' : Ledger ι τ} (h : Sound c) (hstep : Step c c') :
    Sound c' := by
  cases hstep with
  | take p hfresh => exact h.take hfresh
  | release p m hlater => exact h.release hlater

theorem Sound.steps {c c' : Ledger ι τ} (h : Sound c)
    (hsteps : Steps c c') : Sound c' := by
  induction hsteps with
  | refl => exact h
  | tail _ hstep ih => exact ih.step hstep

/-- Somebody holds every token that was ever taken. -/
theorem Sound.exists_holder {c : Ledger ι τ} (h : Sound c) {p : ι × τ}
    (hp : p ∈ c.log) : ∃ m, (m, p.2) ∈ c.held := by
  classical
  let takers := c.log.filter fun q => q.2 = p.2
  have hne : takers ≠ [] := by
    refine List.ne_nil_of_mem (a := p) ?_
    exact List.mem_filter.mpr ⟨hp, decide_eq_true rfl⟩
  have hlast := List.mem_filter.mp (List.getLast_mem hne)
  have htoken : (takers.getLast hne).2 = p.2 := of_decide_eq_true hlast.2
  by_contra hnone
  have hnot : takers.getLast hne ∉ c.held := by
    intro hheld
    refine hnone ⟨(takers.getLast hne).1, ?_⟩
    rw [← htoken]
    exact hheld
  obtain ⟨m, hm⟩ := h.followed _ hlast.1 hnot
  have hkept : Later takers (takers.getLast hne)
      (m, (takers.getLast hne).2) := by
    have hfilter := hm.filter fun q => q.2 = p.2
    have hboth : ([takers.getLast hne, (m, (takers.getLast hne).2)].filter
        fun q => q.2 = p.2)
        = [takers.getLast hne, (m, (takers.getLast hne).2)] := by
      refine List.filter_eq_self.mpr ?_
      intro q hq
      simp only [List.mem_cons, List.not_mem_nil, or_false] at hq
      rcases hq with rfl | rfl
      · exact decide_eq_true htoken
      · exact decide_eq_true htoken
    rw [hboth] at hfilter
    exact hfilter
  exact not_later_getLast (h.nodup.filter _) hne _ hkept

-- ============================================================= asking

/-- `n` may be asked by `m` for a token: `n` took it, and if `m` took it
too, then later, unless `m` holds it no more. -/
def Asked (c : Ledger ι τ) (t : τ) (n m : ι) : Prop :=
  (n, t) ∈ c.log
    ∧ ((m, t) ∈ c.log → Later c.log (n, t) (m, t) ∨ (m, t) ∉ c.held)

theorem Step.mem_log {c c' : Ledger ι τ} (hstep : Step c c') {p : ι × τ}
    (h : p ∈ c.log) : p ∈ c'.log := by
  cases hstep with
  | take q _ => exact List.mem_append_left _ h
  | release q m _ => exact h

theorem Step.later {c c' : Ledger ι τ} (hstep : Step c c') {p q : ι × τ}
    (h : Later c.log p q) : Later c'.log p q := by
  cases hstep with
  | take r _ => exact h.append [r]
  | release r m _ => exact h

theorem Step.asked {c c' : Ledger ι τ} (hstep : Step c c') {t : τ}
    {n m : ι} (h : Asked c t n m) : Asked c' t n m := by
  refine ⟨hstep.mem_log h.1, ?_⟩
  cases hstep with
  | take p hfresh =>
      intro hm
      rcases List.mem_append.mp hm with hold | hm
      · rcases h.2 hold with hlater | hnot
        · exact .inl (hlater.append [p])
        · refine .inr ?_
          intro hor
          rcases hor with rfl | hheld
          · exact hfresh hold
          · exact hnot hheld
      · rw [List.mem_singleton.mp hm]
        exact .inl (later_of_mem h.1 p)
  | release p k _ =>
      intro hm
      rcases h.2 hm with hlater | hnot
      · exact .inl hlater
      · exact .inr fun hheld => hnot hheld.1

theorem Steps.mem_log {c c' : Ledger ι τ} (hsteps : Steps c c')
    {p : ι × τ} (h : p ∈ c.log) : p ∈ c'.log := by
  induction hsteps with
  | refl => exact h
  | tail _ hstep ih => exact hstep.mem_log ih

theorem Steps.later {c c' : Ledger ι τ} (hsteps : Steps c c')
    {p q : ι × τ} (h : Later c.log p q) : Later c'.log p q := by
  induction hsteps with
  | refl => exact h
  | tail _ hstep ih => exact hstep.later ih

theorem Steps.asked {c c' : Ledger ι τ} (hsteps : Steps c c') {t : τ}
    {n m : ι} (h : Asked c t n m) : Asked c' t n m := by
  induction hsteps with
  | refl => exact h
  | tail _ hstep ih => exact hstep.asked ih

/-- Whoever answers while holding the token took it after the one that
is asked. -/
theorem Asked.later {c : Ledger ι τ} (hc : Sound c) {t : τ} {n m : ι}
    (h : Asked c t n m) (hheld : (m, t) ∈ c.held) :
    Later c.log (n, t) (m, t) :=
  (h.2 (hc.logged _ hheld)).resolve_right fun hnot => hnot hheld

end Custody
