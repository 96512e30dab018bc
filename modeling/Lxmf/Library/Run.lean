/-
Runs of a partial step function, and what holds along them.

A system is a function `apply` from actions and states to the next
state, undefined where an action is not enabled. `Reaches` closes it
under every order of actions; a condition on the steps restricts the
orders. Safety is proved by `Reaches.invariant` alone: one obligation
for the start, one for a step. A total system is a step function, and
what holds after every prefix of a list of actions is told from its
single steps by `throughout_iff` and `holds_throughout_iff`.
-/
import Mathlib.Data.List.Induction

namespace Run

variable {σ α : Type} {apply : α → σ → Option σ} {ok : σ → α → Prop}

/-- A fixed list of actions, in order. -/
def run (apply : α → σ → Option σ) : List α → σ → Option σ
  | [], s => some s
  | a :: as, s =>
      match apply a s with
      | some s' => run apply as s'
      | none => none

/-- The same, as long as every action meets `ok`. -/
def runWhere (apply : α → σ → Option σ) (ok : σ → α → Prop)
    [∀ s a, Decidable (ok s a)] : List α → σ → Option σ
  | [], s => some s
  | a :: as, s =>
      if ok s a then
        match apply a s with
        | some s' => runWhere apply ok as s'
        | none => none
      else none

/-- The states some run from `s₀` reaches, each step meeting `ok`. -/
inductive Reaches (apply : α → σ → Option σ) (ok : σ → α → Prop)
    (s₀ : σ) : σ → Prop where
  | start : Reaches apply ok s₀ s₀
  | step {s s' : σ} (a : α) : Reaches apply ok s₀ s → ok s a →
      apply a s = some s' → Reaches apply ok s₀ s'

/-- What holds at the start and survives every step holds throughout. -/
theorem Reaches.invariant {Inv : σ → Prop} {s₀ s : σ}
    (h : Reaches apply ok s₀ s) (hstart : Inv s₀)
    (hstep : ∀ s a s', Inv s → ok s a → apply a s = some s' → Inv s') :
    Inv s := by
  induction h with
  | start => exact hstart
  | step a _ hok happly ih => exact hstep _ a _ ih hok happly

/-- A run under one condition is a run under another that an invariant
of it implies. -/
theorem Reaches.weaken {ok' : σ → α → Prop} {Inv : σ → Prop} {s₀ s : σ}
    (h : Reaches apply ok s₀ s) (hstart : Inv s₀)
    (hstep : ∀ s a s', Inv s → ok s a → apply a s = some s' → Inv s')
    (hok : ∀ s a, Inv s → ok s a → ok' s a) :
    Reaches apply ok' s₀ s := by
  induction h with
  | start => exact .start
  | step a hreach hallowed happly ih =>
      have hinv := hreach.invariant hstart hstep
      exact ih.step a (hok _ a hinv hallowed) happly

/-- A list of actions, each allowed in every state, reaches its last
state. -/
theorem reaches_of_run {s₀ s : σ} {as : List α}
    (hok : ∀ a ∈ as, ∀ s, ok s a) (h : run apply as s₀ = some s) :
    Reaches apply ok s₀ s := by
  suffices ∀ s₁, Reaches apply ok s₀ s₁ → run apply as s₁ = some s →
      Reaches apply ok s₀ s from this s₀ .start h
  clear h
  induction as with
  | nil =>
      intro s₁ h₁ h
      injection h with h
      exact h ▸ h₁
  | cons a as ih =>
      intro s₁ h₁ h
      unfold run at h
      split at h
      case h_1 s' happly =>
        refine ih (fun b hb => hok b (List.mem_cons_of_mem a hb)) s' ?_ h
        exact h₁.step a (hok a List.mem_cons_self s₁) happly
      case h_2 => cases h

theorem reaches_of_runWhere [∀ s a, Decidable (ok s a)] {s₀ s : σ}
    {as : List α} (h : runWhere apply ok as s₀ = some s) :
    Reaches apply ok s₀ s := by
  suffices ∀ s₁, Reaches apply ok s₀ s₁ →
      runWhere apply ok as s₁ = some s → Reaches apply ok s₀ s from
    this s₀ .start h
  clear h
  induction as with
  | nil =>
      intro s₁ h₁ h
      injection h with h
      exact h ▸ h₁
  | cons a as ih =>
      intro s₁ h₁ h
      unfold runWhere at h
      split at h
      case isTrue hok =>
        split at h
        case h_1 s' happly => exact ih s' (h₁.step a hok happly) h
        case h_2 => cases h
      case isFalse => cases h

-- ============================================================ total steps

section Total

variable {step : σ → α → σ} {good : σ → α → Prop} {Inv : σ → Prop} {s₀ : σ}
  {as : List α}

/-- The only step of a run of one action. -/
theorem prefix_singleton {done : List α} {a b : α}
    (h : done ++ [a] <+: [b]) : done = [] ∧ a = b := by
  cases done with
  | nil =>
      obtain ⟨rest, hrest⟩ := h
      injection hrest with ha _
      exact ⟨rfl, ha⟩
  | cons first done =>
      have hlen := h.length_le
      simp at hlen

/-- The steps of a run that starts with `b`: that one, and those after
it. -/
theorem forall_step_cons {b : α} :
    (∀ done a, done ++ [a] <+: b :: as → good (done.foldl step s₀) a)
      ↔ good s₀ b ∧ ∀ done a, done ++ [a] <+: as →
        good (done.foldl step (step s₀ b)) a := by
  constructor
  · intro h
    refine ⟨?_, ?_⟩
    · exact h [] b (List.prefix_append [b] as)
    · intro done a hprefix
      exact h (b :: done) a (List.cons_prefix_cons.mpr ⟨rfl, hprefix⟩)
  · intro h done a hprefix
    cases done with
    | nil =>
        obtain ⟨rfl, _⟩ := List.cons_prefix_cons.mp hprefix
        exact h.1
    | cons first done =>
        obtain ⟨rfl, hrest⟩ := List.cons_prefix_cons.mp hprefix
        exact h.2 done a hrest

/-- What good steps preserve holds after every prefix of good steps. -/
theorem throughout (hstart : Inv s₀)
    (hstep : ∀ s a, Inv s → good s a → Inv (step s a))
    (h : ∀ done a, done ++ [a] <+: as → good (done.foldl step s₀) a)
    {done : List α} (hdone : done <+: as) :
    Inv (done.foldl step s₀) := by
  induction done using List.reverseRecOn with
  | nil => exact hstart
  | append_singleton done a ih =>
      rw [List.foldl_append]
      refine hstep _ a (ih ?_) (h done a hdone)
      exact (List.prefix_append done [a]).trans hdone

/-- The states of a run of good steps are related as they follow each
other, where one step relates the states around it. -/
theorem throughout_related {R : σ → σ → Prop} (hrefl : ∀ s, R s s)
    (htrans : ∀ s t u, R s t → R t u → R s u) (hstart : Inv s₀)
    (hstep : ∀ s a, Inv s → good s a → Inv (step s a) ∧ R s (step s a))
    (h : ∀ done a, done ++ [a] <+: as → good (done.foldl step s₀) a)
    {done later : List α} (hdone : done <+: later) (hlater : later <+: as) :
    R (done.foldl step s₀) (later.foldl step s₀) := by
  obtain ⟨rest, rfl⟩ := hdone
  induction rest using List.reverseRecOn with
  | nil =>
      rw [List.append_nil]
      exact hrefl _
  | append_singleton rest a ih =>
      rw [← List.append_assoc] at hlater ⊢
      have hbefore := (List.prefix_append (done ++ rest) [a]).trans hlater
      have hinv : Inv ((done ++ rest).foldl step s₀) :=
        throughout hstart (fun s a hs hgood => (hstep s a hs hgood).1) h
          hbefore
      have hnext := (hstep _ a hinv (h (done ++ rest) a hlater)).2
      have hall : (done ++ rest ++ [a]).foldl step s₀
          = step ((done ++ rest).foldl step s₀) a := List.foldl_append
      rw [hall]
      exact htrans _ _ _ (ih hbefore) hnext

/-- Where the good steps keep an invariant, and a step after which `Q`
still holds was good, `Q` holds throughout exactly when every step is
good. Of the steps `ok` is known beforehand. -/
theorem holds_throughout_iff {ok : σ → α → Prop} {Q : σ → Prop}
    (hstart : Inv s₀) (hQ : ∀ s, Inv s → Q s)
    (hstep : ∀ s a, Inv s → ok s a → good s a → Inv (step s a))
    (hgood : ∀ s a, Inv s → ok s a → Q (step s a) → good s a)
    (hok : ∀ done a, done ++ [a] <+: as → ok (done.foldl step s₀) a) :
    (∀ done, done <+: as → Q (done.foldl step s₀))
      ↔ ∀ done a, done ++ [a] <+: as → good (done.foldl step s₀) a := by
  constructor
  · intro h
    have hinv (done : List α) (hdone : done <+: as) :
        Inv (done.foldl step s₀) := by
      induction done using List.reverseRecOn with
      | nil => exact hstart
      | append_singleton done a ih =>
          have hbefore := ih ((List.prefix_append done [a]).trans hdone)
          have hafter := h _ hdone
          rw [List.foldl_append] at hafter ⊢
          exact hstep _ a hbefore (hok done a hdone)
            (hgood _ a hbefore (hok done a hdone) hafter)
    intro done a hprefix
    have hafter := h _ hprefix
    rw [List.foldl_append] at hafter
    exact hgood _ a (hinv done ((List.prefix_append done [a]).trans hprefix))
      (hok done a hprefix) hafter
  · intro h done hdone
    refine hQ _ (@throughout σ α step (fun s a => ok s a ∧ good s a) Inv s₀
      as hstart (fun s a hinv hboth => hstep s a hinv hboth.1 hboth.2) ?_
      done hdone)
    exact fun done a hprefix => ⟨hok done a hprefix, h done a hprefix⟩

/-- Where a step preserves the invariant exactly when it is good, the
invariant holds throughout exactly when every step is. -/
theorem throughout_iff (hstart : Inv s₀)
    (hstep : ∀ s a, Inv s → (Inv (step s a) ↔ good s a)) :
    (∀ done, done <+: as → Inv (done.foldl step s₀))
      ↔ ∀ done a, done ++ [a] <+: as → good (done.foldl step s₀) a := by
  refine @holds_throughout_iff σ α step good Inv s₀ as (fun _ _ => True)
    Inv hstart (fun _ hinv => hinv) ?_ ?_ (fun _ _ _ => trivial)
  · exact fun s a hinv _ => (hstep s a hinv).mpr
  · exact fun s a hinv _ => (hstep s a hinv).mp

end Total

end Run
