/-
How long a message is kept, and when it is kept for too long.

Expiry is counted from the timestamp an entry carries. A propagation
resource gets the local time; a propagated message and an entry of a
peer's payload keep the one they came with. A timestamp that is not
ahead of the local clock when the entry is admitted makes every cleaning
more than `MESSAGE_EXPIRY` later remove it. A timestamp ahead of the
clock is neither replaced nor refused, and the entry outlasts the bound.

# A run

The watch of a run is the router together with the time each id was last
admitted. That every admitted timestamp is a past one is preserved from
admission to cleaning, since an entry does not change while it is
stored.
-/
import Lxmf.Library.Run
import Lxmf.Proofs.ShelfEvents

namespace Lxmf

namespace LxmfRouter

-- =============================================================== expiry

/-- The timestamp counts, and is ahead of the clock. The clock runs in
milliseconds, so it is at the end of the current one. -/
def AheadOfClock (nowMs : Nat) (entry : PropagationEntry) : Prop :=
  ∃ q : ℚ, entry.timestamp = .fin q ∧ 0 < q ∧ ((nowMs : ℚ) + 1) / 1000 ≤ q

/-- An entry admitted with a past timestamp is expired whenever more than
`MESSAGE_EXPIRY` has gone by. -/
theorem expiredEntry_of_not_ahead {entry : PropagationEntry} {t nowMs : Nat}
    (h : ¬ AheadOfClock t entry)
    (hlate : t + messageExpiry * 1000 < nowMs) :
    expiredEntry (nowS nowMs) entry = true := by
  unfold expiredEntry nowS
  unfold AheadOfClock at h
  cases htime : entry.timestamp with
  | nan => rfl
  | inf negative => rfl
  | fin q =>
      rw [htime] at h
      simp only [F64.isFinite, F64.le, F64.lt, F64.add, Bool.not_true,
        Bool.false_or, Bool.or_eq_true, decide_eq_true_eq]
      by_cases hq : q ≤ 0
      · exact .inl hq
      · refine .inr ?_
        have hpast : q < ((t : ℚ) + 1) / 1000 := by
          by_contra hahead
          exact h ⟨q, rfl, not_le.mp hq, not_lt.mp hahead⟩
        have hnow : (t : ℚ) + messageExpiry * 1000 + 1 ≤ nowMs := by
          exact_mod_cast hlate
        calc q + (messageExpiry : ℚ)
            < ((t : ℚ) + 1) / 1000 + messageExpiry := by linarith
          _ = ((t : ℚ) + messageExpiry * 1000 + 1) / 1000 := by ring
          _ ≤ (nowMs : ℚ) / 1000 := by gcongr

section Cleaning

variable {σ : Type}

/-- Cleaning leaves no expired entry. -/
theorem cleanPropagationStore_has (P : Platform) (r : LxmfRouter σ)
    (nowMs : Nat) (id : Hash32)
    (h : ∀ entry, r.propagationStore.get id = some entry →
      expiredEntry (nowS nowMs) entry = true) :
    (r.cleanPropagationStore nowMs).2.propagationStore.has id = false := by
  obtain ⟨ids, hshelf, hids⟩ := cleanPropagationStore_shelf (P := P) r
    nowMs
  by_contra hleft
  have hmem : id ∈ (r.cleanPropagationStore nowMs).2.shelf.entries :=
    PropagationStore.has_iff.mp (Bool.eq_true_of_not_eq_false hleft)
  rw [hshelf, Shelf.mem_run_drops] at hmem
  obtain ⟨entry, hentry⟩ := HashMap.mem_iff_lookup.mp hmem.1
  exact hmem.2 (hids id entry hentry (h entry hentry))

end Cleaning

-- ============================================================= the watch

/-- A router with the time each id was last admitted. -/
structure Watch (σ : Type) where
  router : LxmfRouter σ
  admitted : Hash32 → Option Nat

section Steps

variable {σ : Type} {P : Platform}

/-- Nothing an event files is ahead of the clock. -/
def NothingAhead (P : Platform) (s : Watch σ) (e : RouterEvent) : Prop :=
  ∀ entry ∈ Shelf.fresh s.router.seen (eventEntries P s.router e),
    ¬ AheadOfClock e.nowMs entry

/-- What is stored was not ahead of the clock when it was admitted. -/
def AdmittedInTime (s : Watch σ) : Prop :=
  ∀ id t entry, s.admitted id = some t →
    s.router.propagationStore.get id = some entry → ¬ AheadOfClock t entry

/-- No cleaning leaves an id that was last admitted more than
`MESSAGE_EXPIRY` before it. -/
def Bounded (s : Watch σ) : Prop :=
  ∀ id t nowMs, s.admitted id = some t →
    t + messageExpiry * 1000 < nowMs →
    (s.router.cleanPropagationStore nowMs).2.propagationStore.has id
      = false

theorem AdmittedInTime.bounded (P : Platform) {s : Watch σ}
    (h : AdmittedInTime s) : Bounded s := by
  intro id t nowMs hadmitted hlate
  refine cleanPropagationStore_has P s.router nowMs id ?_
  intro entry hentry
  exact expiredEntry_of_not_ahead (h id t entry hadmitted hentry) hlate

variable [MessageStore σ]

/-- One event: an id that is in the store and was not is admitted. -/
def Watch.step (P : Platform) (s : Watch σ) (e : RouterEvent) :
    Watch σ where
  router := s.router.handle P e
  admitted := fun id =>
    if (s.router.handle P e).propagationStore.has id
        && !s.router.propagationStore.has id then some e.nowMs
    else s.admitted id

/-- What is stored after an event was stored before, or the event brought
it under a new id. -/
theorem handle_get_cases {r : LxmfRouter σ} {e : RouterEvent} {id : Hash32}
    {entry : PropagationEntry}
    (h : (r.handle P e).propagationStore.get id = some entry) :
    r.propagationStore.get id = some entry
      ∨ r.propagationStore.has id = false
        ∧ entry ∈ Shelf.fresh r.seen (eventEntries P r e) := by
  have hreceived :
      (r.shelf.receive P e.nowMs (eventEntries P r e)).entries.lookup id
        = some entry := (handle_shelf P r e).lookup h
  rcases Shelf.lookup_receive_cases hreceived with hold | hnew
  · exact .inl hold
  · refine .inr ⟨?_, hnew.2⟩
    exact decide_eq_false hnew.1

theorem AdmittedInTime.step {s : Watch σ} (h : AdmittedInTime s)
    {e : RouterEvent} (hnothing : NothingAhead P s e) :
    AdmittedInTime (s.step P e) := by
  intro id t entry hadmitted hentry
  have hhas : (s.router.handle P e).propagationStore.has id = true :=
    PropagationStore.has_iff.mpr (HashMap.mem_iff_lookup.mpr ⟨_, hentry⟩)
  simp only [Watch.step, hhas, Bool.true_and] at hadmitted
  rcases handle_get_cases hentry with hold | hnew
  · have hbefore : s.router.propagationStore.has id = true :=
      PropagationStore.has_iff.mpr (HashMap.mem_iff_lookup.mpr ⟨_, hold⟩)
    rw [hbefore] at hadmitted
    exact h id t entry hadmitted hold
  · rw [hnew.1] at hadmitted
    injection hadmitted with ht
    rw [← ht]
    exact hnothing entry hnew.2

end Steps

-- ============================================================= whole runs

/-- In every run in which nothing is admitted ahead of the clock, every
cleaning removes what was last admitted more than `MESSAGE_EXPIRY` before
it. -/
theorem retention_bounded {σ : Type} [MessageStore σ] (P : Platform)
    (r₀ : LxmfRouter σ) (events : List RouterEvent)
    (h : ∀ done e, done ++ [e] <+: events → NothingAhead P
      (done.foldl (Watch.step P) ⟨r₀, fun _ => none⟩) e)
    {done : List RouterEvent} (hdone : done <+: events) :
    Bounded (done.foldl (Watch.step P) ⟨r₀, fun _ => none⟩) := by
  refine AdmittedInTime.bounded P (Run.throughout ?_ ?_ h hdone)
  · intro id t entry hadmitted _
    cases hadmitted
  · exact fun s e hs hnothing => hs.step hnothing

section RetentionInstance

open Reference

/-- A client's message of one second past the epoch, handed in one second
later. -/
theorem retention_bounded_doc :
    Bounded (Watch.step platform
      ⟨docNode.clearPropagationValidation, fun _ => none⟩
      (.processPropagated (.fin 1) docData 2000 none true)) := by
  refine retention_bounded platform docNode.clearPropagationValidation
    [.processPropagated (.fin 1) docData 2000 none true] ?_
    (List.prefix_refl _)
  intro done e hprefix entry hentry hahead
  obtain ⟨rfl, rfl⟩ := Run.prefix_singleton hprefix
  have hmem := (Shelf.mem_fresh hentry).1
  obtain ⟨q, htime, _, hq⟩ := hahead
  have hone : entry = propagatedEntry platform (.fin 1) docData :=
    List.mem_singleton.mp hmem
  rw [hone] at htime
  injection htime with htime
  rw [← htime] at hq
  norm_num [RouterEvent.nowMs] at hq

/-- A message dated three centuries ahead. -/
def futureMessage : RouterEvent :=
  .processPropagated (.fin 10000000000) docData 0 none true

theorem futureMessage_kept :
    let s := Watch.step platform
      ⟨docNode.clearPropagationValidation, fun _ => none⟩ futureMessage
    s.admitted (fullHash platform docData) = some 0
      ∧ (s.router.cleanPropagationStore
        (messageExpiry * 1000 + 1)).2.propagationStore.has
          (fullHash platform docData) = true := by
  decide +kernel

/-- It outlasts the bound. -/
theorem futureMessage_not_bounded :
    ¬ ∀ (r₀ : LxmfRouter InMemoryStore) (events done : List RouterEvent),
      done <+: events →
      Bounded (done.foldl (Watch.step platform) ⟨r₀, fun _ => none⟩) := by
  intro h
  have hbounded := h docNode.clearPropagationValidation [futureMessage]
    [futureMessage] (List.prefix_refl _)
  obtain ⟨hadmitted, hkept⟩ := futureMessage_kept
  have hgone := hbounded _ 0 (messageExpiry * 1000 + 1) hadmitted
    (by decide)
  exact Bool.false_ne_true (hgone.symm.trans hkept)

end RetentionInstance

end LxmfRouter

end Lxmf
