/-
Conservation of outbound messages.

# The run

`OutboundRun` is the router with the history a caller sees: the ids
`enqueue` returned, the deliveries returned and not yet marked inflight,
the ids marked delivered, the failures popped. `placesOf` counts in how
many of the six places an id is.

# The one leak

Every operation moves an id from one place to another except
`next_delivery` on a failed `deliver`: the item is out of the queue and
goes nowhere. `next_delivery_with_retry` puts it back or files it as
failed. So the count is an invariant of every run in which
`next_delivery` delivers what it takes out (`DeliversDue`).
-/
import Lxmf.Library.Run
import Lxmf.RnsRouter
import Lxmf.Proofs.Transport

namespace Lxmf

open Run

-- ============================================================= the run

structure OutboundRun (σ : Type) where
  router : RnsRouter σ
  issued : List Nat
  returned : List QueuedDelivery
  delivered : List Nat
  popped : List FailedDelivery

inductive OutboundAction where
  | enqueue (message : LXMessage) (mode : DeliveryMode)
  | nextDelivery (nowMs : Nat) (deliver : Deliver)
  | nextDeliveryWithRetry (nowMs : Nat) (deliver : Deliver)
  | markInflight (delivery : QueuedDelivery) (sentAtMs timeoutMs : Nat)
  | markDelivered (id : Nat)
  | markFailed (id : Nat) (error : String) (attempts : Nat)
  | pollTimeouts (nowMs : Nat)
  | popFailed

namespace OutboundRun

variable {σ : Type} [MessageStore σ]

def start (r : RnsRouter σ) : OutboundRun σ := ⟨r, [], [], [], []⟩

/-- File what a dequeue function returned. -/
def dequeued (s : OutboundRun σ) :
    Option (Except RnsError QueuedDelivery) × RnsRouter σ → OutboundRun σ
  | (some (.ok queued), r) =>
      { s with router := r, returned := s.returned ++ [queued] }
  | (_, r) => { s with router := r }

/-- One call. Marking inflight is for a delivery returned earlier and
not yet marked. -/
def apply : OutboundAction → OutboundRun σ → Option (OutboundRun σ)
  | .enqueue message mode, s =>
      let (id, r) := s.router.enqueue message mode
      some { s with router := r, issued := s.issued ++ [id] }
  | .nextDelivery nowMs deliver, s =>
      some (s.dequeued (s.router.nextDelivery nowMs deliver))
  | .nextDeliveryWithRetry nowMs deliver, s =>
      some (s.dequeued (s.router.nextDeliveryWithRetry nowMs deliver))
  | .markInflight delivery sentAtMs timeoutMs, s =>
      if delivery ∈ s.returned then
        some { s with
          router := s.router.markInflight delivery sentAtMs timeoutMs
          returned := s.returned.erase delivery }
      else none
  | .markDelivered id, s =>
      match s.router.markDelivered id with
      | (some _, r) =>
          some { s with router := r, delivered := s.delivered ++ [id] }
      | (none, r) => some { s with router := r }
  | .markFailed id error attempts, s =>
      some { s with router := (s.router.markFailed id error attempts).2 }
  | .pollTimeouts nowMs, s =>
      some { s with router := (s.router.pollTimeouts nowMs).2 }
  | .popFailed, s =>
      match s.router.popFailed with
      | (some failed, r) =>
          some { s with router := r, popped := s.popped ++ [failed] }
      | (none, r) => some { s with router := r }

end OutboundRun

-- ============================================================== places

/-- In how many of the router's three places an id is. -/
def RnsRouter.placesOf {σ : Type} (r : RnsRouter σ) (id : Nat) : Nat :=
  (r.outbound.map (·.id)).count id + r.inflight.keys.count id
    + (r.failed.map (·.id)).count id

/-- In how many of all six places an id is. -/
def OutboundRun.placesOf {σ : Type} (s : OutboundRun σ) (id : Nat) : Nat :=
  s.router.placesOf id + (s.returned.map (·.id)).count id
    + s.delivered.count id + (s.popped.map (·.id)).count id

/-- `next_delivery` delivers the item it takes out. -/
def DeliversDue {σ : Type} (s : OutboundRun σ) : OutboundAction → Prop
  | .nextDelivery nowMs deliver =>
      ∀ item rest, s.router.outbound = item :: rest →
        item.nextAttemptAtMs ≤ nowMs →
        ∃ output message, deliver (RnsRouter.attempt item).message item.mode
          = (.ok output, message)
  | _ => True

section Places

variable {σ : Type} [MessageStore σ]

/-- Taking a key out of the inflight map takes one occurrence out. -/
theorem count_keys_erase {m : HashMap Nat InflightDelivery} {id : Nat}
    {v : InflightDelivery} (h : m.lookup id = some v) (x : Nat) :
    (m.erase id).keys.count x + [id].count x = m.keys.count x := by
  have hmem : id ∈ m.keys := by
    rw [← AList.mem_keys, ← AList.lookup_isSome, h]
    rfl
  rw [AList.keys_erase, List.count_erase, List.count_singleton]
  split
  case isTrue hx =>
    have hx : id = x := by simpa using hx
    subst hx
    have hpos : 0 < m.keys.count id := List.count_pos_iff.mpr hmem
    omega
  case isFalse => omega

/-- Putting a new key in adds one occurrence. -/
theorem count_keys_insert {m : HashMap Nat InflightDelivery} {id : Nat}
    (v : InflightDelivery) (h : m.keys.count id = 0) (x : Nat) :
    (m.insert id v).keys.count x = m.keys.count x + [id].count x := by
  have hmem : id ∉ m.keys := List.count_eq_zero.mp h
  rw [AList.keys_insert, List.erase_of_not_mem hmem, List.count_cons,
    List.count_singleton]

theorem enqueue_places (r : RnsRouter σ) (message : LXMessage)
    (mode : DeliveryMode) (x : Nat) :
    (r.enqueue message mode).2.placesOf x
      = r.placesOf x + [r.nextId].count x := by
  simp only [RnsRouter.enqueue, RnsRouter.placesOf, List.map_append,
    List.count_append, List.map_cons, List.map_nil]
  omega

omit [MessageStore σ] in
theorem markDelivered_places {r r' : RnsRouter σ} {id : Nat}
    {m : LXMessage} (h : r.markDelivered id = (some m, r')) (x : Nat) :
    r'.placesOf x + [id].count x = r.placesOf x := by
  unfold RnsRouter.markDelivered at h
  split at h
  case h_1 => cases h
  case h_2 v hv =>
    injection h with _ h
    subst h
    have := count_keys_erase hv x
    simp only [RnsRouter.placesOf]
    omega

theorem markFailed_places (r : RnsRouter σ) (id : Nat) (error : String)
    (attempts x : Nat) :
    (r.markFailed id error attempts).2.placesOf x = r.placesOf x := by
  unfold RnsRouter.markFailed
  split
  case h_1 => rfl
  case h_2 v hv =>
    have := count_keys_erase hv x
    simp only [RnsRouter.placesOf, List.map_append, List.count_append,
      List.map_cons, List.map_nil]
    omega

theorem pollTimeouts_places (r : RnsRouter σ) (nowMs x : Nat) :
    (r.pollTimeouts nowMs).2.placesOf x = r.placesOf x := by
  unfold RnsRouter.pollTimeouts
  generalize r.expired nowMs = ids
  induction ids generalizing r with
  | nil => rfl
  | cons id ids ih =>
      simp only [RnsRouter.failTimedOut]
      rw [ih, markFailed_places]

omit [MessageStore σ] in
theorem popFailed_places {r r' : RnsRouter σ} {failed : FailedDelivery}
    (h : r.popFailed = (some failed, r')) (x : Nat) :
    r'.placesOf x + [failed.id].count x = r.placesOf x := by
  unfold RnsRouter.popFailed at h
  split at h
  case h_1 => cases h
  case h_2 item rest hf =>
    injection h with hitem h
    injection hitem with hitem
    subst hitem h
    simp only [RnsRouter.placesOf, hf, List.map_cons, List.count_cons,
      List.count_nil]
    omega

-- ============================================ what a dequeue can return

/-- Both dequeue functions, on what they return: nothing changed, the
head went to the caller, or it failed. -/
theorem nextDelivery_cases (r : RnsRouter σ) (nowMs : Nat)
    (deliver : Deliver) :
    r.nextDelivery nowMs deliver = (none, r)
    ∨ ∃ item rest, r.outbound = item :: rest
      ∧ item.nextAttemptAtMs ≤ nowMs
      ∧ ((∃ queued store, r.nextDelivery nowMs deliver
            = (some (.ok queued),
              { r with outbound := rest, store := store })
          ∧ queued.id = item.id)
        ∨ (∃ err message,
            deliver (RnsRouter.attempt item).message item.mode
              = (.error err, message))) := by
  unfold RnsRouter.nextDelivery
  split
  case h_1 => exact .inl rfl
  case h_2 item rest hout =>
    split
    case isTrue => exact .inl rfl
    case isFalse hdue =>
      refine .inr ⟨item, rest, hout, not_lt.mp hdue, ?_⟩
      dsimp only
      split
      case h_1 output message _ => exact .inl ⟨_, _, rfl, rfl⟩
      case h_2 err message hd => exact .inr ⟨err, message, hd⟩

/-- With retries, the head goes to the caller, back into the queue or
into the failed queue. -/
theorem nextDeliveryWithRetry_places {r r' : RnsRouter σ} {nowMs : Nat}
    {deliver : Deliver} {result : Option (Except RnsError QueuedDelivery)}
    (h : r.nextDeliveryWithRetry nowMs deliver = (result, r')) (x : Nat) :
    (∃ queued, result = some (.ok queued)
        ∧ r'.placesOf x + [queued.id].count x = r.placesOf x)
    ∨ ((∀ queued, result ≠ some (.ok queued))
        ∧ r'.placesOf x = r.placesOf x) := by
  have keep : ∀ err : RnsError, ∀ queued : QueuedDelivery,
      some (Except.error err) ≠ some (Except.ok queued) := by
    intro err queued heq
    cases heq
  have keepNone : ∀ queued : QueuedDelivery,
      none ≠ some (Except.ok (ε := RnsError) queued) := by
    intro queued heq
    cases heq
  unfold RnsRouter.nextDeliveryWithRetry at h
  split at h
  case h_1 =>
    injection h with hres hr
    subst hres hr
    exact .inr ⟨keepNone, rfl⟩
  case h_2 item rest hout =>
    split at h
    case isTrue =>
      injection h with hres hr
      subst hres hr
      exact .inr ⟨keepNone, rfl⟩
    case isFalse =>
      dsimp only at h
      split at h
      case h_1 output message _ =>
        injection h with hres hr
        subst hres hr
        refine .inl ⟨_, rfl, ?_⟩
        simp only [RnsRouter.placesOf, RnsRouter.sent, RnsRouter.attempt,
          hout, List.map_cons, List.count_cons, List.count_nil]
        omega
      case h_2 err message _ =>
        have hgive : ∀ err, ((RnsRouter.giveUp { r with outbound := rest }
            (RnsRouter.attempt item) message err).placesOf x)
              = r.placesOf x := by
          intro err
          simp only [RnsRouter.placesOf, RnsRouter.giveUp,
            RnsRouter.attempt, hout, List.map_append, List.count_append,
            List.map_cons, List.map_nil, List.count_cons, List.count_nil]
          omega
        split at h
        case h_1 =>
          injection h with hres hr
          subst hres hr
          exact .inr ⟨keep _, hgive _⟩
        case h_2 =>
          split at h
          case isTrue =>
            injection h with hres hr
            subst hres hr
            refine .inr ⟨keep _, ?_⟩
            simp only [RnsRouter.placesOf, RnsRouter.retryLater,
              RnsRouter.attempt, hout, List.map_append, List.count_append,
              List.map_cons, List.map_nil, List.count_cons,
              List.count_nil]
            omega
          case isFalse =>
            injection h with hres hr
            subst hres hr
            exact .inr ⟨keep _, hgive _⟩

-- ============================================================ id supply

omit [MessageStore σ] in
theorem markDelivered_nextId (r : RnsRouter σ) (id : Nat) :
    (r.markDelivered id).2.nextId = r.nextId := by
  unfold RnsRouter.markDelivered
  split <;> rfl

theorem markFailed_nextId (r : RnsRouter σ) (id : Nat) (error : String)
    (attempts : Nat) :
    (r.markFailed id error attempts).2.nextId = r.nextId := by
  unfold RnsRouter.markFailed
  split <;> rfl

theorem pollTimeouts_nextId (r : RnsRouter σ) (nowMs : Nat) :
    (r.pollTimeouts nowMs).2.nextId = r.nextId := by
  unfold RnsRouter.pollTimeouts
  generalize r.expired nowMs = ids
  induction ids generalizing r with
  | nil => rfl
  | cons id ids ih =>
      simp only [RnsRouter.failTimedOut]
      rw [ih, markFailed_nextId]

omit [MessageStore σ] in
theorem popFailed_nextId (r : RnsRouter σ) :
    r.popFailed.2.nextId = r.nextId := by
  unfold RnsRouter.popFailed
  split <;> rfl

theorem nextDeliveryWithRetry_nextId (r : RnsRouter σ) (nowMs : Nat)
    (deliver : Deliver) :
    (r.nextDeliveryWithRetry nowMs deliver).2.nextId = r.nextId := by
  unfold RnsRouter.nextDeliveryWithRetry
  split
  · rfl
  · split
    · rfl
    · dsimp only
      split
      · rfl
      · split
        · rfl
        · split <;> rfl

end Places

-- ======================================================== conservation

/-- An id is in as many places as it was issued times, and ids are
issued in order. -/
structure OutboundInv {σ : Type} (s : OutboundRun σ) : Prop where
  places : ∀ id, s.placesOf id = s.issued.count id
  nodup : s.issued.Nodup
  fresh : ∀ id ∈ s.issued, id < s.router.nextId

section Conservation

variable {σ : Type} [MessageStore σ]

omit [MessageStore σ] in
/-- A step that issues nothing keeps the invariant if it keeps the
counts and the id supply. -/
theorem OutboundInv.of_moved {s s' : OutboundRun σ} (h : OutboundInv s)
    (hissued : s'.issued = s.issued)
    (hid : s'.router.nextId = s.router.nextId)
    (hplaces : ∀ id, s'.placesOf id = s.placesOf id) : OutboundInv s' := by
  refine ⟨?_, ?_, ?_⟩
  · intro id
    rw [hplaces, hissued]
    exact h.places id
  · rw [hissued]
    exact h.nodup
  · rw [hissued, hid]
    exact h.fresh

theorem enqueue_inv {s : OutboundRun σ} (h : OutboundInv s)
    (message : LXMessage) (mode : DeliveryMode) :
    OutboundInv { s with
      router := (s.router.enqueue message mode).2
      issued := s.issued ++ [s.router.nextId] } := by
  have hnew : s.router.nextId ∉ s.issued := by
    intro hmem
    exact absurd (h.fresh _ hmem) (lt_irrefl _)
  refine ⟨?_, ?_, ?_⟩
  · intro id
    have hp := h.places id
    simp only [OutboundRun.placesOf, enqueue_places, List.count_append]
      at hp ⊢
    omega
  · rw [List.nodup_append]
    refine ⟨h.nodup, List.nodup_singleton _, ?_⟩
    intro a ha b hb hab
    rw [List.mem_singleton] at hb
    rw [hab, hb] at ha
    exact hnew ha
  · intro id hid
    show id < s.router.nextId + 1
    rcases List.mem_append.mp hid with hid | hid
    · have := h.fresh id hid
      omega
    · rw [List.mem_singleton] at hid
      omega

theorem nextDelivery_inv {s : OutboundRun σ} (h : OutboundInv s)
    {nowMs : Nat} {deliver : Deliver}
    (hok : DeliversDue s (.nextDelivery nowMs deliver)) :
    OutboundInv (s.dequeued (s.router.nextDelivery nowMs deliver)) := by
  rcases nextDelivery_cases s.router nowMs deliver with hnone | hsome
  · rw [hnone]
    exact h
  · obtain ⟨item, rest, hout, hdue, hsent | hfail⟩ := hsome
    · obtain ⟨queued, store, heq, hid⟩ := hsent
      rw [heq]
      refine h.of_moved rfl rfl ?_
      intro x
      simp only [OutboundRun.dequeued, OutboundRun.placesOf,
        RnsRouter.placesOf, hout, List.map_append, List.count_append,
        List.map_cons, List.map_nil, List.count_cons, List.count_nil, hid]
      omega
    · -- the item would be lost, but the step's condition excludes it
      obtain ⟨err, message, herr⟩ := hfail
      obtain ⟨output, message', hgood⟩ := hok item rest hout hdue
      rw [herr] at hgood
      cases hgood

theorem nextDeliveryWithRetry_inv {s : OutboundRun σ} (h : OutboundInv s)
    (nowMs : Nat) (deliver : Deliver) :
    OutboundInv
      (s.dequeued (s.router.nextDeliveryWithRetry nowMs deliver)) := by
  have hnext := nextDeliveryWithRetry_nextId s.router nowMs deliver
  generalize hstep : s.router.nextDeliveryWithRetry nowMs deliver = step
    at hnext ⊢
  obtain ⟨result, r'⟩ := step
  have hplaces := nextDeliveryWithRetry_places hstep
  by_cases hres : ∃ queued, result = some (.ok queued)
  · obtain ⟨queued, rfl⟩ := hres
    refine h.of_moved rfl hnext ?_
    intro x
    rcases hplaces x with ⟨q, hq, hp⟩ | ⟨hno, _⟩
    · injection hq with hq
      injection hq with hq
      subst hq
      simp only [OutboundRun.dequeued, OutboundRun.placesOf,
        List.map_append, List.count_append, List.map_cons, List.map_nil]
      omega
    · exact absurd rfl (hno queued)
  · have hstay : s.dequeued (result, r') = { s with router := r' } := by
      cases result with
      | none => rfl
      | some res =>
          cases res with
          | error e => rfl
          | ok queued => exact absurd ⟨queued, rfl⟩ hres
    rw [hstay]
    refine h.of_moved rfl hnext ?_
    intro x
    rcases hplaces x with ⟨q, hq, _⟩ | ⟨_, hp⟩
    · exact absurd ⟨q, hq⟩ hres
    · simp only [OutboundRun.placesOf, hp]

omit [MessageStore σ] in
theorem markInflight_inv {s : OutboundRun σ} (h : OutboundInv s)
    {delivery : QueuedDelivery} (hmem : delivery ∈ s.returned)
    (sentAtMs timeoutMs : Nat) :
    OutboundInv { s with
      router := s.router.markInflight delivery sentAtMs timeoutMs
      returned := s.returned.erase delivery } := by
  -- the id is among the returned ones, so it is nowhere else
  have hret : 0 < (s.returned.map (·.id)).count delivery.id :=
    List.count_pos_iff.mpr (List.mem_map_of_mem hmem)
  have hone : s.issued.count delivery.id ≤ 1 :=
    List.nodup_iff_count_le_one.mp h.nodup _
  have hplace := h.places delivery.id
  have hfree : s.router.inflight.keys.count delivery.id = 0 := by
    simp only [OutboundRun.placesOf, RnsRouter.placesOf] at hplace
    omega
  refine h.of_moved rfl rfl ?_
  intro x
  have hins := count_keys_insert
    (m := s.router.inflight)
    { id := delivery.id
      message := { delivery.message with state := stateSent }
      sentAtMs := sentAtMs
      timeoutMs := timeoutMs } hfree x
  have hperm := (List.perm_cons_erase hmem).map (·.id)
  have hcount := hperm.count_eq x
  simp only [List.map_cons, List.count_cons] at hcount
  simp only [List.count_cons, List.count_nil] at hins
  simp only [OutboundRun.placesOf, RnsRouter.placesOf,
    RnsRouter.markInflight]
  omega

omit [MessageStore σ] in
/-- An id that is not in flight changes nothing. -/
theorem markDelivered_none {r r' : RnsRouter σ} {id : Nat}
    (h : r.markDelivered id = (none, r')) : r' = r := by
  unfold RnsRouter.markDelivered at h
  split at h
  · injection h with _ h
    exact h.symm
  · cases h

omit [MessageStore σ] in
theorem popFailed_none {r r' : RnsRouter σ}
    (h : r.popFailed = (none, r')) : r' = r := by
  unfold RnsRouter.popFailed at h
  split at h
  · injection h with _ h
    exact h.symm
  · cases h

/-- Every step whose `next_delivery` delivers keeps the invariant. -/
theorem OutboundInv.step {s s' : OutboundRun σ} {a : OutboundAction}
    (h : OutboundInv s) (hok : DeliversDue s a)
    (happly : OutboundRun.apply a s = some s') : OutboundInv s' := by
  cases a with
  | enqueue message mode =>
      injection happly with happly
      subst happly
      exact enqueue_inv h message mode
  | nextDelivery nowMs deliver =>
      injection happly with happly
      subst happly
      exact nextDelivery_inv h hok
  | nextDeliveryWithRetry nowMs deliver =>
      injection happly with happly
      subst happly
      exact nextDeliveryWithRetry_inv h nowMs deliver
  | markInflight delivery sentAtMs timeoutMs =>
      simp only [OutboundRun.apply] at happly
      split at happly
      case isTrue hmem =>
        injection happly with happly
        subst happly
        exact markInflight_inv h hmem sentAtMs timeoutMs
      case isFalse => cases happly
  | markDelivered id =>
      have hnext := markDelivered_nextId s.router id
      simp only [OutboundRun.apply] at happly
      split at happly
      case h_1 m r' heq =>
        injection happly with happly
        subst happly
        rw [heq] at hnext
        refine h.of_moved rfl hnext ?_
        intro x
        have := markDelivered_places heq x
        simp only [OutboundRun.placesOf, List.count_append]
        omega
      case h_2 r' heq =>
        injection happly with happly
        subst happly
        rw [markDelivered_none heq]
        exact h
  | markFailed id error attempts =>
      injection happly with happly
      subst happly
      refine h.of_moved rfl (markFailed_nextId _ _ _ _) ?_
      intro x
      simp only [OutboundRun.placesOf, markFailed_places]
  | pollTimeouts nowMs =>
      injection happly with happly
      subst happly
      refine h.of_moved rfl (pollTimeouts_nextId _ _) ?_
      intro x
      simp only [OutboundRun.placesOf, pollTimeouts_places]
  | popFailed =>
      have hnext := popFailed_nextId s.router
      simp only [OutboundRun.apply] at happly
      split at happly
      case h_1 failed r' heq =>
        injection happly with happly
        subst happly
        rw [heq] at hnext
        refine h.of_moved rfl hnext ?_
        intro x
        have := popFailed_places heq x
        simp only [OutboundRun.placesOf, List.map_append,
          List.count_append, List.map_cons, List.map_nil]
        omega
      case h_2 r' heq =>
        injection happly with happly
        subst happly
        rw [popFailed_none heq]
        exact h

/-- Every issued id is in exactly one place, in every state of every run
from an empty router in which `next_delivery` delivers what it takes
out. -/
theorem outbound_conserved (r : RnsRouter σ)
    (hout : r.outbound = []) (hinf : r.inflight = ∅) (hfail : r.failed = [])
    (s : OutboundRun σ)
    (hrun : Reaches OutboundRun.apply DeliversDue (.start r) s) :
    ∀ id ∈ s.issued, s.placesOf id = 1 := by
  have hinv : OutboundInv s := by
    refine hrun.invariant ?_ ?_
    · refine ⟨?_, List.nodup_nil, ?_⟩
      · intro id
        simp [OutboundRun.placesOf, RnsRouter.placesOf, OutboundRun.start,
          hout, hinf, hfail]
      · intro id hid
        cases hid
    · intro s a s' h hok happly
      exact h.step hok happly
  intro id hid
  rw [hinv.places id]
  exact List.count_eq_one_of_mem hinv.nodup hid

end Conservation

section ConservationInstance

open Reference

/-- A call of `deliver` on an outbound. -/
noncomputable def deliverOn (o : RnsOutbound) : Deliver :=
  fun m mode => o.deliver platform m mode (fun _ => 0)

/-- The documentation example's outbound under the strict policy. -/
def strictOutbound : RnsOutbound :=
  { docOutbound with cryptoPolicy := .enforceRatchets }

def docRouter (o : RnsOutbound) : RnsRouter InMemoryStore :=
  RnsRouter.empty o {}

/-- One message queued and sent: it is among the returned deliveries. -/
theorem outbound_conserved_doc :
    ∃ s, Reaches OutboundRun.apply DeliversDue
        (.start (docRouter docOutbound)) s
      ∧ s.issued = [1] ∧ s.placesOf 1 = 1 := by
  let s₁ : OutboundRun InMemoryStore :=
    { OutboundRun.start (docRouter docOutbound) with
      router := ((docRouter docOutbound).enqueue docMessage .direct).2
      issued := [1] }
  have h₁ : Reaches OutboundRun.apply DeliversDue
      (.start (docRouter docOutbound)) s₁ :=
    Reaches.start.step (.enqueue docMessage .direct) trivial rfl
  have hok : DeliversDue s₁ (.nextDelivery 0 (deliverOn docOutbound)) := by
    intro item rest hout _
    injection hout with hitem _
    subst hitem
    exact deliver_ok platform_rmpvCodec docOutbound _ _ (.inr rfl) rfl
  have h₂ := h₁.step (.nextDelivery 0 (deliverOn docOutbound)) hok rfl
  have hissued : (s₁.dequeued (s₁.router.nextDelivery 0
      (deliverOn docOutbound))).issued = [1] := by
    decide +kernel
  refine ⟨_, h₂, hissued, ?_⟩
  refine outbound_conserved (docRouter docOutbound) rfl rfl rfl _ h₂ 1 ?_
  rw [hissued]
  exact List.mem_singleton_self 1

/-- The strict policy refuses a direct delivery: `next_delivery` reports
the error and the message is in no place. -/
theorem nextDelivery_loses :
    ∃ s, run OutboundRun.apply
        [.enqueue docMessage .direct,
         .nextDelivery 0 (deliverOn strictOutbound)]
        (.start (docRouter strictOutbound)) = some s
      ∧ s.issued = [1] ∧ s.placesOf 1 = 0 := by
  refine ⟨_, rfl, ?_, ?_⟩
  · decide +kernel
  · decide +kernel

end ConservationInstance

end Lxmf
