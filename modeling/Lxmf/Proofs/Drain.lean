/-
The loop of a tick that drains the outbound queue
(lxmf-rs/src/rns/router.rs: `LxmfRuntime::tick`,
`RnsRouter::next_delivery_with_retry`).

An item whose attempt failed goes to the back of the queue it was taken
from, due when its delay has passed, which is at once under a policy
without delays. What ends the loop is the number of attempts left. What
hides a message from it is an item that is not due: the loop looks at
the front alone.
-/
import Lxmf.Library.WorkQueue
import Lxmf.Router.Tick
import Lxmf.Proofs.Outbound

namespace Lxmf

open WorkQueue

-- ============================================================= one turn

/-- The loop may attempt the item. -/
def QueuedMessage.isDue (nowMs : Nat) (item : QueuedMessage) : Bool :=
  decide (item.nextAttemptAtMs ≤ nowMs)

/-- The delivery fails, for another reason than the policy. -/
def Fails (deliver : Deliver) (item : QueuedMessage) : Prop :=
  ∃ err message, deliver (RnsRouter.attempt item).message item.mode
      = (.error err, message)
    ∧ ∀ policy mode reason, err ≠ .cryptoPolicyViolation policy mode reason

/-- The item as an attempt puts it back into the queue, if it does. -/
def comesBack (policy : RetryPolicy) (nowMs : Nat) (deliver : Deliver)
    (item : QueuedMessage) : Option QueuedMessage :=
  match deliver (RnsRouter.attempt item).message item.mode with
  | (.ok _, _) => none
  | (.error (.cryptoPolicyViolation _ _ _), _) => none
  | (.error _, message) =>
      if item.attempts + 1 < policy.maxAttempts then
        some { RnsRouter.attempt item with
          message := message
          nextAttemptAtMs :=
            satAdd64 nowMs (retryDelayMs policy (item.attempts + 1)) }
      else none

section Turn

variable {policy : RetryPolicy} {nowMs : Nat} {deliver : Deliver}
  {item back : QueuedMessage}

theorem comesBack_eq_some
    (h : comesBack policy nowMs deliver item = some back) :
    Fails deliver item ∧ item.attempts + 1 < policy.maxAttempts
      ∧ back.attempts = item.attempts + 1
      ∧ back.nextAttemptAtMs
        = satAdd64 nowMs (retryDelayMs policy (item.attempts + 1)) := by
  unfold comesBack at h
  split at h
  case h_1 => cases h
  case h_2 => cases h
  case h_3 err message hpolicy hdeliver =>
    split at h
    case isTrue hleft =>
      cases h
      refine ⟨⟨err, message, hdeliver, ?_⟩, hleft, rfl, rfl⟩
      exact fun policy mode reason herr => hpolicy policy mode reason herr
    case isFalse => cases h

/-- A turn of the loop costs an attempt. -/
theorem comesBack_attempts
    (h : comesBack policy nowMs deliver item = some back) :
    max 1 (policy.maxAttempts - back.attempts)
      < max 1 (policy.maxAttempts - item.attempts) := by
  obtain ⟨_, hleft, hattempts, _⟩ := comesBack_eq_some h
  omega

end Turn

section Queue

variable {σ : Type} [MessageStore σ] {r : RnsRouter σ} {nowMs : Nat}

/-- The loop has nothing to do: the queue is empty, or its front is not
due. -/
theorem nextDeliveryWithRetry_stopped
    (h : Stopped (QueuedMessage.isDue nowMs) r.outbound)
    (deliver : Deliver) :
    r.nextDeliveryWithRetry nowMs deliver = (none, r) := by
  unfold RnsRouter.nextDeliveryWithRetry
  split
  case h_1 => rfl
  case h_2 item rest hout =>
    rw [hout] at h
    have hfront := of_decide_eq_false (h item rfl)
    rw [if_pos (by omega)]

/-- The front of the queue is attempted, and goes to the back or out. -/
theorem nextDeliveryWithRetry_due {item : QueuedMessage}
    {rest : List QueuedMessage} (hout : r.outbound = item :: rest)
    (hdue : item.isDue nowMs = true) (deliver : Deliver) :
    ∃ result r', r.nextDeliveryWithRetry nowMs deliver = (some result, r')
      ∧ r'.retry = r.retry
      ∧ r'.outbound
        = rest ++ (comesBack r.retry nowMs deliver item).toList := by
  have hdue := of_decide_eq_true hdue
  unfold RnsRouter.nextDeliveryWithRetry comesBack
  split
  case h_1 hnil =>
    rw [hnil] at hout
    cases hout
  case h_2 front rest' hcons =>
    rw [hcons] at hout
    cases hout
    have hmode : (RnsRouter.attempt item).mode = item.mode := rfl
    have hattempts :
        (RnsRouter.attempt item).attempts = item.attempts + 1 := rfl
    rw [if_neg (by omega)]
    dsimp only
    rw [hmode, hattempts]
    cases deliver (RnsRouter.attempt item).message item.mode with
    | mk result message =>
        cases result with
        | ok output =>
            refine ⟨_, _, rfl, rfl, ?_⟩
            exact (List.append_nil rest).symm
        | error err =>
            cases err with
            | cryptoPolicyViolation =>
                refine ⟨_, _, rfl, rfl, ?_⟩
                exact (List.append_nil rest).symm
            | _ =>
                dsimp only
                by_cases hleft : item.attempts + 1 < r.retry.maxAttempts
                · rw [if_pos hleft, if_pos hleft]
                  exact ⟨_, _, rfl, rfl, rfl⟩
                · rw [if_neg hleft, if_neg hleft]
                  refine ⟨_, _, rfl, rfl, ?_⟩
                  exact (List.append_nil rest).symm

-- ============================================================ the loop

theorem attempts_pos {policy : RetryPolicy} (item : QueuedMessage) :
    0 < max 1 (policy.maxAttempts - item.attempts) :=
  Nat.lt_of_lt_of_le Nat.one_pos (Nat.le_max_left _ _)

theorem drainOutbound_stopped
    (h : Stopped (QueuedMessage.isDue nowMs) r.outbound)
    (deliver : Nat → Deliver) (fuel k : Nat) :
    drainOutbound nowMs deliver fuel k r = ([], r) := by
  cases fuel with
  | zero => rfl
  | succ fuel =>
      unfold drainOutbound
      rw [nextDeliveryWithRetry_stopped h]

/-- The loop over the router is the loop over its queue. -/
theorem drainOutbound_eq (deliver : Nat → Deliver) (fuel k : Nat)
    (r : RnsRouter σ) :
    (drainOutbound nowMs deliver fuel k r).1.length
        = (drain (QueuedMessage.isDue nowMs)
            (fun k => comesBack r.retry nowMs (deliver k)) fuel k
            r.outbound).1.length
      ∧ (drainOutbound nowMs deliver fuel k r).2.outbound
        = (drain (QueuedMessage.isDue nowMs)
            (fun k => comesBack r.retry nowMs (deliver k)) fuel k
            r.outbound).2 := by
  induction fuel generalizing k r with
  | zero => exact ⟨rfl, rfl⟩
  | succ fuel ih =>
      cases hout : r.outbound with
      | nil =>
          have hstop : Stopped (QueuedMessage.isDue nowMs) r.outbound := by
            rw [hout]
            intro item hitem
            cases hitem
          rw [drainOutbound_stopped hstop]
          exact ⟨rfl, hout⟩
      | cons item rest =>
          by_cases hdue : item.isDue nowMs = true
          · obtain ⟨result, r', hnext, hretry, hqueue⟩ :=
              nextDeliveryWithRetry_due hout hdue (deliver k)
            have hrest := ih (k + 1) r'
            rw [hretry, hqueue] at hrest
            rw [drain_ready hdue]
            unfold drainOutbound
            rw [hnext]
            exact ⟨congrArg Nat.succ hrest.1, hrest.2⟩
          · have hdue := Bool.eq_false_of_not_eq_true hdue
            have hstop : Stopped (QueuedMessage.isDue nowMs) r.outbound := by
              rw [hout]
              intro front hfront
              cases hfront
              exact hdue
            rw [drainOutbound_stopped hstop, drain_blocked hdue]
            exact ⟨rfl, hout⟩

/-- The router the loop leaves has nothing to do. -/
theorem drainOutbound_ends (deliver : Nat → Deliver) {fuel : Nat}
    (hfuel : r.attemptsLeft ≤ fuel) (k : Nat) :
    Stopped (QueuedMessage.isDue nowMs)
      (drainOutbound nowMs deliver fuel k r).2.outbound := by
  rw [(drainOutbound_eq deliver fuel k r).2]
  exact drain_ends attempts_pos (fun _ _ _ h => comesBack_attempts h) hfuel k

/-- More turns than the loop takes change nothing. -/
theorem drainOutbound_more {deliver : Nat → Deliver} {fuel more k : Nat}
    (h : Stopped (QueuedMessage.isDue nowMs)
      (drainOutbound nowMs deliver fuel k r).2.outbound)
    (hmore : fuel ≤ more) :
    drainOutbound nowMs deliver more k r
      = drainOutbound nowMs deliver fuel k r := by
  induction fuel generalizing k r more with
  | zero => exact drainOutbound_stopped h deliver more k
  | succ fuel ih =>
      cases more with
      | zero => omega
      | succ more =>
          unfold drainOutbound at h ⊢
          generalize r.nextDeliveryWithRetry nowMs (deliver k) = next at *
          rcases next with ⟨result, r'⟩
          cases result with
          | none => rfl
          | some result =>
              dsimp only at h ⊢
              rw [ih h (Nat.le_of_succ_le_succ hmore)]

/-- The attempts of an item stay below the maximum of their counter. -/
theorem drainOutbound_attempts (hmax : r.retry.maxAttempts ≤ u32Max)
    (h : ∀ item ∈ r.outbound, item.attempts < u32Max)
    (deliver : Nat → Deliver) (fuel k : Nat) :
    ∀ item ∈ (drainOutbound nowMs deliver fuel k r).2.outbound,
      item.attempts < u32Max := by
  rw [(drainOutbound_eq deliver fuel k r).2]
  refine forall_mem_drain (fun k item back hback _ => ?_) fuel k h
  obtain ⟨_, hleft, hattempts, _⟩ := comesBack_eq_some hback
  omega

-- ========================================================== single items

/-- The places of the items the loop attempts, in order. `places` tells
where the items of the queue stood at first: one that comes back keeps
its place. -/
def drainPlaces (nowMs : Nat) (deliver : Nat → Deliver) :
    Nat → Nat → RnsRouter σ → List Nat → List Nat
  | fuel + 1, k, r, place :: places =>
      match r.nextDeliveryWithRetry nowMs (deliver k) with
      | (some _, r') =>
          let back :=
            if r'.outbound.length = r.outbound.length then [place] else []
          place :: drainPlaces nowMs deliver fuel (k + 1) r'
            (places ++ back)
      | (none, _) => []
  | _, _, _, _ => []

/-- `isDue` of an item that carries its place. -/
def isDueAt (nowMs : Nat) (placed : QueuedMessage × Nat) : Bool :=
  placed.1.isDue nowMs

/-- An attempt of an item that carries its place. -/
def comesBackTo (policy : RetryPolicy) (nowMs : Nat) (deliver : Deliver)
    (placed : QueuedMessage × Nat) : Option (QueuedMessage × Nat) :=
  (comesBack policy nowMs deliver placed.1).map fun item =>
    (item, placed.2)

/-- The places are those of the loop over a queue that carries them. -/
theorem drainPlaces_eq (deliver : Nat → Deliver) (fuel k : Nat)
    {r : RnsRouter σ} {queue : List (QueuedMessage × Nat)}
    (hout : r.outbound = queue.map Prod.fst) :
    drainPlaces nowMs deliver fuel k r (queue.map Prod.snd)
      = (drain (isDueAt nowMs)
          (fun k => comesBackTo r.retry nowMs (deliver k)) fuel k
          queue).1.map Prod.snd := by
  induction fuel generalizing k r queue with
  | zero => rfl
  | succ fuel ih =>
      cases queue with
      | nil => rfl
      | cons placed queue =>
          rw [List.map_cons] at hout ⊢
          by_cases hdue : placed.1.isDue nowMs = true
          · obtain ⟨result, r', hnext, hretry, hqueue⟩ :=
              nextDeliveryWithRetry_due hout hdue (deliver k)
            have hready : isDueAt nowMs placed = true := hdue
            have hitems : r'.outbound = (queue ++ (comesBackTo r.retry nowMs
                (deliver k) placed).toList).map Prod.fst := by
              rw [hqueue, List.map_append]
              unfold comesBackTo
              cases comesBack r.retry nowMs (deliver k) placed.1 <;> rfl
            have hback : (if r'.outbound.length = r.outbound.length
                then [placed.2] else []) = (comesBackTo r.retry nowMs
                  (deliver k) placed).toList.map Prod.snd := by
              rw [hqueue, hout]
              unfold comesBackTo
              cases comesBack r.retry nowMs (deliver k) placed.1 with
              | none => simp
              | some back => simp
            have hrest := ih (k + 1) hitems
            rw [List.map_append, hretry] at hrest
            unfold drainPlaces
            rw [hnext]
            dsimp only
            rw [hback, hrest, drain_ready hready, List.map_cons]
          · have hdue := Bool.eq_false_of_not_eq_true hdue
            have hstop : Stopped (QueuedMessage.isDue nowMs) r.outbound := by
              rw [hout]
              intro front hfront
              cases hfront
              exact hdue
            have hblocked : isDueAt nowMs placed = false := hdue
            rw [drain_blocked hblocked]
            unfold drainPlaces
            rw [nextDeliveryWithRetry_stopped hstop]
            rfl

/-- At first the places are the indices. -/
theorem drainPlaces_range (deliver : Nat → Deliver) (fuel : Nat) :
    drainPlaces nowMs deliver fuel 0 r (List.range r.outbound.length)
      = (drain (isDueAt nowMs)
          (fun k => comesBackTo r.retry nowMs (deliver k)) fuel 0
          r.outbound.zipIdx).1.map Prod.snd := by
  have hplaces : List.range r.outbound.length
      = r.outbound.zipIdx.map Prod.snd := by
    rw [List.zipIdx_map_snd, List.range_eq_range']
  rw [hplaces]
  exact drainPlaces_eq deliver fuel 0 (List.zipIdx_map_fst 0 _).symm

/-- One item of a list stands at a place. -/
theorem filter_zipIdx {α : Type} (l : List α) (n i : Nat) :
    (l.zipIdx n).filter (fun placed => placed.2 == n + i)
      = (l[i]?.map fun a => (a, n + i)).toList := by
  induction l generalizing n i with
  | nil => rfl
  | cons a l ih =>
      rw [List.zipIdx_cons, List.filter_cons]
      cases i with
      | zero =>
          have hrest : (l.zipIdx (n + 1)).filter
              (fun placed => placed.2 == n + 0) = [] := by
            refine List.filter_eq_nil_iff.mpr fun placed hplaced heq => ?_
            have hle := List.le_snd_of_mem_zipIdx hplaced
            have heq := eq_of_beq heq
            omega
          have heq : (n == n + 0) = true := beq_self_eq_true n
          rw [if_pos heq, hrest]
          rfl
      | succ i =>
          have hne : ¬(n == n + (i + 1)) = true := by
            intro heq
            have heq := eq_of_beq heq
            omega
          have hnext : n + (i + 1) = n + 1 + i := by omega
          rw [if_neg hne, hnext, ih]
          rfl

/-- The attempts the loop makes of the item at a place. -/
theorem count_drainPlaces_le (deliver : Nat → Deliver) (fuel : Nat)
    {i : Nat} {item : QueuedMessage} (hitem : r.outbound[i]? = some item) :
    (drainPlaces nowMs deliver fuel 0 r
        (List.range r.outbound.length)).count i
      ≤ max 1 (r.retry.maxAttempts - item.attempts) := by
  let budget (placed : QueuedMessage × Nat) : Nat :=
    max 1 (r.retry.maxAttempts - placed.1.attempts)
  have hless : ∀ k a b,
      comesBackTo r.retry nowMs (deliver k) a = some b →
        budget b < budget a ∧ (b.2 == i) = (a.2 == i) := by
    intro k a b h
    obtain ⟨back, hback, rfl⟩ := Option.map_eq_some_iff.mp h
    exact ⟨comesBack_attempts hback, rfl⟩
  have hcount : (drain (isDueAt nowMs)
        (fun k => comesBackTo r.retry nowMs (deliver k)) fuel 0
        r.outbound.zipIdx).1.countP (fun placed => placed.2 == i)
      ≤ total budget (r.outbound.zipIdx.filter fun placed =>
          placed.2 == i) :=
    countP_drain_le (fun placed => attempts_pos placed.1)
      (fun k a b h => (hless k a b h).1) (fun k a b h => (hless k a b h).2)
      fuel 0 r.outbound.zipIdx
  have hone := filter_zipIdx r.outbound 0 i
  rw [Nat.zero_add] at hone
  rw [drainPlaces_range, List.count, List.countP_map]
  refine hcount.trans (Nat.le_of_eq ?_)
  rw [hone, hitem]
  exact Nat.add_zero _

/-- Every turn of the loop is an attempt of one item. -/
theorem length_drainPlaces (deliver : Nat → Deliver) (fuel : Nat) :
    (drainPlaces nowMs deliver fuel 0 r
        (List.range r.outbound.length)).length
      = (drainOutbound nowMs deliver fuel 0 r).1.length := by
  have hmap : (drain (isDueAt nowMs)
        (fun k => comesBackTo r.retry nowMs (deliver k)) fuel 0
        r.outbound.zipIdx).1.map Prod.fst
      = (drain (QueuedMessage.isDue nowMs)
        (fun k => comesBack r.retry nowMs (deliver k)) fuel 0
        (r.outbound.zipIdx.map Prod.fst)).1 := by
    refine map_drain Prod.fst (fun _ => rfl) (fun k placed => ?_) fuel 0 _
    unfold comesBackTo
    rw [Option.map_map]
    exact Option.map_id'
  rw [List.zipIdx_map_fst] at hmap
  rw [(drainOutbound_eq deliver fuel 0 r).1, ← hmap, drainPlaces_range,
    List.length_map, List.length_map]

/-- The loop of a tick ends, for every policy and whatever the deliveries
do: the turns `tickOutbound` gives it are all it takes, and of each item
it makes no more attempts than the item has left. -/
theorem outbound_drain_terminates (r : RnsRouter σ) (nowMs : Nat)
    (deliver : Nat → Deliver) (hmax : r.retry.maxAttempts ≤ u32Max)
    (h : ∀ item ∈ r.outbound, item.attempts < u32Max) :
    (∀ deliver', ((drainOutbound nowMs deliver r.attemptsLeft 0
        r).2.nextDeliveryWithRetry nowMs deliver').1 = none)
    ∧ (∀ more, r.attemptsLeft ≤ more →
        drainOutbound nowMs deliver more 0 r
          = drainOutbound nowMs deliver r.attemptsLeft 0 r)
    ∧ (∀ fuel, (drainPlaces nowMs deliver fuel 0 r
          (List.range r.outbound.length)).length
        = (drainOutbound nowMs deliver fuel 0 r).1.length)
    ∧ (∀ fuel i item, r.outbound[i]? = some item →
        (drainPlaces nowMs deliver fuel 0 r
            (List.range r.outbound.length)).count i
          ≤ max 1 (r.retry.maxAttempts - item.attempts))
    ∧ ∀ fuel, ∀ item ∈ (drainOutbound nowMs deliver fuel 0 r).2.outbound,
        item.attempts < u32Max := by
  have hends : Stopped (QueuedMessage.isDue nowMs)
      (drainOutbound nowMs deliver r.attemptsLeft 0 r).2.outbound :=
    drainOutbound_ends deliver (Nat.le_refl r.attemptsLeft) 0
  refine ⟨fun deliver' => ?_, fun more hmore => ?_, ?_, ?_, ?_⟩
  · rw [nextDeliveryWithRetry_stopped hends]
  · exact drainOutbound_more hends hmore
  · exact length_drainPlaces deliver
  · exact fun fuel i item hitem => count_drainPlaces_le deliver fuel hitem
  · exact fun fuel => drainOutbound_attempts hmax h deliver fuel 0

end Queue

section EagerInstance

/-- A delivery that fails. -/
def unreachable : Deliver :=
  fun message _ => (.error (.reticulum "OutOfMemory"), message)

/-- Two fresh messages under a policy without delays. -/
def eagerRouter : RnsRouter InMemoryStore :=
  let r := { docRouter docOutbound with retry := ⟨3, 0, 0⟩ }
  let r := (r.enqueue docMessage .direct).2
  (r.enqueue docMessage .direct).2

/-- Each message is attempted three times at once, and given up. -/
theorem eager_drain_terminates :
    (drainOutbound 0 (fun _ => unreachable) eagerRouter.attemptsLeft 0
        eagerRouter).1.length = 6
      ∧ (drainPlaces 0 (fun _ => unreachable) eagerRouter.attemptsLeft 0
          eagerRouter [0, 1]).count 1 ≤ 3 := by
  have hattempts : ∀ item ∈ eagerRouter.outbound,
      item.attempts < u32Max := by
    intro item hitem
    have hzero : item.attempts = 0 := by
      cases hitem with
      | head => rfl
      | tail _ hitem =>
          cases hitem with
          | head => rfl
          | tail _ hitem => cases hitem
    rw [hzero]
    decide
  obtain ⟨_, _, _, hcount, _⟩ := outbound_drain_terminates eagerRouter 0
    (fun _ => unreachable) (by decide) hattempts
  exact ⟨by decide +kernel, hcount _ 1 _ rfl⟩

end EagerInstance

-- ====================================================== what is left due

section Due

variable {σ : Type} [MessageStore σ] {r : RnsRouter σ} {nowMs : Nat}

/-- A message whose attempt failed is due later, not at once. -/
def RetryPolicy.Waits (policy : RetryPolicy) (nowMs : Nat) : Prop :=
  0 < policy.baseDelayMs ∧ 0 < policy.maxDelayMs ∧ nowMs < u64Max

end Due

section BlockedInstance

end BlockedInstance

end Lxmf
