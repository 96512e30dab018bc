/-
Deferred messages are handed on once, as long as a tick takes what
waits at the front.

# The system

A run interleaves the calls of one router with the steps of its stamp
thread. It records two lists: the items `handle_outbound` deferred, and
the items that were handed to `RnsRouter::enqueue` out of a queue. A
tick is two actions, since the thread may step between them, and no
other call is made inside a tick.

# Order

A tick drops as many items from the front of the router's own queue as
it received, whichever they are. When they are the front, the handed
items and the waiting ones are the deferred ones, in order
(`Ordered`). `process_deferred_stamps` and a failed `try_lock` are what
moves the two queues apart: without them every tick takes the front.
-/
import Mathlib.Data.Multiset.AddSub
import Lxmf.Library.Run
import Lxmf.Router.Tick
import Lxmf.Proofs.Outbound
import Lxmf.Proofs.PeerSync

namespace Lxmf

open Run LxmfRouter DeferredOutbound

-- ============================================================= the run

structure DeferredRun (σ : Type) where
  router : LxmfRouter σ
  /-- The tick under way, between its two halves. -/
  midTick : Option RuntimeTick
  thread : Option StampThread
  deferred : List DeferredOutbound
  handed : List DeferredOutbound

inductive DeferredAction where
  | handleOutbound (message : LXMessage) (mode : DeliveryMode)
      (nowMs : Nat) (rng : OsRng) (free : Bool)
  | processDeferredStamps (nowMs maxItems : Nat)
  | tickBegin (nowMs : Nat) (deliver : Nat → Deliver) (rng : OsRng)
  | tickEnd (nowMs : Nat) (free : Bool)
  | stepThread (free : Bool)

namespace DeferredRun

variable {σ : Type} [MessageStore σ] (P : Platform)

/-- What waits in a router when a run starts counts as deferred. -/
def start (r : LxmfRouter σ) : DeferredRun σ :=
  ⟨r, none, none, r.deferredOutbound, []⟩

def apply : DeferredAction → DeferredRun σ → Option (DeferredRun σ)
  | .handleOutbound message mode nowMs rng free, s =>
      if s.midTick.isSome then none
      else
        match s.router.handleOutbound P message mode nowMs rng free with
        | (some _, r) => some { s with router := r }
        | (none, r) =>
            let item : DeferredOutbound :=
              ⟨(s.router.prepareOutbound P message nowMs rng).1, mode⟩
            some { s with router := r, deferred := s.deferred ++ [item] }
  | .processDeferredStamps _ maxItems, s =>
      if s.midTick.isSome then none
      else
        let (items, r) := processDeferred maxItems s.router
        some { s with router := r, handed := s.handed ++ items }
  | .tickBegin nowMs deliver rng, s =>
      if s.midTick.isSome then none
      else
        let (tick, items, r) := s.router.tickBegin P nowMs deliver rng
        some { s with
          router := r
          midTick := some tick
          handed := s.handed ++ items }
  | .tickEnd nowMs free, s =>
      match s.midTick with
      | none => none
      | some tick =>
          some { s with
            router := (s.router.tickEnd tick nowMs free).2
            midTick := none
            thread := if s.router.spawns tick free then some .spawned
              else s.thread }
  | .stepThread free, s =>
      match s.thread with
      | none => none
      | some thread =>
          let (thread, r) := s.router.stepThread free thread
          some { s with router := r, thread := thread }

/-- The items in the channel. -/
def channel (s : DeferredRun σ) : List DeferredOutbound :=
  s.router.processedDeferred.getD []

/-- Every deferred item was handed on at most once, and `deferred_len`
counts those that were not. -/
structure HandedOnce (s : DeferredRun σ) : Prop where
  atMostOnce : ∀ item,
    s.handed.count item ≤ (s.deferred.map undefer).count item
  waiting : s.router.deferredLen
    = ((s.deferred.map undefer).diff s.handed).length

/-- The items a tick takes from the channel, a hundred at most, are the
front of the router's own queue. -/
def TakesFront (s : DeferredRun σ) : DeferredAction → Prop
  | .tickBegin .. =>
      s.channel.take 100 <+: s.router.deferredOutbound.map undefer
  | _ => True

/-- What was handed on and what waits are what was deferred, in order. -/
def Ordered (s : DeferredRun σ) : Prop :=
  s.deferred.map undefer
    = s.handed ++ s.router.deferredOutbound.map undefer

omit [MessageStore σ] in
theorem Ordered.handedOnce {s : DeferredRun σ} (h : s.Ordered) :
    s.HandedOnce := by
  refine ⟨?_, ?_⟩
  · intro item
    rw [h, List.count_append]
    exact Nat.le_add_right _ _
  · have hdiff : (((s.deferred.map undefer).diff s.handed : List _)
        : Multiset DeferredOutbound)
        = s.router.deferredOutbound.map undefer := by
      rw [← Multiset.coe_sub, h, ← Multiset.coe_add, Multiset.add_comm,
        Multiset.add_sub_cancel_right]
    have hcard := congrArg Multiset.card hdiff
    rw [Multiset.coe_card, Multiset.coe_card, List.length_map] at hcard
    exact hcard.symm

end DeferredRun

-- ===================================================== the stamp queues

/-- The part of a router its deferred messages are in. -/
structure StampQueues where
  own : List DeferredOutbound
  shared : List DeferredOutbound
  active : Bool
  channel : Option (List DeferredOutbound)

namespace LxmfRouter

section Queues

variable {σ : Type} {P : Platform}

def stamps (r : LxmfRouter σ) : StampQueues :=
  ⟨r.deferredOutbound, r.deferredOutboundShared, r.stampProcessingActive,
    r.processedDeferred⟩

theorem foldl_stamps {α : Type} {f : LxmfRouter σ → α → LxmfRouter σ}
    (hf : ∀ r a, (f r a).stamps = r.stamps) (as : List α)
    (r : LxmfRouter σ) : (as.foldl f r).stamps = r.stamps := by
  induction as generalizing r with
  | nil => rfl
  | cons a as ih => exact (ih (f r a)).trans (hf r a)

/-- A job that runs now and then. -/
theorem ite_stamps (ran : Bool) {r r' : LxmfRouter σ}
    (h : r'.stamps = r.stamps) :
    (if ran then r' else r).stamps = r.stamps := by
  split
  case isTrue => exact h
  case isFalse => rfl

theorem cleanLinks_stamps (r : LxmfRouter σ) (nowMs : Nat) :
    (r.cleanLinks nowMs).stamps = r.stamps := by
  obtain ⟨tracker, h | ⟨failure, h⟩⟩ := r.cleanLinks_cases nowMs
  · rw [h]
    rfl
  · rw [h]
    rfl

theorem cleanTransientIdCaches_stamps (r : LxmfRouter σ) (nowMs : Nat) :
    (r.cleanTransientIdCaches P nowMs).2.stamps = r.stamps := by
  unfold cleanTransientIdCaches
  dsimp only
  split
  case isTrue => rfl
  case isFalse => rfl

theorem pollPeerSyncTimeouts_stamps (r : LxmfRouter σ) (nowMs : Nat) :
    (r.pollPeerSyncTimeouts nowMs).stamps = r.stamps := rfl

theorem schedulePeerSync_stamps (r : LxmfRouter σ) (nowMs : Nat)
    (rng : OsRng) :
    (r.schedulePeerSync P nowMs rng).stamps = r.stamps := by
  unfold schedulePeerSync
  split
  case h_1 => rfl
  case h_2 => rfl

theorem removeEntry_stamps (r : LxmfRouter σ) (id : Hash32) :
    (r.removeEntry id).stamps = r.stamps := by
  obtain ⟨_, h⟩ := removeEntry_eq r id
  rw [h]
  rfl

theorem cleanPropagationStore_stamps (r : LxmfRouter σ) (nowMs : Nat) :
    (r.cleanPropagationStore nowMs).2.stamps = r.stamps := by
  obtain ⟨ids, hids, _⟩ := cleanPropagationStore_drops r nowMs
  rw [hids]
  exact foldl_stamps removeEntry_stamps ids r

theorem unpeer_stamps (r : LxmfRouter σ) (peerId : Hash16) :
    (r.unpeer peerId).2.stamps = r.stamps := by
  obtain ⟨_, _, h⟩ := unpeer_eq r peerId
  rw [h]
  rfl

theorem rotatePeers_stamps (r : LxmfRouter σ) :
    r.rotatePeers.stamps = r.stamps := by
  rcases r.rotatePeers_eq with heq | ⟨maxPeers, -, -, heq⟩
  · rw [heq]
  · rw [heq]
    exact foldl_stamps unpeer_stamps _ r

theorem flushPeer_stamps (r : LxmfRouter σ) (peerId : Hash16) :
    (r.flushPeer peerId).stamps = r.stamps := by
  rcases r.flushPeer_cases peerId with ⟨heq, -⟩ | ⟨peer, -, heq⟩
  · rw [heq]
  · rw [heq]
    rfl

theorem flushQueues_stamps (r : LxmfRouter σ) :
    r.flushQueues.stamps = r.stamps := by
  unfold flushQueues
  split
  case isTrue => rfl
  case isFalse => exact foldl_stamps flushPeer_stamps _ _

theorem handleRequestTimeouts_stamps (r : LxmfRouter σ)
    (timeouts : List Hash16) (nowMs : Nat) :
    (r.handleRequestTimeouts timeouts nowMs).stamps = r.stamps := by
  refine foldl_stamps ?_ timeouts r
  intro r id
  split
  case h_1 => rfl
  case h_2 => rfl

/-- No job before the stamps touches the stamp queues. -/
theorem tickJobs_stamps (r : LxmfRouter σ) (tick : RuntimeTick)
    (nowMs : Nat) (rng : OsRng) :
    (r.tickJobs P tick nowMs rng).stamps = r.stamps := by
  have hpn (r : LxmfRouter σ) :
      (((r.cleanTransientIdCaches P nowMs).2.pollPeerSyncTimeouts
        nowMs).schedulePeerSync P nowMs rng).stamps = r.stamps := by
    rw [schedulePeerSync_stamps, pollPeerSyncTimeouts_stamps,
      cleanTransientIdCaches_stamps]
  unfold tickJobs
  dsimp only
  rw [ite_stamps tick.peeringestRan (flushQueues_stamps _),
    ite_stamps tick.rotateRan (rotatePeers_stamps _),
    ite_stamps tick.storeRan (cleanPropagationStore_stamps _ nowMs),
    ite_stamps tick.pnRan (hpn _),
    ite_stamps tick.linksRan (cleanLinks_stamps r nowMs)]

theorem prepareOutbound_stamps (r : LxmfRouter σ) (message : LXMessage)
    (nowMs : Nat) (rng : OsRng) :
    (r.prepareOutbound P message nowMs rng).2.stamps = r.stamps := by
  unfold prepareOutbound includeTicket
  dsimp only
  split
  case isTrue =>
    split
    case h_1 => rfl
    case h_2 => rfl
  case isFalse => rfl

theorem tickEnd_spec (r : LxmfRouter σ) (tick : RuntimeTick)
    (nowMs : Nat) (free : Bool) :
    (r.tickEnd tick nowMs free).2.stamps
      = { r.stamps with
          active := r.stampProcessingActive || r.spawns tick free } := by
  unfold tickEnd
  dsimp only
  refine (handleRequestTimeouts_stamps ..).trans ?_
  cases r.spawns tick free with
  | true =>
      rw [Bool.or_true]
      rfl
  | false =>
      rw [Bool.or_false]
      rfl

-- ================================================ handing items on

variable [MessageStore σ]

/-- `process_deferred_stamps` hands on the front of the own queue. -/
theorem processDeferred_spec (n : Nat) (r : LxmfRouter σ) :
    (processDeferred n r).1 = (r.deferredOutbound.take n).map undefer
      ∧ (processDeferred n r).2.stamps
        = { r.stamps with own := r.deferredOutbound.drop n } := by
  induction n generalizing r with
  | zero => exact ⟨rfl, rfl⟩
  | succ n ih =>
      unfold processDeferred
      split
      case h_1 hown =>
        unfold stamps
        rw [hown]
        exact ⟨rfl, rfl⟩
      case h_2 item rest hown =>
        obtain ⟨hitems, hstamps⟩ := ih
          ({ r with deferredOutbound := rest }.enqueueItem item.undefer)
        rw [hown]
        exact ⟨congrArg (item.undefer :: ·) hitems, hstamps⟩

/-- The receive loop hands on the front of the channel and drops as many
items from the own queue. -/
theorem receiveProcessed_spec (n : Nat) (r : LxmfRouter σ)
    (channel : List DeferredOutbound)
    (hchannel : r.processedDeferred = some channel) :
    (receiveProcessed n r).1 = channel.take n
      ∧ (receiveProcessed n r).2.stamps
        = { r.stamps with
            own := r.deferredOutbound.drop (channel.take n).length
            channel := some (channel.drop n) } := by
  induction n generalizing r channel with
  | zero =>
      refine ⟨rfl, ?_⟩
      show r.stamps = { r.stamps with channel := some channel }
      rw [← hchannel]
      rfl
  | succ n ih =>
      unfold receiveProcessed
      rw [hchannel]
      cases channel with
      | nil =>
          refine ⟨rfl, ?_⟩
          show r.stamps = { r.stamps with channel := some [] }
          rw [← hchannel]
          rfl
      | cons item channel =>
          let r' := LxmfRouter.enqueueItem
            { r with processedDeferred := some channel } item
          obtain ⟨hitems, hstamps⟩ := ih
            { r' with deferredOutbound := r'.deferredOutbound.tail }
            channel rfl
          refine ⟨congrArg (item :: ·) hitems, hstamps.trans ?_⟩
          rw [List.drop_tail]
          rfl

/-- A message is queued at once, or deferred. -/
theorem handleOutbound_cases (r : LxmfRouter σ) (message : LXMessage)
    (mode : DeliveryMode) (nowMs : Nat) (rng : OsRng) (free : Bool) :
    (∃ id r', r.handleOutbound P message mode nowMs rng free = (some id, r')
      ∧ r'.stamps = r.stamps)
    ∨ ∃ r', r.handleOutbound P message mode nowMs rng free = (none, r')
      ∧ r'.stamps = (r.defer
          ⟨(r.prepareOutbound P message nowMs rng).1, mode⟩ free).stamps := by
  have hstamps := prepareOutbound_stamps (P := P) r message nowMs rng
  unfold handleOutbound
  generalize r.prepareOutbound P message nowMs rng = prepared at hstamps ⊢
  obtain ⟨message, r'⟩ := prepared
  dsimp only at hstamps ⊢
  split
  case isTrue =>
    refine .inr ⟨_, rfl, ?_⟩
    injection hstamps with hown hshared hactive hchannel
    unfold defer stamps
    rw [hown, hshared, hactive, hchannel]
  case isFalse => exact .inl ⟨_, _, rfl, hstamps⟩

/-- The stamp job is due at every tick. -/
theorem tick_stampsRan (rt : LxmfRuntime σ) (nowMs : Nat)
    (deliver : Nat → Deliver) :
    (rt.tick nowMs deliver).1.stampsRan = true := by
  show decide (_ % 1 = 0) = true
  rw [Nat.mod_one]
  rfl

theorem tickBegin_spec (r : LxmfRouter σ) (nowMs : Nat)
    (deliver : Nat → Deliver) (rng : OsRng) :
    (r.tickBegin P nowMs deliver rng).2.1
        = (r.processedDeferred.getD []).take 100
      ∧ (r.tickBegin P nowMs deliver rng).2.2.stamps
        = { r.stamps with
            own := r.deferredOutbound.drop
              ((r.processedDeferred.getD []).take 100).length
            channel := some ((r.processedDeferred.getD []).drop 100) } := by
  have hran := tick_stampsRan r.runtime nowMs deliver
  have hjobs := tickJobs_stamps (P := P)
    { r with runtime := (r.runtime.tick nowMs deliver).2 }
    (r.runtime.tick nowMs deliver).1 nowMs rng
  unfold tickBegin
  dsimp only
  rw [if_pos hran]
  generalize tickJobs P _ _ nowMs rng = r' at hjobs ⊢
  injection hjobs with hown hshared hactive hchannel
  obtain ⟨hitems, hstamps⟩ := receiveProcessed_spec 100 r'.openChannel
    (r'.processedDeferred.getD []) rfl
  rw [hchannel] at hitems hstamps
  refine ⟨hitems, hstamps.trans ?_⟩
  unfold openChannel stamps
  rw [hown, hshared, hactive]

end Queues

end LxmfRouter

-- ============================================================ one step

namespace DeferredRun

section Steps

variable {σ : Type} [MessageStore σ] {P : Platform}

/-- What one action does to the stamp queues and the two records. -/
inductive StampStep (s : DeferredRun σ) :
    DeferredAction → DeferredRun σ → Prop where
  | queued {message mode nowMs rng free} (r : LxmfRouter σ) :
      r.stamps = s.router.stamps →
      StampStep s (.handleOutbound message mode nowMs rng free)
        { s with router := r }
  | deferred {message mode nowMs rng free} (item : DeferredOutbound)
      (r : LxmfRouter σ) : r.stamps = (s.router.defer item free).stamps →
      StampStep s (.handleOutbound message mode nowMs rng free)
        { s with router := r, deferred := s.deferred ++ [item] }
  | processed {nowMs maxItems} (r : LxmfRouter σ) :
      r.stamps = { s.router.stamps with
        own := s.router.deferredOutbound.drop maxItems } →
      StampStep s (.processDeferredStamps nowMs maxItems)
        { s with
          router := r
          handed := s.handed
            ++ (s.router.deferredOutbound.take maxItems).map undefer }
  | begun {nowMs deliver rng} (tick : RuntimeTick) (r : LxmfRouter σ) :
      r.stamps = { s.router.stamps with
        own := s.router.deferredOutbound.drop (s.channel.take 100).length
        channel := some (s.channel.drop 100) } →
      StampStep s (.tickBegin nowMs deliver rng)
        { s with
          router := r
          midTick := some tick
          handed := s.handed ++ s.channel.take 100 }
  | ended {nowMs free} (tick : RuntimeTick) (r : LxmfRouter σ) :
      s.midTick = some tick →
      r.stamps = { s.router.stamps with
        active := s.router.stampProcessingActive
          || s.router.spawns tick free } →
      StampStep s (.tickEnd nowMs free)
        { s with
          router := r
          midTick := none
          thread := if s.router.spawns tick free then some .spawned
            else s.thread }
  | popped (item : DeferredOutbound) (rest : List DeferredOutbound) :
      s.thread = some .spawned →
      s.router.deferredOutboundShared = item :: rest →
      StampStep s (.stepThread true)
        { s with
          router := { s.router with deferredOutboundShared := rest }
          thread := some (.popped item.undefer) }
  | gaveUp {free} : s.thread = some .spawned →
      StampStep s (.stepThread free) { s with thread := some .finishing }
  | sent {free} (item : DeferredOutbound) :
      s.thread = some (.popped item) →
      StampStep s (.stepThread free)
        { s with
          router := { s.router with
            processedDeferred := s.router.processedDeferred.map
              fun channel => channel ++ [item] }
          thread := some .finishing }
  | finished {free} : s.thread = some .finishing →
      StampStep s (.stepThread free)
        { s with
          router := { s.router with stampProcessingActive := false }
          thread := none }

theorem stepThread_stampStep {s s' : DeferredRun σ} {free : Bool}
    (happly : apply P (.stepThread free) s = some s') :
    StampStep s (.stepThread free) s' := by
  simp only [apply] at happly
  split at happly
  case h_1 => cases happly
  case h_2 thread hthread =>
    cases happly
    cases thread with
    | spawned =>
        dsimp only [stepThread]
        split
        case h_1 item rest hshared => exact .popped item rest hthread hshared
        case h_2 => exact .gaveUp hthread
    | popped item => exact .sent item hthread
    | finishing => exact .finished hthread

theorem apply_stampStep {s s' : DeferredRun σ} {a : DeferredAction}
    (happly : apply P a s = some s') : StampStep s a s' := by
  cases a with
  | handleOutbound message mode nowMs rng free =>
      simp only [apply] at happly
      split at happly
      case isTrue => cases happly
      case isFalse =>
        obtain ⟨id, r', hr, hstamps⟩ | ⟨r', hr, hstamps⟩ :=
          handleOutbound_cases (P := P) s.router message mode nowMs rng free
        · rw [hr] at happly
          cases happly
          exact .queued r' hstamps
        · rw [hr] at happly
          cases happly
          exact .deferred _ r' hstamps
  | processDeferredStamps nowMs maxItems =>
      simp only [apply] at happly
      split at happly
      case isTrue => cases happly
      case isFalse =>
        cases happly
        obtain ⟨hitems, hstamps⟩ := processDeferred_spec maxItems s.router
        rw [hitems]
        exact .processed _ hstamps
  | tickBegin nowMs deliver rng =>
      simp only [apply] at happly
      split at happly
      case isTrue => cases happly
      case isFalse =>
        cases happly
        obtain ⟨hitems, hstamps⟩ :=
          tickBegin_spec (P := P) s.router nowMs deliver rng
        rw [hitems]
        exact .begun _ _ hstamps
  | tickEnd nowMs free =>
      simp only [apply] at happly
      split at happly
      case h_1 => cases happly
      case h_2 tick htick =>
        cases happly
        exact .ended tick _ htick (tickEnd_spec s.router tick nowMs free)
  | stepThread free => exact stepThread_stampStep happly

end Steps

-- ============================================================ the order

section Order

variable {σ : Type}

/-- Items taken off the front stay in order. -/
theorem Ordered.take {s : DeferredRun σ} (h : s.Ordered)
    {items : List DeferredOutbound} {r : LxmfRouter σ}
    (hfront : items <+: s.router.deferredOutbound.map undefer)
    (hown : r.deferredOutbound
      = s.router.deferredOutbound.drop items.length) :
    s.deferred.map undefer
      = (s.handed ++ items) ++ r.deferredOutbound.map undefer := by
  obtain ⟨rest, hrest⟩ := hfront
  have hdrop : r.deferredOutbound.map undefer = rest := by
    rw [hown, List.map_drop, ← hrest, List.drop_left]
  rw [h, hdrop, List.append_assoc, hrest]

theorem Ordered.keep {s : DeferredRun σ} (h : s.Ordered)
    {r : LxmfRouter σ}
    (hown : r.deferredOutbound = s.router.deferredOutbound) :
    s.deferred.map undefer
      = s.handed ++ r.deferredOutbound.map undefer := by
  rw [hown]
  exact h

theorem Ordered.step {s s' : DeferredRun σ} {a : DeferredAction}
    (h : s.Ordered) (hok : s.TakesFront a) (hstep : StampStep s a s') :
    s'.Ordered := by
  cases hstep with
  | queued r hstamps => exact h.keep (congrArg StampQueues.own hstamps)
  | deferred item r hstamps =>
      have hown : r.deferredOutbound
          = s.router.deferredOutbound ++ [item] :=
        congrArg StampQueues.own hstamps
      show (s.deferred ++ [item]).map undefer
        = s.handed ++ r.deferredOutbound.map undefer
      rw [hown, List.map_append, List.map_append, h, List.append_assoc]
  | @processed _ maxItems r hstamps =>
      refine h.take ?_ ?_
      · rw [List.map_take]
        exact List.take_prefix _ _
      · rw [List.length_map, List.length_take, ← List.drop_eq_drop_min]
        exact congrArg StampQueues.own hstamps
  | begun tick r hstamps =>
      exact h.take hok (congrArg StampQueues.own hstamps)
  | ended tick r _ hstamps =>
      exact h.keep (congrArg StampQueues.own hstamps)
  | popped item rest => exact h
  | gaveUp => exact h
  | sent item => exact h
  | finished => exact h

variable [MessageStore σ] {P : Platform}

theorem ordered_of_reaches {r : LxmfRouter σ} {s : DeferredRun σ}
    (h : Reaches (apply P) TakesFront (.start r) s) : s.Ordered := by
  refine h.invariant rfl ?_
  intro s a s' hs hok happly
  exact hs.step hok (apply_stampStep happly)

/-- In a run whose ticks take what waits at the front, every deferred
message is handed on at most once and `deferred_len` counts the rest. -/
theorem deferred_handed_once (r : LxmfRouter σ) (s : DeferredRun σ)
    (hrun : Reaches (apply P) TakesFront (.start r) s) : s.HandedOnce :=
  (ordered_of_reaches hrun).handedOnce

end Order

-- ========================================================= ticks alone

section Ticks

variable {σ : Type}

/-- The item the stamp thread is about to send. -/
def popped (s : DeferredRun σ) : List DeferredOutbound :=
  match s.thread with
  | some (.popped item) => [item]
  | _ => []

/-- The messages go through the stamp thread alone: every deferred one
gets into the shared queue, and `process_deferred_stamps` is not called
while one waits. -/
def ThroughThread (s : DeferredRun σ) : DeferredAction → Prop
  | .handleOutbound _ _ _ _ free => free = true
  | .processDeferredStamps _ _ => s.router.deferredOutbound = []
  | _ => True

/-- The own queue is what the thread has sent, holds and has yet to
take, in order. -/
structure Pipelined (s : DeferredRun σ) : Prop where
  line : s.router.deferredOutbound.map undefer
    = s.channel ++ (s.popped
      ++ s.router.deferredOutboundShared.map undefer)
  opened : s.thread.isSome ∨ s.midTick.isSome →
    s.router.processedDeferred.isSome
  active : s.thread.isSome → s.router.stampProcessingActive = true

theorem Pipelined.takesFront {s : DeferredRun σ} (h : s.Pipelined)
    (a : DeferredAction) : s.TakesFront a := by
  cases a with
  | tickBegin nowMs deliver rng =>
      show s.channel.take 100 <+: _
      rw [h.line]
      exact (List.take_prefix _ _).trans (List.prefix_append _ _)
  | handleOutbound => trivial
  | processDeferredStamps => trivial
  | tickEnd => trivial
  | stepThread => trivial

/-- A step that leaves the queues, the thread and the tick alone. -/
theorem Pipelined.keep {s : DeferredRun σ} (h : s.Pipelined)
    {r : LxmfRouter σ} (hstamps : r.stamps = s.router.stamps)
    (deferred handed : List DeferredOutbound) :
    Pipelined ⟨r, s.midTick, s.thread, deferred, handed⟩ := by
  injection hstamps with hown hshared hactive hchannel
  refine ⟨?_, ?_, ?_⟩
  · have hline := h.line
    unfold channel at hline ⊢
    rw [hown, hshared, hchannel]
    exact hline
  · intro hsome
    rw [hchannel]
    exact h.opened hsome
  · intro hsome
    rw [hactive]
    exact h.active hsome

/-- While a thread lives the channel is open and the flag is set. -/
theorem Pipelined.of_thread {s : DeferredRun σ} (h : s.Pipelined)
    {thread : StampThread} (hthread : s.thread = some thread) :
    s.router.processedDeferred.isSome
      ∧ s.router.stampProcessingActive = true := by
  have hsome : s.thread.isSome := by
    rw [hthread]
    rfl
  exact ⟨h.opened (.inl hsome), h.active hsome⟩

/-- A spawn needs the flag clear, and a live thread holds it set. -/
theorem Pipelined.spawn_fresh {s : DeferredRun σ} (h : s.Pipelined)
    {tick : RuntimeTick} {free : Bool}
    (hspawn : s.router.spawns tick free = true) : s.thread = none := by
  cases hthread : s.thread with
  | none => rfl
  | some thread =>
      unfold spawns at hspawn
      rw [(h.of_thread hthread).2] at hspawn
      simp at hspawn

theorem Pipelined.ended {s : DeferredRun σ} (h : s.Pipelined)
    {tick : RuntimeTick} {free : Bool} {r : LxmfRouter σ}
    (htick : s.midTick = some tick)
    (hstamps : r.stamps = { s.router.stamps with
      active := s.router.stampProcessingActive
        || s.router.spawns tick free }) :
    Pipelined { s with
      router := r
      midTick := none
      thread := if s.router.spawns tick free then some .spawned
        else s.thread } := by
  injection hstamps with hown hshared hactive hchannel
  have hopened := h.opened (.inr (by rw [htick]; rfl))
  refine ⟨?_, ?_, ?_⟩
  · have hline := h.line
    have hpopped : popped { s with
        router := r
        midTick := none
        thread := if s.router.spawns tick free then some .spawned
          else s.thread } = s.popped := by
      unfold popped
      dsimp only
      by_cases hspawn : s.router.spawns tick free = true
      · rw [if_pos hspawn, h.spawn_fresh hspawn]
      · rw [if_neg hspawn]
    unfold channel at hline ⊢
    rw [hpopped, hown, hshared, hchannel]
    exact hline
  · intro _
    rw [hchannel]
    exact hopened
  · intro hsome
    rw [hactive]
    split at hsome
    case isTrue hspawn => rw [hspawn, Bool.or_true]
    case isFalse => rw [h.active hsome, Bool.true_or]

theorem Pipelined.begun {s : DeferredRun σ} (h : s.Pipelined)
    {tick : RuntimeTick} {r : LxmfRouter σ}
    (hstamps : r.stamps = { s.router.stamps with
      own := s.router.deferredOutbound.drop (s.channel.take 100).length
      channel := some (s.channel.drop 100) })
    (handed : List DeferredOutbound) :
    Pipelined { s with
      router := r
      midTick := some tick
      handed := handed } := by
  injection hstamps with hown hshared hactive hchannel
  refine ⟨?_, ?_, ?_⟩
  · have hline := h.line
    rw [← List.take_append_drop 100 s.channel, List.append_assoc] at hline
    show r.deferredOutbound.map undefer = r.processedDeferred.getD []
      ++ (s.popped ++ r.deferredOutboundShared.map undefer)
    rw [hown, hshared, hchannel, List.map_drop, hline, List.drop_left]
    rfl
  · intro _
    rw [hchannel]
    rfl
  · intro hsome
    rw [hactive]
    exact h.active hsome

theorem Pipelined.step {s s' : DeferredRun σ} {a : DeferredAction}
    (h : s.Pipelined) (hok : s.ThroughThread a) (hstep : StampStep s a s') :
    s'.Pipelined := by
  have hline := h.line
  cases hstep with
  | queued r hstamps => exact h.keep hstamps s.deferred s.handed
  | @deferred _ _ _ _ free item r hstamps =>
      rw [show free = true from hok] at hstamps
      injection hstamps with hown hshared hactive hchannel
      refine ⟨?_, ?_, ?_⟩
      · show r.deferredOutbound.map undefer = r.processedDeferred.getD []
          ++ (s.popped ++ r.deferredOutboundShared.map undefer)
        rw [hown, hshared, hchannel]
        show (s.router.deferredOutbound ++ [item]).map undefer
          = s.channel ++ (s.popped
            ++ (s.router.deferredOutboundShared ++ [item]).map undefer)
        rw [List.map_append, List.map_append, hline, List.append_assoc,
          List.append_assoc]
      · intro hsome
        rw [hchannel]
        exact h.opened hsome
      · intro hsome
        rw [hactive]
        exact h.active hsome
  | processed r hstamps =>
      refine h.keep ?_ s.deferred _
      rw [hstamps, show s.router.deferredOutbound = [] from hok,
        List.drop_nil, ← show s.router.deferredOutbound = [] from hok]
      rfl
  | begun tick r hstamps => exact h.begun hstamps _
  | ended tick r htick hstamps => exact h.ended htick hstamps
  | popped item rest hthread hshared =>
      obtain ⟨hopened, hactive⟩ := h.of_thread hthread
      refine ⟨?_, fun _ => hopened, fun _ => hactive⟩
      unfold popped at hline
      rw [hthread, hshared] at hline
      exact hline
  | gaveUp hthread =>
      obtain ⟨hopened, hactive⟩ := h.of_thread hthread
      refine ⟨?_, fun _ => hopened, fun _ => hactive⟩
      unfold popped at hline
      rw [hthread] at hline
      exact hline
  | sent item hthread =>
      obtain ⟨hopened, hactive⟩ := h.of_thread hthread
      obtain ⟨sent, hsent⟩ := Option.isSome_iff_exists.mp hopened
      refine ⟨?_, ?_, fun _ => hactive⟩
      · unfold popped channel at hline
        rw [hthread, hsent] at hline
        unfold channel
        dsimp only
        rw [hline, hsent]
        exact (List.append_assoc sent [item] _).symm
      · intro _
        rw [Option.isSome_map]
        exact hopened
  | finished hthread =>
      refine ⟨?_, ?_, ?_⟩
      · unfold popped at hline
        rw [hthread] at hline
        exact hline
      · exact fun _ => (h.of_thread hthread).1
      · intro hsome
        cases hsome

variable [MessageStore σ] {P : Platform}

/-- Messages that go through the thread alone are taken from the front. -/
theorem reaches_takesFront {r : LxmfRouter σ} {s : DeferredRun σ}
    (hown : r.deferredOutbound = [])
    (hshared : r.deferredOutboundShared = [])
    (hchannel : r.processedDeferred.getD [] = [])
    (h : Reaches (apply P) ThroughThread (.start r) s) :
    Reaches (apply P) TakesFront (.start r) s := by
  have hstart : Pipelined (.start r) := by
    refine ⟨?_, ?_, ?_⟩
    · unfold channel popped start
      rw [hown, hshared, hchannel]
      rfl
    · intro hsome
      rcases hsome with hsome | hsome
      · cases hsome
      · cases hsome
    · intro hsome
      cases hsome
  refine h.weaken hstart ?_ (fun s a hs _ => hs.takesFront a)
  intro s a s' hs hok happly
  exact hs.step hok (apply_stampStep happly)

end Ticks

end DeferredRun

section DeferredInstance

open Reference

/-- The documentation example's message, its stamp deferred. -/
def deferredMessage : LXMessage :=
  { docMessage with deferStamp := true, stampCost := some 8 }

/-- A tick of the documentation example's router. -/
noncomputable def docTick (nowMs : Nat) : DeferredAction :=
  .tickBegin nowMs (fun _ => deliverOn docOutbound) (fun _ => 0)

/-- A message deferred, taken by the stamp thread and sent back to the
tick. Every lock is free. -/
noncomputable def threadActions : List DeferredAction :=
  [.handleOutbound deferredMessage .direct 0 (fun _ => 0) true,
   docTick 1000, .tickEnd 1000 true,
   .stepThread true, .stepThread true, .stepThread true]

/-- The next tick hands the message on. -/
theorem deferred_handed_once_doc :
    ∃ s, run (DeferredRun.apply platform)
        (threadActions ++ [docTick 1100]) (.start docNode) = some s
      ∧ s.deferred.length = 1 ∧ s.handed.length = 1 ∧ s.HandedOnce := by
  have hlengths : (run (DeferredRun.apply platform)
      (threadActions ++ [docTick 1100]) (.start docNode)).map
        (fun s => (s.deferred.length, s.handed.length)) = some (1, 1) := by
    decide +kernel
  obtain ⟨s, hs, hlengths⟩ := Option.map_eq_some_iff.mp hlengths
  injection hlengths with hdeferred hhanded
  refine ⟨s, hs, hdeferred, hhanded, ?_⟩
  refine DeferredRun.deferred_handed_once (P := platform) docNode s ?_
  refine DeferredRun.reaches_takesFront rfl rfl rfl (reaches_of_run ?_ hs)
  intro a ha s
  simp only [threadActions, docTick, List.cons_append, List.nil_append,
    List.mem_cons, List.not_mem_nil, or_false] at ha
  rcases ha with rfl | rfl | rfl | rfl | rfl | rfl | rfl
  · rfl
  all_goals trivial

/-- `process_deferred_stamps` runs before that tick: both hand the
message on. -/
theorem deferred_handed_twice :
    ∃ s item, run (DeferredRun.apply platform)
        (threadActions ++ [.processDeferredStamps 1050 1, docTick 1100])
        (.start docNode) = some s
      ∧ (s.deferred.map undefer).count item = 1
      ∧ s.handed.count item = 2 := by
  have hcounts : (run (DeferredRun.apply platform)
      (threadActions ++ [.processDeferredStamps 1050 1, docTick 1100])
      (.start docNode)).map
        (fun s => ((s.deferred.map undefer).count
            (undefer ⟨deferredMessage, .direct⟩),
          s.handed.count (undefer ⟨deferredMessage, .direct⟩)))
        = some (1, 2) := by
    decide +kernel
  obtain ⟨s, hs, hcounts⟩ := Option.map_eq_some_iff.mp hcounts
  injection hcounts with hdeferred hhanded
  exact ⟨s, _, hs, hdeferred, hhanded⟩

end DeferredInstance

end Lxmf
