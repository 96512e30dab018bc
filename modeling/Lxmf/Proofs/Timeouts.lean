/-
How often a peer-sync request without an answer counts as a failure.

# Two watches

The request is in the pending map of the runtime, whose poll reports it
when its time is up. The peer it went to is in a state that a second
poll looks at, in the peer-sync job. Each of the two reports a failure
of the peer, and neither tells the other.

# What is counted

The score of a peer is its failures and its backoff. A tick changes it
in three places: the job polls the peer late, rotation drops its record,
and a request to it times out (`tick_score`). So where rotation forgets
nothing, the request counts once exactly when the job did not poll the
peer late on the way.
-/
import Lxmf.Library.Run
import Lxmf.Proofs.Distribution
import Lxmf.Proofs.Requests

namespace Lxmf

-- ============================================================= the score

/-- What failures leave in the record of a peer. -/
structure Score where
  failures : Nat
  backoffMs : Nat
deriving DecidableEq

namespace Score

/-- No failure yet. -/
def zero : Score := ⟨0, 0⟩

/-- One failure more, and one step of the backoff. -/
def fail (s : Score) : Score where
  failures := satAdd32 s.failures 1
  backoffMs := min
    (if s.backoffMs = 0 then peerBackoffStepMs
      else satAdd64 s.backoffMs peerBackoffStepMs) peerBackoffMaxMs

/-- One failure if something holds. -/
def failIf (b : Bool) (s : Score) : Score := if b then s.fail else s

theorem iterate_fail_failures (n : Nat) (s : Score)
    (h : s.failures ≤ u32Max) :
    (fail^[n] s).failures = min (s.failures + n) u32Max := by
  induction n generalizing s with
  | zero => exact (Nat.min_eq_left h).symm
  | succ n ih =>
      have hfail : s.fail.failures = min (s.failures + 1) u32Max := rfl
      rw [Function.iterate_succ_apply, ih s.fail (by rw [hfail]; omega),
        hfail]
      omega

/-- Two failures or more are not one, short of the largest count. -/
theorem iterate_fail_once {n : Nat} {s : Score}
    (hroom : s.failures + 2 ≤ u32Max)
    (h : (fail^[n + 1] s).failures = s.failures + 1) : n = 0 := by
  rw [iterate_fail_failures _ s (by omega)] at h
  omega

theorem failIf_eq_iterate (b : Bool) (s : Score) :
    s.failIf b = fail^[b.toNat] s := by
  cases b with
  | false => rfl
  | true => rfl

end Score

def Peer.score (peer : Peer) : Score := ⟨peer.failures, peer.backoffMs⟩

@[simp] theorem Peer.score_onTimeout (peer : Peer) (nowMs : Nat) :
    (peer.onTimeout nowMs).score = peer.score.fail := rfl

namespace PeerTable

/-- A peer without a record has not failed. -/
def score (t : PeerTable) (p : Hash16) : Score :=
  ((t.lookup p).map Peer.score).getD .zero

variable {t : PeerTable} {p id : Hash16} {nowMs : Nat} {f : Peer → Peer}

theorem score_upsert_of_ne (h : p ≠ id) :
    (t.upsert id nowMs f).score p = t.score p := by
  unfold score
  rw [lookup_upsert_of_ne h]

/-- A change of the record that is one of the score. -/
theorem score_upsert_self {g : Score → Score}
    (hf : ∀ peer : Peer, (f peer).score = g peer.score) :
    (t.upsert p nowMs f).score p = g (t.score p) := by
  unfold score
  rw [lookup_upsert_self]
  refine (hf _).trans (congrArg g ?_)
  cases t.lookup p with
  | none => rfl
  | some peer => rfl

theorem score_upsert (hf : ∀ peer : Peer, (f peer).score = peer.score) :
    (t.upsert id nowMs f).score p = t.score p := by
  by_cases h : p = id
  · subst h
    exact score_upsert_self (g := fun s => s) hf
  · exact score_upsert_of_ne h

theorem score_map {f : Peer → Peer} {g : Score → Score}
    (hg : g .zero = .zero)
    (hf : ∀ peer : Peer, (f peer).score = g peer.score)
    {t t' : PeerTable} (h : t'.lookup p = (t.lookup p).map f) :
    t'.score p = g (t.score p) := by
  unfold score
  rw [h]
  cases t.lookup p with
  | none => exact hg.symm
  | some peer => exact hf peer

/-- The peer has kept an offer or a payload waiting for too long. -/
def late (t : PeerTable) (p : Hash16) (nowMs : Nat) : Bool :=
  (t.lookup p).any fun peer =>
    decide ((peer.state = .offerSent ∨ peer.state = .awaitingPayload)
      ∧ peerSyncTimeoutMs ≤ nowMs - peer.lastAttemptMs)

end PeerTable

-- ============================================================== the jobs

namespace LxmfRouter

section Jobs

variable {σ : Type} {P : Platform} {p : Hash16}

theorem pollPeerSyncTimeouts_score (r : LxmfRouter σ) (nowMs : Nat) :
    (r.pollPeerSyncTimeouts nowMs).peers.score p
      = (r.peers.score p).failIf (r.peers.late p nowMs) := by
  have hlookup := PeerTable.lookup_modify_keys (fun _ peer =>
    if (peer.state = .offerSent ∨ peer.state = .awaitingPayload)
        ∧ peerSyncTimeoutMs ≤ nowMs - peer.lastAttemptMs then
      peer.onTimeout nowMs
    else peer) r.peers p
  unfold PeerTable.score PeerTable.late
  show (((r.pollPeerSyncTimeouts nowMs).peers.lookup p).map
    Peer.score).getD .zero = _
  unfold pollPeerSyncTimeouts
  rw [hlookup]
  cases r.peers.lookup p with
  | none => rfl
  | some peer =>
      by_cases hlate : (peer.state = .offerSent
          ∨ peer.state = .awaitingPayload)
          ∧ peerSyncTimeoutMs ≤ nowMs - peer.lastAttemptMs
      · simp [hlate, Score.failIf]
      · simp [hlate, Score.failIf]

theorem cleanLinks_peers (r : LxmfRouter σ) (nowMs : Nat) :
    (r.cleanLinks nowMs).peers = r.peers := by
  obtain ⟨tracker, h | ⟨failure, h⟩⟩ := r.cleanLinks_cases nowMs
  · rw [h]
  · rw [h]
    rfl

theorem cleanTransientIdCaches_peers (r : LxmfRouter σ) (nowMs : Nat) :
    (r.cleanTransientIdCaches P nowMs).2.peers = r.peers := by
  unfold cleanTransientIdCaches
  dsimp only
  split
  case isTrue => rfl
  case isFalse => rfl

theorem schedulePeerSync_score (r : LxmfRouter σ) (nowMs : Nat)
    (rng : OsRng) :
    (r.schedulePeerSync P nowMs rng).peers.score p = r.peers.score p := by
  unfold schedulePeerSync
  split
  case h_1 => rfl
  case h_2 => exact PeerTable.score_upsert fun peer => rfl

theorem flushQueues_score (r : LxmfRouter σ) :
    r.flushQueues.peers.score p = r.peers.score p := by
  by_cases hempty : r.peers = ∅
  · rw [flushQueues_empty hempty]
  · exact PeerTable.score_map (g := fun s => s) (f := Peer.drained) rfl
      (fun _ => rfl) (flushQueues_lookup hempty p)

/-- Rotation drops a record or leaves it alone. -/
theorem rotatePeers_lookup (r : LxmfRouter σ) (p : Hash16) :
    r.rotatePeers.peers.lookup p = r.peers.lookup p
      ∨ r.rotatePeers.peers.lookup p = none := by
  rcases r.rotatePeers_eq with heq | ⟨maxPeers, -, -, heq⟩
  · rw [heq]
    exact .inl rfl
  · rw [heq, foldl_unpeer_lookup]
    by_cases hp : p ∈ r.lowRatePeers (r.requiredDrops maxPeers)
    · exact .inr (if_pos hp)
    · exact .inl (if_neg hp)

theorem handleRequestTimeouts_score_other (timeouts : List Hash16)
    (nowMs : Nat) (r : LxmfRouter σ)
    (h : ∀ id ∈ timeouts, ∀ pending,
      r.peerSyncPending.lookup id = some pending → pending.peerId ≠ p) :
    (r.handleRequestTimeouts timeouts nowMs).peers.score p
      = r.peers.score p := by
  unfold handleRequestTimeouts
  induction timeouts generalizing r with
  | nil => rfl
  | cons id timeouts ih =>
      rw [List.foldl_cons]
      split
      case h_1 hnone =>
        exact ih r fun other hother =>
          h other (List.mem_cons_of_mem id hother)
      case h_2 pending hpending =>
        rw [ih]
        · exact PeerTable.score_upsert_of_ne
            (h id List.mem_cons_self pending hpending).symm
        · intro other hother pending' hpending'
          refine h other (List.mem_cons_of_mem id hother) pending' ?_
          exact (HashMap.lookup_of_lookup_erase hpending').2

/-- Only one request to the peer is awaited. -/
structure AwaitsOnly (r : LxmfRouter σ) (p id : Hash16) : Prop where
  awaited : ∃ request, r.peerSyncPending.lookup id = some ⟨p, request⟩
  only : ∀ other pending, r.peerSyncPending.lookup other = some pending →
    pending.peerId = p → other = id

/-- Without the entry of another request. -/
theorem AwaitsOnly.without {r r' : LxmfRouter σ} {id other : Hash16}
    (h : r.AwaitsOnly p id) (hother : id ≠ other)
    (heq : r'.peerSyncPending = r.peerSyncPending.erase other) :
    r'.AwaitsOnly p id := by
  refine ⟨?_, ?_⟩
  · rw [heq, AList.lookup_erase_ne hother]
    exact h.awaited
  · intro found pending hfound
    rw [heq] at hfound
    exact h.only found pending (HashMap.lookup_of_lookup_erase hfound).2

/-- The timeout of the request awaited counts, and no other one. -/
theorem handleRequestTimeouts_score (timeouts : List Hash16) (nowMs : Nat)
    {r : LxmfRouter σ} {id : Hash16} (h : r.AwaitsOnly p id) :
    (r.handleRequestTimeouts timeouts nowMs).peers.score p
      = (r.peers.score p).failIf (decide (id ∈ timeouts)) := by
  obtain ⟨request, hawaited⟩ := h.awaited
  induction timeouts generalizing r with
  | nil => rfl
  | cons other timeouts ih =>
      by_cases hother : id = other
      · subst hother
        have hrest := handleRequestTimeouts_score_other (p := p) timeouts
          nowMs { r with
            peerSyncPending := r.peerSyncPending.erase id
            peers := r.peers.upsert p nowMs (·.onTimeout nowMs) } (by
          intro found _ pending hfound hpeer
          obtain ⟨hne, hbefore⟩ := HashMap.lookup_of_lookup_erase hfound
          exact hne (h.only found pending hbefore hpeer))
        have hscore : (r.peers.upsert p nowMs (·.onTimeout nowMs)).score p
            = (r.peers.score p).fail :=
          PeerTable.score_upsert_self fun peer =>
            Peer.score_onTimeout peer nowMs
        rw [decide_eq_true List.mem_cons_self]
        unfold handleRequestTimeouts at hrest ⊢
        rw [List.foldl_cons, hawaited]
        exact hrest.trans hscore
      · have hmem : decide (id ∈ other :: timeouts)
            = decide (id ∈ timeouts) :=
          decide_eq_decide.mpr (List.mem_cons.trans (or_iff_right hother))
        rw [hmem]
        unfold handleRequestTimeouts at ih ⊢
        rw [List.foldl_cons]
        split
        case h_1 => exact ih h hawaited
        case h_2 pending hpending =>
          have hpeer : p ≠ pending.peerId := fun hp =>
            hother (h.only other pending hpending hp.symm).symm
          have hwithout : AwaitsOnly { r with
              peerSyncPending := r.peerSyncPending.erase other
              peers := r.peers.upsert pending.peerId nowMs
                (·.onTimeout nowMs) } p id := h.without hother rfl
          refine (ih hwithout ?_).trans ?_
          · exact (AList.lookup_erase_ne hother).trans hawaited
          · rw [PeerTable.score_upsert_of_ne hpeer]

end Jobs

-- ============================================================== the tick

section Ticks

variable {σ : Type} {P : Platform} {p : Hash16}

/-- The jobs of a tick before rotation. -/
def jobsBeforeRotation (P : Platform) (r : LxmfRouter σ)
    (tick : RuntimeTick) (nowMs : Nat) (rng : OsRng) : LxmfRouter σ :=
  r.tickJobs P { tick with rotateRan := false, peeringestRan := false }
    nowMs rng

/-- Rotation forgets failures of the peer, with the record of it. -/
def RotationForgets (r : LxmfRouter σ) (p : Hash16) : Prop :=
  p ∉ r.rotatePeers.peers ∧ r.peers.score p ≠ .zero

theorem rotatePeers_score {r : LxmfRouter σ} (h : ¬ r.RotationForgets p) :
    r.rotatePeers.peers.score p = r.peers.score p := by
  rcases rotatePeers_lookup r p with hsame | hnone
  · unfold PeerTable.score
    rw [hsame]
  · have hgone : r.rotatePeers.peers.score p = .zero := by
      unfold PeerTable.score
      rw [hnone]
      rfl
    rw [hgone]
    by_contra hfailed
    exact h ⟨AList.lookup_eq_none.mp hnone, Ne.symm hfailed⟩

theorem jobsBeforeRotation_score (r : LxmfRouter σ) (tick : RuntimeTick)
    (nowMs : Nat) (rng : OsRng) :
    (r.jobsBeforeRotation P tick nowMs rng).peers.score p
      = (r.peers.score p).failIf
          (tick.pnRan && r.peers.late p nowMs) := by
  have hlinks : (if tick.linksRan then r.cleanLinks nowMs else r).peers
      = r.peers := by
    split
    case isTrue => exact cleanLinks_peers r nowMs
    case isFalse => rfl
  unfold jobsBeforeRotation tickJobs
  dsimp only
  generalize (if tick.linksRan = true then r.cleanLinks nowMs else r)
    = linked at hlinks ⊢
  have hpn : (if tick.pnRan then
      (((linked.cleanTransientIdCaches P nowMs).2.pollPeerSyncTimeouts
        nowMs).schedulePeerSync P nowMs rng) else linked).peers.score p
      = (r.peers.score p).failIf (tick.pnRan && r.peers.late p nowMs) := by
    split
    case isTrue hran =>
      rw [schedulePeerSync_score, pollPeerSyncTimeouts_score,
        cleanTransientIdCaches_peers, hlinks, hran, Bool.true_and]
    case isFalse hran =>
      rw [hlinks, eq_false_of_ne_true hran, Bool.false_and]
      rfl
  generalize (if tick.pnRan = true then _ else linked) = polled at hpn ⊢
  rw [if_neg Bool.false_ne_true, if_neg Bool.false_ne_true, ← hpn]
  split
  case isTrue =>
    obtain ⟨store, root, heq⟩ := cleanPropagationStore_eq polled nowMs
    rw [heq]
  case isFalse => rfl

theorem tickJobs_score {r : LxmfRouter σ} {tick : RuntimeTick}
    {nowMs : Nat} {rng : OsRng}
    (h : tick.rotateRan = true →
      ¬ (r.jobsBeforeRotation P tick nowMs rng).RotationForgets p) :
    (r.tickJobs P tick nowMs rng).peers.score p
      = (r.peers.score p).failIf
          (tick.pnRan && r.peers.late p nowMs) := by
  rw [← jobsBeforeRotation_score (P := P) r tick nowMs rng]
  have hjobs : r.tickJobs P tick nowMs rng
      = (let r := r.jobsBeforeRotation P tick nowMs rng
         let r := if tick.rotateRan then r.rotatePeers else r
         if tick.peeringestRan then r.flushQueues else r) := rfl
  rw [hjobs]
  generalize r.jobsBeforeRotation P tick nowMs rng = before at h ⊢
  have hrotated :
      (if tick.rotateRan then before.rotatePeers else before).peers.score p
        = before.peers.score p := by
    split
    case isTrue hran => exact rotatePeers_score (h hran)
    case isFalse => rfl
  dsimp only
  split
  case isTrue => exact (flushQueues_score _).trans hrotated
  case isFalse => exact hrotated

variable [MessageStore σ]

theorem receiveProcessed_peers (left : Nat) (r : LxmfRouter σ) :
    (receiveProcessed left r).2.peers = r.peers := by
  induction left generalizing r with
  | zero => rfl
  | succ left ih =>
      unfold receiveProcessed
      split
      case h_1 => exact ih _
      case h_2 => rfl

/-- The peer-sync job runs in a tick. -/
def peerSyncJobDue (r : LxmfRouter σ) (nowMs : Nat) : Bool :=
  decide ((r.runtime.processingCount + 1) % 2 ^ 64 % jobPeersyncInterval
      = 0)
    && decide (r.runtime.config.pnIntervalMs
      ≤ nowMs - r.runtime.lastPnMs)

theorem tick_pnRan (r : LxmfRouter σ) (nowMs : Nat)
    (deliver : Nat → Deliver) :
    (r.runtime.tick nowMs deliver).1.pnRan = r.peerSyncJobDue nowMs := by
  have houtbound (rt : LxmfRuntime σ) :
      (rt.tickOutbound nowMs deliver).2.config = rt.config
        ∧ (rt.tickOutbound nowMs deliver).2.lastPnMs = rt.lastPnMs := by
    unfold LxmfRuntime.tickOutbound
    split
    case isTrue => exact ⟨rfl, rfl⟩
    case isFalse => exact ⟨rfl, rfl⟩
  have hstore (c : Prop) [Decidable c] (rt : LxmfRuntime σ) :
      (if c then { rt with lastStoreMs := nowMs } else rt).config
          = rt.config
        ∧ (if c then { rt with lastStoreMs := nowMs } else rt).lastPnMs
          = rt.lastPnMs := by
    split
    case isTrue => exact ⟨rfl, rfl⟩
    case isFalse => exact ⟨rfl, rfl⟩
  obtain ⟨hconfig, hlast⟩ := houtbound { r.runtime with
    processingCount := (r.runtime.processingCount + 1) % 2 ^ 64 }
  unfold LxmfRuntime.tick peerSyncJobDue
  dsimp only at hconfig hlast ⊢
  rw [(hstore _ _).1, (hstore _ _).2, hconfig, hlast]

/-- The peer-sync job of the operation finds the peer waiting for too
long. -/
def pollsLate (r : LxmfRouter σ) (p : Hash16) : Operation σ → Bool
  | .tick nowMs _ _ _ => r.peerSyncJobDue nowMs && r.peers.late p nowMs
  | _ => false

/-- The operation is a tick whose rotation forgets failures. -/
def ForgetsFailures (P : Platform) (r : LxmfRouter σ) (p : Hash16) :
    Operation σ → Prop
  | .tick nowMs deliver rng _ =>
      let (tick, runtime) := r.runtime.tick nowMs deliver
      tick.rotateRan = true
        ∧ (jobsBeforeRotation P { r with runtime := runtime } tick nowMs
          rng).RotationForgets p
  | _ => False

theorem tickBegin_score {r : LxmfRouter σ} {nowMs : Nat}
    {deliver : Nat → Deliver} {rng : OsRng} {free : Bool}
    (h : ¬ r.ForgetsFailures P p (.tick nowMs deliver rng free)) :
    (r.tickBegin P nowMs deliver rng).2.2.peers.score p
      = (r.peers.score p).failIf
          (r.pollsLate p (.tick nowMs deliver rng free)) := by
  have hran := tick_pnRan r nowMs deliver
  unfold ForgetsFailures at h
  unfold pollsLate tickBegin
  dsimp only at h ⊢
  generalize r.runtime.tick nowMs deliver = ticked at h hran ⊢
  have hjobs := tickJobs_score (P := P) (p := p)
    (r := { r with runtime := ticked.2 }) fun hrotates hforgets =>
      h ⟨hrotates, hforgets⟩
  rw [← hran]
  generalize tickJobs P { r with runtime := ticked.2 } ticked.1 nowMs rng
    = jobsDone at hjobs ⊢
  split
  case isTrue =>
    dsimp only
    rw [receiveProcessed_peers]
    exact hjobs
  case isFalse => exact hjobs

/-- What a tick does to the score of a peer: it fails once if the
peer-sync job polls it late, and once if the request to it times out. -/
theorem tick_score {r : LxmfRouter σ} {nowMs : Nat}
    {deliver : Nat → Deliver} {rng : OsRng} {free : Bool} {id : Hash16}
    (hawaits : r.AwaitsOnly p id)
    (h : ¬ r.ForgetsFailures P p (.tick nowMs deliver rng free)) :
    (r.tick P nowMs deliver rng free).2.peers.score p
      = ((r.peers.score p).failIf
          (r.pollsLate p (.tick nowMs deliver rng free))).failIf
          (decide (id ∈ (r.tick P nowMs deliver rng
            free).1.requestTimeouts)) := by
  have hpending := congrArg RequestBooks.peerSyncPending
    (tickBegin_keeps (P := P) (c := True) r nowMs deliver rng).books
  rw [← tickBegin_score h]
  unfold tick tickEnd
  dsimp only
  generalize r.tickBegin P nowMs deliver rng = begun at hpending ⊢
  generalize hspawned : (if begun.2.2.spawns begun.1 free = true then
    { begun.2.2 with stampProcessingActive := true } else begun.2.2)
      = spawned
  have hspawn : spawned.peers = begun.2.2.peers
      ∧ spawned.peerSyncPending = begun.2.2.peerSyncPending := by
    rw [← hspawned]
    split
    case isTrue => exact ⟨rfl, rfl⟩
    case isFalse => exact ⟨rfl, rfl⟩
  have hsame : spawned.peerSyncPending = r.peerSyncPending :=
    hspawn.2.trans hpending
  have hstill : spawned.AwaitsOnly p id := by
    refine ⟨?_, ?_⟩
    · rw [hsame]
      exact hawaits.awaited
    · rw [hsame]
      exact hawaits.only
  rw [handleRequestTimeouts_score begun.1.requestTimeouts nowMs hstill,
    hspawn.1]

end Ticks

-- ============================================================ whole runs

section Runs

variable {σ : Type} [MessageStore σ] {P : Platform} {r r' : LxmfRouter σ}
  {p id : Hash16} {sentMs : Nat}

/-- One request to the peer waits for its answer, since `sentMs`. -/
structure Unanswered (r : LxmfRouter σ) (p id : Hash16) (sentMs : Nat) :
    Prop extends AwaitsOnly r p id where
  pending : ∃ pending, r.runtime.requests.pending.lookup id = some pending
    ∧ pending.sentAtMs = sentMs ∧ pending.timeoutMs = peerSyncTimeoutMs

/-- What is done without a request to the peer or traffic from it: the
request still waits, there is no other one, and the peer has not failed
by it. -/
structure LeavesAlone (r r' : LxmfRouter σ) (p id : Hash16) : Prop where
  score : r'.peers.score p = r.peers.score p
  requests : ∀ other pending, pending.peerId = p →
    (r'.peerSyncPending.lookup other = some pending
      ↔ r.peerSyncPending.lookup other = some pending)
  pending : r'.runtime.requests.pending.lookup id
    = r.runtime.requests.pending.lookup id

/-- The request is not answered and does not time out yet. -/
def Waits (P : Platform) (r : LxmfRouter σ) (p id : Hash16)
    (sentMs : Nat) : Operation σ → Prop
  | .tick nowMs _ _ _ =>
      ¬ (r.RequestPollDue nowMs ∧ peerSyncTimeoutMs ≤ nowMs - sentMs)
  | op => LeavesAlone r (r.perform P op) p id

omit [MessageStore σ] in
theorem Unanswered.leavesAlone (h : r.Unanswered p id sentMs)
    (halone : LeavesAlone r r' p id) : r'.Unanswered p id sentMs := by
  obtain ⟨request, hawaited⟩ := h.awaited
  refine ⟨⟨⟨request, ?_⟩, ?_⟩, ?_⟩
  · exact (halone.requests id ⟨p, request⟩ rfl).mpr hawaited
  · intro other pending hother hpeer
    exact h.only other pending
      ((halone.requests other pending hpeer).mp hother) hpeer
  · rw [halone.pending]
    exact h.pending

/-- A request times out in a tick that polls once its time is up. -/
theorem Unanswered.timesOut (h : r.Unanswered p id sentMs) (nowMs : Nat)
    (deliver : Nat → Deliver) (rng : OsRng) (free : Bool) :
    id ∈ (r.tick P nowMs deliver rng free).1.requestTimeouts
      ↔ r.RequestPollDue nowMs ∧ peerSyncTimeoutMs ≤ nowMs - sentMs := by
  obtain ⟨pending, hpending, hsent, htimeout⟩ := h.pending
  rw [tick_requestTimeouts]
  by_cases hdue : r.RequestPollDue nowMs
  · have hpoll : LxmfRuntime.pollRequests r.runtime.requestClock nowMs
        = r.runtime.requests.pollTimeouts nowMs := if_pos hdue
    refine Iff.trans ?_ (and_iff_right hdue).symm
    rw [hpoll]
    unfold RnsRequestManager.pollTimeouts
    dsimp only
    rw [List.mem_map]
    constructor
    · intro hreported
      obtain ⟨⟨key, found⟩, hfound, rfl⟩ := hreported
      obtain ⟨hentry, hlate⟩ := List.mem_filter.mp hfound
      have hlookup := AList.mem_lookup_iff.mpr hentry
      rw [hpending] at hlookup
      cases hlookup
      rw [← hsent, ← htimeout]
      exact of_decide_eq_true hlate
    · intro hlate
      refine ⟨⟨id, pending⟩, List.mem_filter.mpr ⟨?_, ?_⟩, rfl⟩
      · exact AList.mem_lookup_iff.mp hpending
      · rw [← hsent, ← htimeout] at hlate
        exact decide_eq_true hlate
  · have hpoll : LxmfRuntime.pollRequests r.runtime.requestClock nowMs
        = ([], r.runtime.requests) := if_neg hdue
    rw [hpoll]
    exact iff_of_false List.not_mem_nil fun h => hdue h.1

/-- A tick in which it does not time out. -/
theorem Unanswered.tick (h : r.Unanswered p id sentMs) {nowMs : Nat}
    {deliver : Nat → Deliver} {rng : OsRng} {free : Bool}
    (hwaits : id ∉ (r.tick P nowMs deliver rng free).1.requestTimeouts) :
    (r.tick P nowMs deliver rng free).2.Unanswered p id sentMs := by
  have hbooks := tick_books_eq (P := P) r nowMs deliver rng free
  have hpending := congrArg RequestBooks.pending hbooks
  have hawaited := congrArg RequestBooks.peerSyncPending hbooks
  unfold books at hpending hawaited
  dsimp only at hpending hawaited
  rw [tick_requestTimeouts] at hwaits
  refine ⟨⟨?_, ?_⟩, ?_⟩
  · rw [hawaited, AList.lookup_foldl_erase hwaits]
    exact h.awaited
  · intro other pending hother
    rw [hawaited] at hother
    exact h.only other pending (AList.lookup_of_lookup_foldl_erase hother).1
  · obtain ⟨pending, hlookup, htimes⟩ := h.pending
    refine ⟨pending, ?_, htimes⟩
    rw [hpending, ← hlookup]
    unfold LxmfRuntime.pollRequests at hwaits ⊢
    split at hwaits
    case isTrue hdue =>
      rw [if_pos hdue]
      exact AList.lookup_foldl_erase hwaits
    case isFalse hnot =>
      rw [if_neg hnot]
      rfl

/-- How often the peer is polled late in a run. -/
def latePolls (P : Platform) (p : Hash16) :
    LxmfRouter σ → List (Operation σ) → Nat
  | _, [] => 0
  | r, op :: ops =>
      (r.pollsLate p op).toNat + latePolls P p (r.perform P op) ops

/-- No step of a run polls the peer late. -/
def OnTime (P : Platform) (p : Hash16) (r : LxmfRouter σ)
    (ops : List (Operation σ)) : Prop :=
  ∀ done op, done ++ [op] <+: ops →
    (r.performAll P done).pollsLate p op = false

/-- No step of a run forgets failures of the peer. -/
def Remembers (P : Platform) (p : Hash16) (r : LxmfRouter σ)
    (ops : List (Operation σ)) : Prop :=
  ∀ done op, done ++ [op] <+: ops →
    ¬ (r.performAll P done).ForgetsFailures P p op

theorem latePolls_eq_zero {ops : List (Operation σ)} :
    latePolls P p r ops = 0 ↔ OnTime P p r ops := by
  induction ops generalizing r with
  | nil =>
      refine iff_of_true rfl ?_
      intro done op hprefix
      have hlength := hprefix.length_le
      simp at hlength
  | cons op ops ih =>
      refine Iff.trans ?_ (@Run.forall_step_cons (LxmfRouter σ)
        (Operation σ) (perform P) (fun r op => r.pollsLate p op = false)
        r ops op).symm
      unfold latePolls
      rw [Nat.add_eq_zero_iff, ih]
      cases hlate : r.pollsLate p op with
      | false => simp [OnTime, performAll]
      | true => simp

/-- While the request waits, a step counts one failure if it polls the
peer late. -/
theorem Unanswered.step (h : r.Unanswered p id sentMs) {op : Operation σ}
    (hwaits : r.Waits P p id sentMs op)
    (hremembers : ¬ r.ForgetsFailures P p op) :
    (r.perform P op).Unanswered p id sentMs
      ∧ (r.perform P op).peers.score p
        = (r.peers.score p).failIf (r.pollsLate p op) := by
  cases op with
  | tick nowMs deliver rng free =>
      have hnot := fun hout => hwaits ((h.timesOut (P := P) nowMs deliver
        rng free).mp hout)
      have hscore := tick_score h.toAwaitsOnly hremembers
      rw [decide_eq_false hnot] at hscore
      exact ⟨h.tick hnot, hscore⟩
  | _ => exact ⟨h.leavesAlone hwaits, hwaits.score⟩

/-- While the request waits, a run counts one failure for each time it
polls the peer late. -/
theorem Unanswered.run (h : r.Unanswered p id sentMs)
    {ops : List (Operation σ)}
    (hwaits : ∀ done op, done ++ [op] <+: ops →
      (r.performAll P done).Waits P p id sentMs op)
    (hremembers : Remembers P p r ops) :
    (r.performAll P ops).Unanswered p id sentMs
      ∧ (r.performAll P ops).peers.score p
        = Score.fail^[latePolls P p r ops] (r.peers.score p) := by
  induction ops generalizing r with
  | nil => exact ⟨h, rfl⟩
  | cons op ops ih =>
      obtain ⟨hfirst, hrest⟩ := (@Run.forall_step_cons (LxmfRouter σ)
        (Operation σ) (perform P) (fun r op => r.Waits P p id sentMs op)
        r ops op).mp hwaits
      obtain ⟨hfirst', hrest'⟩ := (@Run.forall_step_cons (LxmfRouter σ)
        (Operation σ) (perform P) (fun r op => ¬ r.ForgetsFailures P p op)
        r ops op).mp hremembers
      obtain ⟨hnext, hscore⟩ := h.step hfirst hfirst'
      obtain ⟨hend, hscores⟩ := ih hnext hrest hrest'
      refine ⟨hend, hscores.trans ?_⟩
      rw [hscore, Score.failIf_eq_iterate, ← Function.iterate_add_apply,
        Nat.add_comm]
      rfl

theorem latePolls_append_singleton (ops : List (Operation σ))
    (op : Operation σ) :
    latePolls P p r (ops ++ [op])
      = latePolls P p r ops
        + ((r.performAll P ops).pollsLate p op).toNat := by
  induction ops generalizing r with
  | nil => exact Nat.add_comm _ 0
  | cons first ops ih =>
      show _ + latePolls P p _ (ops ++ [op]) = _ + latePolls P p _ ops + _
      rw [ih, Nat.add_assoc]
      rfl

omit [MessageStore σ] in
/-- A request that is registered, with none before it. -/
theorem buildPeerSyncRequest_unanswered {r₀ r₁ : LxmfRouter σ}
    {req : PeerSyncRequest} {request : RnsRequest}
    (h : r₀.buildPeerSyncRequest P p req sentMs = (.ok request, r₁))
    (hfirst : ¬ r₀.Awaits p) :
    r₁.Unanswered p request.requestId sentMs ∧ r₁.peers = r₀.peers := by
  unfold buildPeerSyncRequest at h
  split at h
  case h_1 => cases h
  case h_2 bytes _ =>
    split at h
    case h_1 => cases h
    case h_2 built requests hregister =>
      cases h
      obtain ⟨payload, _, hpayload⟩ := Except.bind_eq_ok.mp hregister
      cases hpayload
      refine ⟨⟨⟨⟨req, AList.lookup_insert _⟩, ?_⟩, ?_⟩, rfl⟩
      · intro other pending hother hpeer
        by_contra hne
        refine hfirst ⟨other, pending, ?_, hpeer⟩
        exact (AList.lookup_insert_ne hne).symm.trans hother
      · exact ⟨_, AList.lookup_insert _, rfl, rfl⟩

/-- One failure, one step of the backoff, and the request is in neither
map. -/
structure CountedOnce (r : LxmfRouter σ) (p id : Hash16) (before : Score) :
    Prop where
  failures : (r.peers.score p).failures = before.failures + 1
  backoffMs : (r.peers.score p).backoffMs = before.fail.backoffMs
  unawaited : id ∉ r.peerSyncPending
  unwatched : id ∉ r.runtime.requests.pending

/-- A request that is never answered, up to the tick in which it times
out, in a run that remembers the failures of the peer: it counts once
exactly when no tick polled the peer late. -/
theorem timeout_counted_once {r₀ r₁ : LxmfRouter σ}
    {req : PeerSyncRequest} {request : RnsRequest}
    (hbuild : r₀.buildPeerSyncRequest P p req sentMs = (.ok request, r₁))
    (hfirst : ¬ r₀.Awaits p) (ops : List (Operation σ))
    (hwaits : ∀ done op, done ++ [op] <+: ops →
      (r₁.performAll P done).Waits P p request.requestId sentMs op)
    (nowMs : Nat) (deliver : Nat → Deliver) (rng : OsRng) (free : Bool)
    (hdue : (r₁.performAll P ops).RequestPollDue nowMs)
    (htime : peerSyncTimeoutMs ≤ nowMs - sentMs)
    (hremembers :
      Remembers P p r₁ (ops ++ [.tick nowMs deliver rng free])) :
    ((r₀.peers.score p).failures < u32Max →
        OnTime P p r₁ (ops ++ [.tick nowMs deliver rng free]) →
        (r₁.performAll P (ops ++ [.tick nowMs deliver rng
          free])).CountedOnce p request.requestId (r₀.peers.score p))
      ∧ ((r₀.peers.score p).failures + 2 ≤ u32Max →
        (r₁.performAll P (ops ++ [.tick nowMs deliver rng
          free])).CountedOnce p request.requestId (r₀.peers.score p) →
        OnTime P p r₁ (ops ++ [.tick nowMs deliver rng free])) := by
  obtain ⟨hstart, hpeers⟩ := buildPeerSyncRequest_unanswered hbuild hfirst
  obtain ⟨hstill, hscore⟩ := hstart.run hwaits fun done op hdone =>
    hremembers done op (hdone.trans (List.prefix_append ops _))
  have hlast := hremembers ops (.tick nowMs deliver rng free)
    (List.prefix_rfl)
  have hout := (hstill.timesOut (P := P) nowMs deliver rng free).mpr
    ⟨hdue, htime⟩
  have hcount := tick_score hstill.toAwaitsOnly hlast
  have hbooks := tick_books_eq (P := P) (r₁.performAll P ops) nowMs deliver
    rng free
  rw [decide_eq_true hout, hscore, Score.failIf_eq_iterate,
    Score.failIf_eq_iterate, ← Function.iterate_add_apply,
    ← Function.iterate_add_apply, hpeers] at hcount
  have hlates : true.toNat
      + ((r₁.performAll P ops).pollsLate p
          (.tick nowMs deliver rng free)).toNat + latePolls P p r₁ ops
      = latePolls P p r₁ (ops ++ [.tick nowMs deliver rng free]) + 1 := by
    rw [latePolls_append_singleton, Bool.toNat_true]
    omega
  have hrun : r₁.performAll P (ops ++ [.tick nowMs deliver rng free])
      = ((r₁.performAll P ops).tick P nowMs deliver rng free).2 :=
    List.foldl_append
  rw [hlates, ← hrun] at hcount
  rw [tick_requestTimeouts] at hout
  rw [← hrun] at hbooks
  have hpending := congrArg RequestBooks.pending hbooks
  have hawaited := congrArg RequestBooks.peerSyncPending hbooks
  unfold books at hpending hawaited
  dsimp only at hpending hawaited
  rw [← latePolls_eq_zero]
  refine ⟨?_, ?_⟩
  · intro hroom hnone
    rw [hnone] at hcount
    refine ⟨?_, ?_, ?_, ?_⟩
    · rw [hcount, Score.iterate_fail_failures _ _ (by omega)]
      omega
    · rw [hcount]
      rfl
    · rw [hawaited]
      exact fun hmem => (AList.mem_foldl_erase.mp hmem).2 hout
    · rw [hpending]
      exact fun hmem => (LxmfRuntime.mem_pollRequests.mp hmem).2 hout
  · intro hroom hcounted
    refine Score.iterate_fail_once hroom ?_
    rw [← hcount]
    exact hcounted.failures

end Runs

section TimeoutInstance

open Reference

/-- Deliveries that fail, for ticks where nothing is queued. -/
def downLink : Nat → Deliver :=
  fun _ message _ => (.error (.msgpack "down"), message)

/-- A peer of the documentation example. -/
def docPeer : Hash16 := List.Vector.replicate 16 9

/-- A request to it at time zero. -/
noncomputable def docRequested :
    Except RnsError RnsRequest × LxmfRouter InMemoryStore :=
  docNode.buildPeerSyncRequest platform docPeer .messageGetList 0

/-- The tick of a day later. -/
def docNextDay : Operation InMemoryStore :=
  .tick (24 * 60 * 60 * 1000) downLink (fun _ => 0) true

/-- It finds the request, and counts it once. -/
theorem timeout_counted_once_doc :
    ∃ request r₁, docRequested = (.ok request, r₁)
      ∧ (r₁.performAll platform [docNextDay]).CountedOnce docPeer
        request.requestId (docNode.peers.score docPeer) := by
  have hok : docRequested.1.isOk = true := by decide +kernel
  have hdue : docRequested.2.RequestPollDue (24 * 60 * 60 * 1000) := by
    unfold RequestPollDue
    decide +kernel
  have hlate : docRequested.2.pollsLate docPeer docNextDay = false := by
    decide +kernel
  have hrotates : (docRequested.2.runtime.tick (24 * 60 * 60 * 1000)
      downLink).1.rotateRan = false := by decide +kernel
  cases hbuild : docRequested with
  | mk result r₁ =>
      rw [hbuild] at hok hdue hlate hrotates
      cases result with
      | error e => cases hok
      | ok request =>
          refine ⟨request, r₁, rfl, ?_⟩
          refine (timeout_counted_once hbuild ?_ [] ?_ (24 * 60 * 60 * 1000)
            downLink (fun _ => 0) true hdue (by decide) ?_).1 ?_ ?_
          · intro hawaits
            obtain ⟨other, pending, hother, _⟩ := hawaits
            cases hother
          · intro done op hprefix
            have hlength := hprefix.length_le
            simp at hlength
          · intro done op hprefix hforgets
            obtain ⟨rfl, rfl⟩ := Run.prefix_singleton hprefix
            exact Bool.false_ne_true (hrotates.symm.trans hforgets.1)
          · decide
          · intro done op hprefix
            obtain ⟨rfl, rfl⟩ := Run.prefix_singleton hprefix
            exact hlate

/-- An offer to the peer and the request for it, at time zero. -/
noncomputable def docOffered :
    Except RnsError RnsRequest × LxmfRouter InMemoryStore :=
  (docNode.peerSyncOffer docPeer [1] 0).2.buildPeerSyncRequest platform
    docPeer (docNode.peerSyncOffer docPeer [1] 0).1 0

/-- Five ticks before the time is up, and one when it is. -/
def sixTicks : List (Operation InMemoryStore) :=
  [1, 2, 3, 4, 5, peerSyncTimeoutMs].map fun nowMs =>
    .tick nowMs downLink (fun _ => 0) true

/-- The sixth tick runs the peer-sync job, which polls the peer late, and
then times the request out: two failures for one request. -/
theorem one_timeout_two_failures :
    ∃ request r₁, docOffered = (.ok request, r₁)
      ∧ request.requestId
        ∈ (r₁.performAll platform (sixTicks.take 5)).peerSyncPending
      ∧ (r₁.peers.score docPeer).failures = 0
      ∧ ((r₁.performAll platform sixTicks).peers.score docPeer).failures
        = 2
      ∧ ¬ (r₁.performAll platform sixTicks).CountedOnce docPeer
        request.requestId (r₁.peers.score docPeer) := by
  have hok : docOffered.1.isOk = true := by decide +kernel
  have hwaits : docOffered.1.toOption.all (fun request =>
      decide (request.requestId ∈ (docOffered.2.performAll platform
        (sixTicks.take 5)).peerSyncPending)) = true := by decide +kernel
  have hbefore : (docOffered.2.peers.score docPeer).failures = 0 := by
    decide +kernel
  have hafter : ((docOffered.2.performAll platform sixTicks).peers.score
      docPeer).failures = 2 := by decide +kernel
  cases hbuild : docOffered with
  | mk result r₁ =>
      rw [hbuild] at hok hwaits hbefore hafter
      cases result with
      | error e => cases hok
      | ok request =>
          simp only [Except.toOption, Option.all_some,
            decide_eq_true_eq] at hwaits
          refine ⟨request, r₁, rfl, hwaits, hbefore, hafter, ?_⟩
          intro hcounted
          have hone := hcounted.failures
          rw [hbefore] at hone
          exact absurd (hafter.symm.trans hone) (by decide)

end TimeoutInstance

end LxmfRouter

end Lxmf
