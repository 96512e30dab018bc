/-
What a download waits for, and what is left of it after a cancel.

# The waiting invariant

A download that waits for a path says so in its transfer state and knows
for whom and until when (`WaitsConsistently`). Every event keeps that,
with one exception: a request that finds an open link while an earlier
one still waits (`Overtakes`) goes out at once and leaves the earlier
one waiting, under the state of the later one.

# After a cancel

Cancelling forgets what waits for a path, but empties neither of the two
queues. Whether a queued path request is a download's does not show in
the queue; `Attributed` carries it beside. From a cancel on the queues
only shrink, so that what they hold then is what comes out.
-/
import Lxmf.Router.Download
import Lxmf.Library.Run
import Lxmf.Proofs.PeerSync

namespace Lxmf

namespace LxmfRouter

variable {σ : Type} {P : Platform}

-- ======================================================= what is waited for

/-- Whoever waits for a path is in the state that says so, and knows for
whom and until when. -/
def WaitsConsistently (r : LxmfRouter σ) : Prop :=
  ∀ node, r.wantsDownloadOnPathAvailableFrom = some node →
    r.propagationTransferState = prPathRequested
    ∧ r.wantsDownloadOnPathAvailableTo ≠ none
    ∧ r.wantsDownloadOnPathAvailableTimeout ≠ none

/-- The link to the node is open. -/
def LinkOpen (r : LxmfRouter σ) : Prop :=
  ∃ link, r.linkTracker.outboundPropagationLink = some link
    ∧ link.isClosed = false

/-- The event is a request that goes out while another one waits. -/
def Overtakes (r : LxmfRouter σ) : DownloadEvent → Prop
  | .request _ _ _ => r.outboundPropagationNode ≠ none ∧ r.LinkOpen
      ∧ r.wantsDownloadOnPathAvailableFrom ≠ none
  | _ => False

section Waiting

variable {r r' : LxmfRouter σ}

theorem waitsConsistently_of_none
    (h : r.wantsDownloadOnPathAvailableFrom = none) :
    r.WaitsConsistently := by
  intro node hnode
  rw [h] at hnode
  cases hnode

theorem acknowledge_waits (resetState : Bool)
    (failureState : Option UInt8) :
    (r.acknowledgeSyncCompletion resetState
      failureState).WaitsConsistently :=
  waitsConsistently_of_none rfl

theorem queueMessageRequest_waits (nodeHash identityHash : Hash16) :
    (r.queueMessageRequest nodeHash identityHash).WaitsConsistently :=
  waitsConsistently_of_none rfl

theorem establish_waits (identityHash nodeHash : Hash16) (nowMs : Nat) :
    (r.establishPropagationLinkForRequest identityHash nodeHash
      nowMs).WaitsConsistently := by
  unfold establishPropagationLinkForRequest
  split
  case isTrue => exact queueMessageRequest_waits nodeHash identityHash
  case isFalse => exact fun _ _ => ⟨rfl, nofun, nofun⟩

theorem onPnPathAvailable_waits (h : r.WaitsConsistently)
    (nodeHash : Hash16) (nowMs : Nat) :
    (r.onPnPathAvailable nodeHash nowMs).WaitsConsistently := by
  unfold onPnPathAvailable
  split
  case isTrue =>
    split
    case h_1 identityHash _ =>
      exact queueMessageRequest_waits nodeHash identityHash
    case h_2 => exact h
  case isFalse => exact h

theorem pollPathRequestTimeout_waits (h : r.WaitsConsistently)
    (nowMs : Nat) :
    (r.pollPathRequestTimeout nowMs).2.WaitsConsistently := by
  unfold pollPathRequestTimeout
  split
  case h_1 nodeHash timeoutS _ _ =>
    split
    case isTrue => exact acknowledge_waits _ _
    case isFalse =>
      split
      case isTrue => exact onPnPathAvailable_waits h nodeHash nowMs
      case isFalse => exact h
  case h_2 => exact h

theorem cleanLinks_waits (h : r.WaitsConsistently) (nowMs : Nat) :
    (r.cleanLinks nowMs).WaitsConsistently := by
  obtain ⟨tracker, heq | ⟨failure, heq⟩⟩ := r.cleanLinks_cases nowMs
  · rw [heq]
    exact h
  · rw [heq]
    exact acknowledge_waits _ _

theorem setOutboundPropagationNode_waits (h : r.WaitsConsistently)
    (destinationHash : Option Hash16) :
    (r.setOutboundPropagationNode destinationHash).WaitsConsistently := by
  unfold setOutboundPropagationNode
  split
  case isTrue => exact h
  case isFalse =>
    dsimp only
    split
    case h_1 =>
      split
      case isTrue => exact h
      case isFalse => exact h
    case h_2 => exact h

theorem getOutboundPropagationCost_waits (h : r.WaitsConsistently) :
    (r.getOutboundPropagationCost P).2.WaitsConsistently := by
  unfold getOutboundPropagationCost
  split
  case h_1 => exact h
  case h_2 =>
    split
    case h_1 => exact h
    case h_2 =>
      split
      case isTrue => exact h
      case isFalse => exact h

/-- A request keeps the invariant exactly when it does not overtake. -/
theorem request_waits_iff (h : r.WaitsConsistently)
    (identityHash : Hash16) (maxMessages : Option Nat) (nowMs : Nat) :
    (r.requestMessagesFromPropagationNode identityHash maxMessages
        nowMs).WaitsConsistently
      ↔ ¬ r.Overtakes (.request identityHash maxMessages nowMs) := by
  unfold requestMessagesFromPropagationNode Overtakes LinkOpen
  dsimp only
  split
  case h_1 hnode => exact ⟨fun _ hboth => hboth.1 hnode, fun _ => h⟩
  case h_2 nodeHash hnode =>
    split
    case h_2 hlink =>
      refine ⟨fun _ hboth => ?_, fun _ => establish_waits _ _ _⟩
      obtain ⟨_, ⟨_, hsome, _⟩, _⟩ := hboth
      cases hlink.symm.trans hsome
    case h_1 link hlink =>
      split
      case isTrue hclosed =>
        refine ⟨fun _ hboth => ?_, fun _ => establish_waits _ _ _⟩
        obtain ⟨_, ⟨_, hsome, hopen⟩, _⟩ := hboth
        injection hlink.symm.trans hsome with hsame
        rw [hsame, hopen] at hclosed
        cases hclosed
      case isFalse hopen =>
        constructor
        · -- the request is sent, whatever else is waited for
          intro hwaits hboth
          obtain ⟨_, _, hfrom⟩ := hboth
          obtain ⟨node, hfrom⟩ := Option.ne_none_iff_exists'.mp hfrom
          have hstate := (hwaits node hfrom).1
          cases hstate
        · intro hnot
          refine waitsConsistently_of_none ?_
          by_contra hfrom
          refine hnot ⟨?_, ⟨link, hlink, Bool.eq_false_iff.mpr hopen⟩, hfrom⟩
          rw [hnode]
          exact nofun

/-- One event keeps the invariant exactly when it does not overtake. -/
theorem download_waits_iff (h : r.WaitsConsistently) (e : DownloadEvent) :
    (r.download P e).WaitsConsistently ↔ ¬ r.Overtakes e := by
  cases e with
  | request identityHash maxMessages nowMs =>
      exact request_waits_iff h identityHash maxMessages nowMs
  | pathAvailable nodeHash nowMs =>
      exact iff_of_true (onPnPathAvailable_waits h nodeHash nowMs) id
  | pollPathTimeout nowMs =>
      exact iff_of_true (pollPathRequestTimeout_waits h nowMs) id
  | acknowledge resetState failureState =>
      exact iff_of_true (acknowledge_waits resetState failureState) id
  | cancel => exact iff_of_true (waitsConsistently_of_none rfl) id
  | cleanLinks nowMs => exact iff_of_true (cleanLinks_waits h nowMs) id
  | setNode destinationHash =>
      exact iff_of_true
        (setOutboundPropagationNode_waits h destinationHash) id
  | outboundCost =>
      exact iff_of_true (getOutboundPropagationCost_waits h) id
  | setLink linkId nowMs => exact iff_of_true h id
  | linkEvents events nowMs => exact iff_of_true h id
  | processMessageRequests => exact iff_of_true h id
  | popPathRequest => exact iff_of_true h id
  | directory f => exact iff_of_true h id

/-- The poll leaves every other state than the waiting one alone. -/
theorem WaitsConsistently.poll_state (h : r.WaitsConsistently)
    (hstate : r.propagationTransferState ≠ prPathRequested)
    (nowMs : Nat) : (r.pollPathRequestTimeout nowMs).2 = r := by
  unfold pollPathRequestTimeout
  split
  case h_1 nodeHash timeoutS hfrom _ =>
    exact absurd (h nodeHash hfrom).1 hstate
  case h_2 => rfl

end Waiting

/-- In a run from a router that waits for nothing, a download that waits
is consistent in every state, and the poll touches no other state,
exactly when no request overtakes a waiting one. -/
theorem waits_consistently_throughout_iff (P : Platform)
    {r₀ : LxmfRouter σ} (h₀ : r₀.wantsDownloadOnPathAvailableFrom = none)
    (events : List DownloadEvent) :
    (∀ done, done <+: events →
        (done.foldl (download P) r₀).WaitsConsistently
        ∧ ∀ nowMs, (done.foldl (download P) r₀).propagationTransferState
            ≠ prPathRequested →
          ((done.foldl (download P) r₀).pollPathRequestTimeout
            nowMs).2.propagationTransferState
            = (done.foldl (download P) r₀).propagationTransferState)
      ↔ ∀ done e, done ++ [e] <+: events →
        ¬ (done.foldl (download P) r₀).Overtakes e := by
  refine @Run.holds_throughout_iff (LxmfRouter σ) DownloadEvent (download P)
    (fun r e => ¬ r.Overtakes e) WaitsConsistently r₀ events
    (fun _ _ => True) (fun r => r.WaitsConsistently
      ∧ ∀ nowMs, r.propagationTransferState ≠ prPathRequested →
        (r.pollPathRequestTimeout nowMs).2.propagationTransferState
          = r.propagationTransferState)
    (waitsConsistently_of_none h₀) ?_ ?_ ?_ (fun _ _ _ => trivial)
  · intro r h
    refine ⟨h, fun nowMs hstate => ?_⟩
    rw [h.poll_state hstate nowMs]
  · exact fun r e h _ hgood => (download_waits_iff h e).mpr hgood
  · exact fun r e h _ hafter => (download_waits_iff h e).mp hafter.1

-- =========================================================== the two queues

section Queues

variable {r : LxmfRouter σ}

/-- The event may queue a path request. -/
def Asks : DownloadEvent → Prop
  | .request _ _ _ | .outboundCost => True
  | _ => False

theorem establish_pathRequests {queue : List Hash16}
    (h : queue = r.pnPathRequests) (identityHash nodeHash : Hash16)
    (nowMs : Nat) :
    queue <+: (r.establishPropagationLinkForRequest identityHash
      nodeHash nowMs).pnPathRequests := by
  subst h
  unfold establishPropagationLinkForRequest
  split
  case isTrue => exact List.prefix_rfl
  case isFalse => exact List.prefix_append _ _

theorem request_pathRequests (identityHash : Hash16)
    (maxMessages : Option Nat) (nowMs : Nat) :
    r.pnPathRequests <+: (r.requestMessagesFromPropagationNode identityHash
      maxMessages nowMs).pnPathRequests := by
  unfold requestMessagesFromPropagationNode
  dsimp only
  split
  case h_1 => exact List.prefix_rfl
  case h_2 nodeHash _ =>
    split
    case h_1 =>
      split
      case isTrue =>
        refine establish_pathRequests ?_ _ nodeHash nowMs
        rfl
      case isFalse => exact List.prefix_rfl
    case h_2 =>
      refine establish_pathRequests ?_ _ nodeHash nowMs
      rfl

theorem outboundCost_pathRequests :
    r.pnPathRequests
      <+: (r.getOutboundPropagationCost P).2.pnPathRequests := by
  unfold getOutboundPropagationCost
  split
  case h_1 => exact List.prefix_rfl
  case h_2 =>
    split
    case h_1 => exact List.prefix_rfl
    case h_2 =>
      split
      case isTrue => exact List.prefix_rfl
      case isFalse => exact List.prefix_append _ _

/-- What a path brings is in the queue of message requests alone. -/
theorem onPnPathAvailable_pathRequests (nodeHash : Hash16) (nowMs : Nat) :
    (r.onPnPathAvailable nodeHash nowMs).pnPathRequests
      = r.pnPathRequests := by
  unfold onPnPathAvailable
  split
  case isTrue =>
    split
    case h_1 => rfl
    case h_2 => rfl
  case isFalse => rfl

theorem pollPathRequestTimeout_pathRequests (nowMs : Nat) :
    (r.pollPathRequestTimeout nowMs).2.pnPathRequests
      = r.pnPathRequests := by
  unfold pollPathRequestTimeout
  split
  case h_1 nodeHash timeoutS _ _ =>
    split
    case isTrue => rfl
    case isFalse =>
      split
      case isTrue => exact onPnPathAvailable_pathRequests nodeHash nowMs
      case isFalse => rfl
  case h_2 => rfl

/-- The jobs and settings leave both queues alone. -/
theorem cleanLinks_queues (nowMs : Nat) :
    (r.cleanLinks nowMs).pnPathRequests = r.pnPathRequests
    ∧ (r.cleanLinks nowMs).pnMessageRequests = r.pnMessageRequests := by
  obtain ⟨tracker, h | ⟨failure, h⟩⟩ := r.cleanLinks_cases nowMs
  · rw [h]
    exact ⟨rfl, rfl⟩
  · rw [h]
    exact ⟨rfl, rfl⟩

theorem cleanLinks_waiting
    (h : r.wantsDownloadOnPathAvailableFrom = none) (nowMs : Nat) :
    (r.cleanLinks nowMs).wantsDownloadOnPathAvailableFrom = none := by
  obtain ⟨tracker, heq | ⟨failure, heq⟩⟩ := r.cleanLinks_cases nowMs
  · rw [heq]
    exact h
  · rw [heq]
    rfl

theorem setOutboundPropagationNode_queues
    (destinationHash : Option Hash16) :
    (r.setOutboundPropagationNode destinationHash).pnPathRequests
      = r.pnPathRequests
    ∧ (r.setOutboundPropagationNode destinationHash).pnMessageRequests
      = r.pnMessageRequests
    ∧ (r.setOutboundPropagationNode
        destinationHash).wantsDownloadOnPathAvailableFrom
      = r.wantsDownloadOnPathAvailableFrom := by
  unfold setOutboundPropagationNode
  split
  case isTrue => exact ⟨rfl, rfl, rfl⟩
  case isFalse =>
    dsimp only
    split
    case h_1 =>
      split
      case isTrue => exact ⟨rfl, rfl, rfl⟩
      case isFalse => exact ⟨rfl, rfl, rfl⟩
    case h_2 => exact ⟨rfl, rfl, rfl⟩

/-- A cancel empties neither queue. -/
theorem cancel_messageRequests :
    r.cancelPropagationNodeRequests.pnMessageRequests
      = r.pnMessageRequests := by
  cases r
  rfl

end Queues

/-- The path requests after an event: one is popped, some are added, or
they stay. -/
theorem download_pathRequests (r : LxmfRouter σ) (e : DownloadEvent) :
    (e = .popPathRequest
        → (r.download P e).pnPathRequests = r.pnPathRequests.tail)
    ∧ (Asks e → r.pnPathRequests <+: (r.download P e).pnPathRequests)
    ∧ (e ≠ .popPathRequest → ¬ Asks e →
        (r.download P e).pnPathRequests = r.pnPathRequests) := by
  have hsame {e : DownloadEvent} (hpop : e ≠ .popPathRequest)
      (hasks : ¬ Asks e)
      (h : (r.download P e).pnPathRequests = r.pnPathRequests) :
      (e = .popPathRequest
          → (r.download P e).pnPathRequests = r.pnPathRequests.tail)
      ∧ (Asks e → r.pnPathRequests <+: (r.download P e).pnPathRequests)
      ∧ (e ≠ .popPathRequest → ¬ Asks e →
          (r.download P e).pnPathRequests = r.pnPathRequests) :=
    ⟨fun heq => absurd heq hpop, fun hask => absurd hask hasks,
      fun _ _ => h⟩
  cases e with
  | popPathRequest =>
      exact ⟨fun _ => rfl, False.elim, fun hne => absurd rfl hne⟩
  | request identityHash maxMessages nowMs =>
      exact ⟨nofun, fun _ => request_pathRequests _ _ _,
        fun _ hnot => absurd trivial hnot⟩
  | outboundCost =>
      exact ⟨nofun, fun _ => outboundCost_pathRequests,
        fun _ hnot => absurd trivial hnot⟩
  | pathAvailable nodeHash nowMs =>
      exact hsame nofun id (onPnPathAvailable_pathRequests nodeHash nowMs)
  | pollPathTimeout nowMs =>
      exact hsame nofun id (pollPathRequestTimeout_pathRequests nowMs)
  | acknowledge resetState failureState => exact hsame nofun id rfl
  | cancel => exact hsame nofun id rfl
  | cleanLinks nowMs => exact hsame nofun id (cleanLinks_queues nowMs).1
  | setNode destinationHash =>
      exact hsame nofun id
        (setOutboundPropagationNode_queues destinationHash).1
  | setLink linkId nowMs => exact hsame nofun id rfl
  | linkEvents events nowMs => exact hsame nofun id rfl
  | processMessageRequests => exact hsame nofun id rfl
  | directory f => exact hsame nofun id rfl

/-- A router, and for each path request it has queued whether a download
made it. -/
structure Attributed (σ : Type) where
  router : LxmfRouter σ
  asked : List Bool
  length_asked : asked.length = router.pnPathRequests.length

namespace Attributed

/-- What is known of the queue after an event. -/
def askedAfter (P : Platform) (a : Attributed σ) (e : DownloadEvent) :
    List Bool :=
  let added := (a.router.download P e).pnPathRequests.length
    - a.router.pnPathRequests.length
  match e with
  | .popPathRequest => a.asked.tail
  | .request _ _ _ => a.asked ++ List.replicate added true
  | .outboundCost => a.asked ++ List.replicate added false
  | _ => a.asked

theorem length_askedAfter (a : Attributed σ) (e : DownloadEvent) :
    (a.askedAfter P e).length
      = (a.router.download P e).pnPathRequests.length := by
  obtain ⟨hpop, hadd, hkeep⟩ := download_pathRequests (P := P) a.router e
  have hlen := a.length_asked
  have hgrow (hasks : Asks e) (flag : Bool) :
      (a.asked ++ List.replicate
        ((a.router.download P e).pnPathRequests.length
          - a.router.pnPathRequests.length) flag).length
        = (a.router.download P e).pnPathRequests.length := by
    have hle := (hadd hasks).length_le
    rw [List.length_append, List.length_replicate]
    omega
  unfold askedAfter
  cases e with
  | popPathRequest =>
      rw [hpop rfl, List.length_tail, List.length_tail, hlen]
  | request identityHash maxMessages nowMs => exact hgrow trivial true
  | outboundCost => exact hgrow trivial false
  | pathAvailable nodeHash nowMs => rw [hkeep nofun id, ← hlen]
  | pollPathTimeout nowMs => rw [hkeep nofun id, ← hlen]
  | acknowledge resetState failureState => rw [hkeep nofun id, ← hlen]
  | cancel => rw [hkeep nofun id, ← hlen]
  | cleanLinks nowMs => rw [hkeep nofun id, ← hlen]
  | setNode destinationHash => rw [hkeep nofun id, ← hlen]
  | setLink linkId nowMs => rw [hkeep nofun id, ← hlen]
  | linkEvents events nowMs => rw [hkeep nofun id, ← hlen]
  | processMessageRequests => rw [hkeep nofun id, ← hlen]
  | directory f => rw [hkeep nofun id, ← hlen]

def download (P : Platform) (a : Attributed σ) (e : DownloadEvent) :
    Attributed σ where
  router := a.router.download P e
  asked := a.askedAfter P e
  length_asked := a.length_askedAfter e

theorem asked_download (a : Attributed σ) (e : DownloadEvent) :
    (a.download P e).asked = a.askedAfter P e := rfl

/-- What an event hands to the event loop for a download. -/
inductive Yield where
  | messages (nodeHash identityHash : Hash16) (maxMessages : Option Nat)
  | path (nodeHash : Hash16)
deriving DecidableEq

/-- Message requests are always a download's, path requests when they
were made for one. -/
def yielded (a : Attributed σ) : DownloadEvent → List Yield
  | .processMessageRequests =>
      a.router.processPnMessageRequests.1.map fun request =>
        .messages request.1 request.2.1 request.2.2
  | .popPathRequest =>
      match a.asked, a.router.popPnPathRequest.1 with
      | true :: _, some nodeHash => [.path nodeHash]
      | _, _ => []
  | _ => []

/-- What a sequence of events hands out. -/
def yieldedBy (P : Platform) : List DownloadEvent → Attributed σ →
    List Yield
  | [], _ => []
  | e :: events, a => a.yielded e ++ yieldedBy P events (a.download P e)

/-- Nothing of a download is queued, and none waits for a path. -/
structure Quiet (a : Attributed σ) : Prop where
  messages : a.router.pnMessageRequests = []
  paths : ∀ flag ∈ a.asked, flag = false
  waiting : a.router.wantsDownloadOnPathAvailableFrom = none

variable {a : Attributed σ}

theorem Quiet.yielded_eq (h : a.Quiet) (e : DownloadEvent) :
    a.yielded e = [] := by
  unfold yielded
  split
  case h_1 =>
    show a.router.pnMessageRequests.map _ = []
    rw [h.messages]
    rfl
  case h_2 =>
    split
    case h_1 rest nodeHash hasked _ =>
      have hflag := h.paths true (hasked ▸ List.mem_cons_self)
      cases hflag
    case h_2 => rfl
  case h_3 => rfl

/-- Without a path to wait for, a path brings nothing. -/
theorem Quiet.pathAvailable (h : a.Quiet) (nodeHash : Hash16)
    (nowMs : Nat) :
    a.router.onPnPathAvailable nodeHash nowMs = a.router := by
  unfold onPnPathAvailable
  rw [h.waiting, if_neg nofun]

theorem Quiet.pollPathTimeout (h : a.Quiet) (nowMs : Nat) :
    (a.router.pollPathRequestTimeout nowMs).2 = a.router := by
  unfold pollPathRequestTimeout
  rw [h.waiting]

/-- What asks for nothing makes no path request a download's. -/
theorem paths_download (h : ∀ flag ∈ a.asked, flag = false)
    {e : DownloadEvent} (hasks : ¬ Asks e) :
    ∀ flag ∈ (a.download P e).asked, flag = false := by
  rw [asked_download]
  unfold askedAfter
  cases e with
  | request identityHash maxMessages nowMs => exact absurd trivial hasks
  | outboundCost => exact absurd trivial hasks
  | popPathRequest =>
      exact fun flag hflag => h flag (List.mem_of_mem_tail hflag)
  | pathAvailable nodeHash nowMs => exact h
  | pollPathTimeout nowMs => exact h
  | acknowledge resetState failureState => exact h
  | cancel => exact h
  | cleanLinks nowMs => exact h
  | setNode destinationHash => exact h
  | setLink linkId nowMs => exact h
  | linkEvents events nowMs => exact h
  | processMessageRequests => exact h
  | directory f => exact h

/-- What asks for nothing keeps the quiet. -/
theorem Quiet.download (h : a.Quiet) {e : DownloadEvent}
    (hasks : ¬ Asks e) : (a.download P e).Quiet := by
  have hpaths := paths_download (P := P) h.paths hasks
  cases e with
  | request identityHash maxMessages nowMs => exact absurd trivial hasks
  | outboundCost => exact absurd trivial hasks
  | pathAvailable nodeHash nowMs =>
      have hsame := h.pathAvailable nodeHash nowMs
      refine ⟨?_, hpaths, ?_⟩
      · exact (congrArg pnMessageRequests hsame).trans h.messages
      · exact (congrArg wantsDownloadOnPathAvailableFrom hsame).trans
          h.waiting
  | pollPathTimeout nowMs =>
      have hsame := h.pollPathTimeout nowMs
      refine ⟨?_, hpaths, ?_⟩
      · exact (congrArg pnMessageRequests hsame).trans h.messages
      · exact (congrArg wantsDownloadOnPathAvailableFrom hsame).trans
          h.waiting
  | acknowledge resetState failureState =>
      exact ⟨h.messages, hpaths, rfl⟩
  | cancel =>
      exact ⟨cancel_messageRequests.trans h.messages, hpaths, rfl⟩
  | cleanLinks nowMs =>
      refine ⟨(cleanLinks_queues nowMs).2.trans h.messages, hpaths, ?_⟩
      exact cleanLinks_waiting h.waiting nowMs
  | setNode destinationHash =>
      obtain ⟨_, hmessages, hwaiting⟩ :=
        setOutboundPropagationNode_queues (r := a.router) destinationHash
      exact ⟨hmessages.trans h.messages, hpaths,
        hwaiting.trans h.waiting⟩
  | setLink linkId nowMs => exact ⟨h.messages, hpaths, h.waiting⟩
  | linkEvents events nowMs => exact ⟨h.messages, hpaths, h.waiting⟩
  | processMessageRequests => exact ⟨rfl, hpaths, h.waiting⟩
  | popPathRequest => exact ⟨h.messages, hpaths, h.waiting⟩
  | directory f => exact ⟨h.messages, hpaths, h.waiting⟩

theorem Quiet.yieldedBy_eq (h : a.Quiet) {events : List DownloadEvent}
    (hasks : ∀ e ∈ events, ¬ Asks e) : yieldedBy P events a = [] := by
  induction events generalizing a with
  | nil => rfl
  | cons e events ih =>
      have hrest := ih (h.download (P := P) (hasks e List.mem_cons_self))
        fun other hother => hasks other (List.mem_cons_of_mem _ hother)
      unfold yieldedBy
      rw [h.yielded_eq, hrest]
      rfl

/-- A download's path request comes out after those before it. -/
theorem yieldedBy_pops (h : true ∈ a.asked) :
    ∃ n, yieldedBy P (List.replicate n .popPathRequest) a ≠ [] := by
  obtain ⟨before, after, hasked⟩ := List.append_of_mem h
  induction before generalizing a with
  | nil =>
      refine ⟨1, ?_⟩
      have hlen := a.length_asked
      rw [hasked] at hlen
      cases hqueue : a.router.pnPathRequests with
      | nil =>
          rw [hqueue] at hlen
          cases hlen
      | cons nodeHash queue =>
          show a.yielded .popPathRequest ++ [] ≠ []
          unfold yielded popPnPathRequest
          rw [hasked, hqueue]
          exact nofun
  | cons flag before ih =>
      have htail : (a.download P .popPathRequest).asked
          = before ++ true :: after := by
        show a.asked.tail = _
        rw [hasked]
        rfl
      obtain ⟨n, hn⟩ := ih (by rw [htail]; simp) htail
      refine ⟨n + 1, fun hnil => hn ?_⟩
      exact (List.append_eq_nil_iff.mp hnil).2

/-- While nothing waits, nothing of a download comes out exactly when
nothing is queued. -/
theorem quiet_iff (P : Platform)
    (hwaiting : a.router.wantsDownloadOnPathAvailableFrom = none) :
    (∀ events, (∀ e ∈ events, ¬ Asks e) → yieldedBy P events a = [])
      ↔ a.Quiet := by
  constructor
  · intro h
    refine ⟨?_, fun flag hflag => ?_, hwaiting⟩
    · have hnil := h [.processMessageRequests]
        fun e he => List.mem_singleton.mp he ▸ id
      exact List.map_eq_nil_iff.mp (List.append_eq_nil_iff.mp hnil).1
    · cases flag with
      | false => rfl
      | true =>
          obtain ⟨n, hn⟩ := yieldedBy_pops (P := P) hflag
          refine absurd (h _ fun e he => ?_) hn
          exact List.eq_of_mem_replicate he ▸ id
  · exact fun hquiet events hasks => hquiet.yieldedBy_eq hasks

theorem quiet_cancel_iff (P : Platform) (a : Attributed σ) :
    (a.download P .cancel).Quiet
      ↔ a.router.pnMessageRequests = []
        ∧ ∀ flag ∈ a.asked, flag = false := by
  have hmessages : (a.download P .cancel).router.pnMessageRequests
      = a.router.pnMessageRequests := cancel_messageRequests
  constructor
  · intro h
    have hpaths := h.paths
    rw [asked_download] at hpaths
    exact ⟨hmessages.symm.trans h.messages, hpaths⟩
  · intro h
    exact ⟨hmessages.trans h.1, paths_download h.2 id, rfl⟩

/-- From a cancel on, until something asks again, nothing of a download
comes out, exactly when no message request was queued and no queued path
request was a download's. -/
theorem cancelled_quiet_iff (P : Platform) (a : Attributed σ) :
    (∀ events, (∀ e ∈ events, ¬ Asks e) →
        yieldedBy P events (a.download P .cancel) = [])
      ↔ a.router.pnMessageRequests = []
        ∧ ∀ flag ∈ a.asked, flag = false :=
  (quiet_iff P rfl).trans (quiet_cancel_iff P a)

end Attributed

section Instance

open Reference

def docIdentity : Hash16 := List.Vector.replicate 16 0x33
def docPropagationNode : Hash16 := List.Vector.replicate 16 0x55

/-- A request that has to wait for a path. -/
def docWaiting : List DownloadEvent :=
  [.setNode (some docPropagationNode), .request docIdentity none 0]

theorem waits_consistently_throughout_iff_doc :
    (docWaiting.foldl (download platform)
        docNode).propagationTransferState = prPathRequested
      ∧ (docWaiting.foldl (download platform)
        docNode).WaitsConsistently := by
  refine ⟨by decide +kernel, ?_⟩
  refine ((waits_consistently_throughout_iff platform rfl docWaiting).mpr
    ?_ docWaiting List.prefix_rfl).1
  intro done e hprefix
  have hlen := hprefix.length_le
  match done, hprefix, hlen with
  | [], hprefix, _ =>
      obtain ⟨rest, hrest⟩ := hprefix
      injection hrest with he _
      subst he
      exact id
  | [first], hprefix, _ =>
      obtain ⟨rest, hrest⟩ := hprefix
      injection hrest with hfirst hrest
      injection hrest with he _
      subst hfirst he
      exact fun hboth => hboth.2.2 rfl
  | _ :: _ :: _, _, hlen =>
      simp [docWaiting] at hlen

/-- A link opens, and a second request goes out through it. -/
def docOvertaking : List DownloadEvent :=
  docWaiting ++ [.setLink docPropagationNode 1, .request docIdentity none 2]

/-- The second request is sent, and ten seconds after the first one the
poll overwrites its state. -/
theorem sent_request_overwritten :
    ¬ (docOvertaking.foldl (download platform) docNode).WaitsConsistently
    ∧ (docOvertaking.foldl (download platform)
        docNode).propagationTransferState = prRequestSent
    ∧ ((docOvertaking.foldl (download platform)
        docNode).pollPathRequestTimeout 10000).2.propagationTransferState
      = prNoPath := by
  refine ⟨fun h => ?_, by decide +kernel, by decide +kernel⟩
  have hstate := (h docPropagationNode (by decide +kernel)).1
  revert hstate
  decide +kernel

/-- A router that was just built, after these events. -/
noncomputable def docAttributed (events : List DownloadEvent) :
    Attributed InMemoryStore :=
  events.foldl (Attributed.download platform) ⟨docNode, [], rfl⟩

/-- Both requests come out of their queues after a cancel. -/
theorem cancelled_requests_yielded :
    Attributed.yieldedBy platform [.popPathRequest, .processMessageRequests]
        ((docAttributed docOvertaking).download platform .cancel)
      = [.path docPropagationNode,
         .messages docPropagationNode docIdentity (some 0)] := by
  decide +kernel

end Instance

end LxmfRouter

end Lxmf
