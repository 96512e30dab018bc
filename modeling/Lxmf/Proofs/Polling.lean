/-
Which events of its links a router gets to handle.

# In order, or missed

Of the events that the node's steps sent in either direction a router
handles some, each once and in their order. What it does not handle
although it is past it, it has missed, because more than sixteen were
unread (`events_accounted`).

# Missing one is missing all

A loop of `poll_inbound` ends with the first read that fails, and a read
that tells of missed events fails. It leaves the channel full, so that one
more event before the next poll makes that one's first read fail again: a
router that has missed events hears nothing more of that direction, until
a poll finds that nothing happened since the last (`lagging_hears_nothing`).
-/
import Lxmf.Polling
import Lxmf.ReferenceCrypto

namespace Lxmf.Reticulum.PolledNode

open Broadcast (Channel positions positions_lawful takenOf missedOf)

variable {C : Crypto} {B : LinkEventChannel}
variable {unread : B.Receiver → List LinkEventData}
variable {s s' start : PolledNode B} {side : Side}

-- ================================================================ steps

/-- What an action does to the events of one direction: a step of the
node sends some, a read of theirs takes its turn, or nothing happens to
them. -/
theorem apply_cases {action : Action} (h : apply C action s = some s')
    (side : Side) :
    (∃ node effects, s' = s.posting node effects)
      ∨ action = .next ∧ s.reading = some side ∧ s' = s.look side
      ∨ s'.events side = s.events side ∧ s'.posted side = s.posted side
        ∧ s'.handled side = s.handled side
        ∧ s'.missed side = s.missed side ∧ s'.fresh side = s.fresh side := by
  cases action with
  | node now event =>
      simp only [apply] at h
      split at h
      case h_1 node effects _ =>
        injection h with h
        exact .inl ⟨node, effects, h.symm⟩
      case h_2 => cases h
  | poll =>
      simp only [apply] at h
      split at h
      case isTrue =>
        injection h with h
        subst h
        exact .inr (.inr ⟨rfl, rfl, rfl, rfl, rfl⟩)
      case isFalse => cases h
  | next =>
      obtain ⟨side', hreading, rfl⟩ := Option.map_eq_some_iff.mp h
      by_cases hside : side = side'
      · subst hside
        exact .inr (.inl ⟨rfl, hreading, rfl⟩)
      · exact .inr (.inr ⟨Function.update_of_ne hside .., rfl,
          Function.update_of_ne hside .., Function.update_of_ne hside ..,
          Function.update_of_ne hside ..⟩)

-- ========================================================== the account

/-- What was sent is handled, in order, unread or counted as missed. -/
structure Accounted (unread : B.Receiver → List LinkEventData)
    (side : Side) (s : PolledNode B) : Prop where
  inOrder : (s.handled side ++ unread (s.events side)).Sublist
    (s.posted side)
  counted : (s.handled side).length + s.missed side
      + (unread (s.events side)).length
    = (s.posted side).length

theorem Accounted.look (hB : B.Lawful unread)
    (h : s.Accounted unread side) : (s.look side).Accounted unread side := by
  constructor
  · have hread := hB.tryRecv_sublist (s.events side)
    unfold PolledNode.look
    simp only [Function.update_self]
    rw [List.append_assoc]
    exact (hread.append_left _).trans h.inOrder
  · have hread := hB.tryRecv_counted (s.events side)
    have hcounted := h.counted
    unfold PolledNode.look
    simp only [Function.update_self, List.length_append]
    omega

theorem Accounted.posting (hB : B.Lawful unread)
    (h : s.Accounted unread side) (node : Node) (effects : List Effect) :
    (s.posting node effects).Accounted unread side := by
  have hsent : unread ((s.posting node effects).events side)
      = unread (s.events side) ++ side.postedOf effects := hB.sendAll ..
  constructor
  · show (s.handled side ++ _).Sublist
      (s.posted side ++ side.postedOf effects)
    rw [hsent, ← List.append_assoc]
    exact h.inOrder.append_right _
  · have hcounted := h.counted
    rw [hsent, List.length_append]
    show (s.handled side).length + s.missed side + _
      = (s.posted side ++ side.postedOf effects).length
    rw [List.length_append]
    omega

/-- A loop that ends and missed nothing has found nothing unread. -/
theorem look_ended (hB : B.Lawful unread)
    (hreading : s.reading = some side)
    (hended : (s.look side).reading ≠ some side)
    (hmissed : (s.look side).missed side = s.missed side) :
    unread ((s.look side).events side) = [] := by
  have hread : (s.look side).events side = (B.tryRecv (s.events side)).2 :=
    Function.update_self ..
  have hmissedOf : missedOf (B.tryRecv (s.events side)).1 = 0 := by
    unfold PolledNode.look at hmissed
    simp only [Function.update_self] at hmissed
    omega
  rw [hread]
  rcases hB.tryRecv_cases (s.events side) with ⟨value, -, hok⟩
    | ⟨dropped, hunread, hlagged, hlag⟩ | ⟨-, hempty, -⟩
  · refine absurd ?_ hended
    unfold PolledNode.look
    simp only [hok, hreading]
  · -- a read that lags drops something
    rw [hlagged] at hmissedOf
    have hnone : dropped.length = 0 := hmissedOf
    have hkept := hB.length_unread_lagged hlag
    have hlength := congrArg List.length hunread
    rw [List.length_append, hnone, hkept] at hlength
    omega
  · exact hempty

/-- No more than sixteen events of the direction are unread when one is
read. -/
def KeepsUp (unread : B.Receiver → List LinkEventData) (side : Side)
    (s : PolledNode B) : Action → Prop
  | .next => s.reading = some side →
      (unread (s.events side)).length ≤ linkEventCapacity
  | .node _ _ => True
  | .poll => True

/-- A router that keeps up misses nothing. -/
theorem missed_of_keepsUp {node : Node} (hB : B.Lawful unread)
    (hreach : Run.Reaches (apply C) (KeepsUp unread side)
      (subscribed B node) s) : s.missed side = 0 := by
  have hstep (s : PolledNode B) (action : Action) (s' : PolledNode B)
      (h : s.missed side = 0) (hkept : KeepsUp unread side s action)
      (happly : apply C action s = some s') : s'.missed side = 0 := by
    rcases apply_cases happly side with ⟨node, effects, rfl⟩
      | ⟨rfl, hreading, rfl⟩ | ⟨-, -, -, hmissed, -⟩
    · exact h
    · show Function.update s.missed side _ side = 0
      rw [Function.update_self, h, hB.missedOf_kept (hkept hreading)]
    · exact hmissed.trans h
  exact @Run.Reaches.invariant _ _ _ _ (fun s => s.missed side = 0) _ _
    hreach rfl hstep

/-- Of the events that a node's steps sent in either direction a router
handles some, each once and in the order in which they were sent; what it
is past without having handled it, it missed. If it missed none, and it
misses none as long as it keeps up, it has handled all but those it has
yet to read; a loop that ends without missing any leaves none of these. -/
theorem events_accounted {node : Node} (hB : B.Lawful unread)
    (hreach : Run.Reaches (apply C) (fun _ _ => True)
      (subscribed B node) s)
    (side : Side) :
    (s.handled side ++ unread (s.events side)).Sublist (s.posted side)
      ∧ (s.handled side).length + s.missed side
          + (unread (s.events side)).length
        = (s.posted side).length
      ∧ (s.missed side = 0
        → s.handled side ++ unread (s.events side) = s.posted side)
      ∧ (Run.Reaches (apply C) (KeepsUp unread side) (subscribed B node) s
        → s.missed side = 0)
      ∧ ∀ s', apply C .next s = some s' → s.reading = some side
        → s'.reading ≠ some side → s'.missed side = s.missed side
        → unread (s'.events side) = [] := by
  have hall : s.Accounted unread side := by
    refine hreach.invariant ?_ ?_
    · have hnone : unread ((subscribed B node).events side) = [] :=
        hB.subscribe
      constructor
      · rw [hnone]
        exact .refl _
      · rw [hnone]
        rfl
    intro s action s' h _ happly
    rcases apply_cases happly side with ⟨node, effects, rfl⟩
      | ⟨-, -, rfl⟩ | ⟨hevents, hposted, hhandled, hmissed, -⟩
    · exact h.posting hB node effects
    · exact h.look hB
    · constructor
      · rw [hevents, hposted, hhandled]
        exact h.inOrder
      · rw [hevents, hposted, hhandled, hmissed]
        exact h.counted
  refine ⟨hall.inOrder, hall.counted, fun hnone => ?_,
    missed_of_keepsUp hB, ?_⟩
  · refine hall.inOrder.eq_of_length ?_
    rw [List.length_append, ← hall.counted, hnone, Nat.add_zero]
  · intro s' happly hreading hended hmissed
    obtain rfl : s.look side = s' := by
      simpa [apply, hreading] using happly
    exact look_ended hB hreading hended hmissed

open Reference

/-- A node whose one link has been idle from the start. -/
noncomputable def docIdle : Node :=
  { Node.new true with
    handler.inLinks := (Node.new true).handler.inLinks.insert askedLink.id
      askedLink }

def docChannel : LinkEventChannel := positions _ _

def docUnread (r : docChannel.Receiver) : List LinkEventData :=
  Broadcast.Position.unread r.val

theorem docChannel_lawful : docChannel.Lawful docUnread :=
  positions_lawful _ _

/-- The link goes, and the router is told. -/
noncomputable def docTold : Option (PolledNode docChannel) :=
  Run.run (apply crypto) [.node 20001 .checkLinks, .poll, .next]
    (subscribed docChannel docIdle)

theorem events_accounted_doc :
    ∃ s, docTold = some s ∧ (s.handled .incoming).length = 1
      ∧ s.missed .incoming = 0
      ∧ s.handled .incoming ++ docUnread (s.events .incoming)
        = s.posted .incoming := by
  have hone : docTold.map (fun s =>
      decide ((s.handled .incoming).length = 1
        ∧ s.missed .incoming = 0)) = some true := by
    decide +kernel
  obtain ⟨s, hs, hone⟩ := Option.map_eq_some_iff.mp hone
  obtain ⟨hlength, hmissed⟩ := of_decide_eq_true hone
  have hreach : Run.Reaches (apply crypto) (fun _ _ => True)
      (subscribed docChannel docIdle) s :=
    Run.reaches_of_run (fun _ _ _ => trivial) hs
  exact ⟨s, hs, hlength, hmissed,
    (events_accounted docChannel_lawful hreach .incoming).2.2.1 hmissed⟩

-- ================================================================= deaf

/-- A loop of the direction reads only when an event was sent since its
last read. -/
def SentBeforeRead (side : Side) (s : PolledNode B) : Action → Prop
  | .next => s.reading = some side → s.fresh side = true
  | .node _ _ => True
  | .poll => True

instance (side : Side) (s : PolledNode B) (action : Action) :
    Decidable (SentBeforeRead side s action) :=
  match action with
  | .next => inferInstanceAs
      (Decidable (s.reading = some side → s.fresh side = true))
  | .node _ _ => .isTrue trivial
  | .poll => .isTrue trivial

/-- As many events are unread as the channel keeps, and more if one was
sent since the last read. -/
structure Full (unread : B.Receiver → List LinkEventData) (side : Side)
    (handled : List LinkEventData) (s : PolledNode B) : Prop where
  behind : linkEventCapacity ≤ (unread (s.events side)).length
  fresh : s.fresh side = true →
    linkEventCapacity < (unread (s.events side)).length
  handled : s.handled side = handled

theorem Full.look {handled : List LinkEventData} (hB : B.Lawful unread)
    (h : s.Full unread side handled) (hfresh : s.fresh side = true) :
    (s.look side).Full unread side handled := by
  have hlag := h.fresh hfresh
  constructor
  · unfold PolledNode.look
    simp only [Function.update_self]
    exact Nat.le_of_eq (hB.length_unread_lagged hlag).symm
  · unfold PolledNode.look
    simp only [Function.update_self]
    nofun
  · unfold PolledNode.look
    simp only [Function.update_self]
    rw [hB.takenOf_lagged hlag, List.append_nil]
    exact h.handled

theorem Full.posting {handled : List LinkEventData} (hB : B.Lawful unread)
    (h : s.Full unread side handled) (node : Node)
    (effects : List Effect) :
    (s.posting node effects).Full unread side handled := by
  have hbehind : (unread ((s.posting node effects).events side)).length
      = (unread (s.events side)).length
        + (side.postedOf effects).length := by
    rw [← List.length_append]
    exact congrArg _ (hB.sendAll ..)
  have hfull := h.behind
  constructor
  · rw [hbehind]
    omega
  · intro hfresh
    rw [hbehind]
    rcases Bool.or_eq_true_iff.mp hfresh with hbefore | hnow
    · have := h.fresh hbefore
      omega
    · have hpos : 0 < (side.postedOf effects).length := by
        rw [List.length_pos_iff]
        simpa using hnow
      omega
  · exact h.handled

/-- Once more than sixteen events of a direction are unread, a router
handles none of that direction for as long as one more is sent before each
poll, whatever else happens. -/
theorem lagging_hears_nothing (hB : B.Lawful unread)
    (hlag : linkEventCapacity < (unread (start.events side)).length)
    (hreach : Run.Reaches (apply C) (SentBeforeRead side) start s) :
    s.handled side = start.handled side := by
  have hall : s.Full unread side (start.handled side) := by
    refine hreach.invariant ⟨Nat.le_of_lt hlag, fun _ => hlag, rfl⟩ ?_
    intro s action s' h hfresh happly
    rcases apply_cases happly side with ⟨node, effects, rfl⟩
      | ⟨rfl, hreading, rfl⟩ | ⟨hevents, -, hhandled, -, hsame⟩
    · exact h.posting hB node effects
    · exact h.look hB (hfresh hreading)
    · constructor
      · rw [hevents]
        exact h.behind
      · rw [hevents, hsame]
        exact h.fresh
      · rw [hhandled]
        exact h.handled
  exact hall.handled

/-- The same node, with seventeen events unread. -/
noncomputable def docBehind : PolledNode docChannel :=
  { subscribed docChannel docIdle with
    events := fun _ => docChannel.sendAll docChannel.subscribe
      (List.replicate 17 (askedLink.postEvent .closed)) }

/-- One more is sent, and a poll reads. -/
noncomputable def docPolled : Option (PolledNode docChannel) :=
  Run.runWhere (apply crypto) (SentBeforeRead .incoming)
    [.node 20001 .checkLinks, .poll, .next] docBehind

theorem lagging_hears_nothing_doc :
    ∃ s, docPolled = some s
      ∧ (docUnread (s.events .incoming)).length = linkEventCapacity
      ∧ s.missed .incoming = 2 ∧ s.handled .incoming = [] := by
  have hread : docPolled.map (fun s =>
      decide ((docUnread (s.events .incoming)).length = linkEventCapacity
        ∧ s.missed .incoming = 2)) = some true := by
    decide +kernel
  obtain ⟨s, hs, hread⟩ := Option.map_eq_some_iff.mp hread
  obtain ⟨hlength, hmissed⟩ := of_decide_eq_true hread
  exact ⟨s, hs, hlength, hmissed,
    lagging_hears_nothing docChannel_lawful (by decide +kernel)
      (Run.reaches_of_runWhere hs)⟩

end Lxmf.Reticulum.PolledNode
