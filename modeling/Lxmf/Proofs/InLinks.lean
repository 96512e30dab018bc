/-
How long an incoming link lives.

# Hearing

A node hears a link when it answers its request, when data decrypt under
its key, and when a keep-alive comes for it (`hears`). Nothing else
renews it, and only `handle_check_links` takes it away: the incoming
links are a table of leases.

# What follows

After a check a link is there exactly when it was heard in the last
twenty seconds (`checked_iff`). And while it is there its request is not
answered again: two answers under one id are more than twenty seconds
apart (`answers_far_apart`), however often the request is repeated.
-/
import Lxmf.Library.Leases
import Lxmf.Library.Run
import Lxmf.Proofs.Link
import Lxmf.Proofs.Node
import Lxmf.ReferenceCrypto

namespace Lxmf.Reticulum

open Leases (Held Records Swept Tells)
open TransportHandler

variable {C : Crypto}

-- ============================================================== hearing

/-- A packet that renews a link. -/
def hears (C : Crypto) (link : Link) (packet : Packet) : Bool :=
  decide (packet.destination = link.id) &&
    if packet.context = .keepAlive then
      decide (packet.data.bytes.head? = some 0xff
        ∨ packet.data.bytes.head? = some 0xfe)
    else (link.decrypt C packet.data.bytes).isOk

theorem handlePacket_fst {link : Link} {packet : Packet} {now : Nat}
    (htype : packet.header.packetType = .data) :
    (link.handlePacket C packet now).1
      = if hears C link packet then { link with requestTime := now }
        else link := by
  unfold Link.handlePacket hears
  by_cases hid : packet.destination = link.id
  · rw [if_neg (by rw [hid]; exact fun h => h rfl), htype,
      decide_eq_true hid, Bool.true_and]
    simp only [Link.handleDataPacket]
    by_cases hcontext : packet.context = .keepAlive
    · rw [if_pos hcontext, if_pos hcontext]
      split
      case h_1 hbytes => simp [hbytes]
      case h_2 hbytes => simp [hbytes]
      case h_3 hff hfe =>
        rw [if_neg]
        rw [decide_eq_true_iff]
        rintro (hhead | hhead)
        · exact hff _ (List.eq_cons_of_mem_head? hhead)
        · exact hfe _ (List.eq_cons_of_mem_head? hhead)
    · rw [if_neg hcontext, if_neg hcontext]
      cases link.decrypt C packet.data.bytes with
      | ok text => rfl
      | error e => rfl
  · rw [if_pos hid, decide_eq_false hid]
    rfl

/-- The id that a step hears. -/
def heard (C : Crypto) (node : Node) (now : Nat) : Event → Option Hash16
  | .receive message draws =>
      match message.packet.header.packetType with
      | .linkRequest =>
          (node.handler.acceptRequest C message.packet draws.secret
            now).map (·.id)
      | .data =>
          if message.packet.header.destinationType = .link then
            match node.handler.inLinks.lookup message.packet.destination with
            | some link =>
                if hears C link message.packet then
                  some message.packet.destination
                else none
            | none => none
          else none
      | _ => none
  | _ => none

-- ============================================================= the table

namespace Node

/-- The incoming links by the time they were heard last. -/
def held (node : Node) : Held Hash16 := fun id time =>
  ∃ link, node.handler.inLinks.lookup id = some link
    ∧ link.requestTime = time

theorem held_congr {node node' : Node}
    (h : node'.handler.inLinks = node.handler.inLinks) (id : Hash16)
    (time : Nat) : node'.held id time ↔ node.held id time := by
  unfold held
  rw [h]

/-- The link of an answer is recorded under its id. -/
theorem accept_records {node : Node} {message : RxMessage} {draws : Draws}
    {now : Nat} {link : Link}
    (htype : message.packet.header.packetType = .linkRequest)
    (haccept : node.handler.acceptRequest C message.packet draws.secret now
      = some link) (htime : link.requestTime = now) :
    Records link.id now node.held
      (Node.held { node with
        handler := (node.handler.receive C message draws now).1 }) := by
  have hinLinks : (node.handler.receive C message draws now).1.inLinks
      = node.handler.inLinks.insert link.id
          { link with status := .active } := by
    show (node.handler.handlePacket C message.packet draws now).1.inLinks = _
    unfold TransportHandler.handlePacket
    rw [htype]
    simp only [handleLinkRequest, haccept]
    rw [Link.prove_fst]
  constructor
  · refine ⟨{ link with status := .active }, ?_, htime⟩
    rw [hinLinks, AList.lookup_insert]
  · rintro time ⟨found, hfound, rfl⟩
    rw [hinLinks, AList.lookup_insert] at hfound
    injection hfound with hfound
    rw [← hfound]
    exact .inl htime
  · intro id hid time
    unfold held
    rw [hinLinks, AList.lookup_insert_ne hid]

/-- A data packet changes the link of its destination, if there is one. -/
theorem lookup_handleIncoming (h : TransportHandler) (packet : Packet)
    (now : Nat) (id : Hash16) :
    (h.handleIncoming C packet now).1.lookup id
      = (h.inLinks.lookup id).map fun link =>
          if id = packet.destination then (link.handlePacket C packet now).1
          else link := by
  unfold handleIncoming
  split
  case h_1 link hlink =>
    simp only
    rw [HashMap.lookup_mapValues, visitIncoming_fst]
    by_cases hid : id = packet.destination
    · subst hid
      rw [hlink]
      simp only [Option.map_some, if_true]
    · simp only [if_neg hid]
  case h_2 hnone =>
    by_cases hid : id = packet.destination
    · subst hid
      rw [hnone]
      rfl
    · simp only [if_neg hid, Option.map_id']

theorem receive_data_inLinks {node : Node} {message : RxMessage}
    (draws : Draws) {now : Nat}
    (htype : message.packet.header.packetType = .data)
    (hlink : message.packet.header.destinationType = .link) :
    (node.handler.receive C message draws now).1.inLinks
      = (node.handler.handleIncoming C message.packet now).1 := by
  show (node.handler.handlePacket C message.packet draws now).1.inLinks = _
  unfold TransportHandler.handlePacket
  rw [htype]
  simp only [handleData]
  rw [if_pos hlink]

/-- Data that a link hears renew it. -/
theorem hear_records {node : Node} {message : RxMessage} {draws : Draws}
    {now : Nat} {link : Link}
    (htype : message.packet.header.packetType = .data)
    (hdest : message.packet.header.destinationType = .link)
    (hlink : node.handler.inLinks.lookup message.packet.destination
      = some link) (hhears : hears C link message.packet) :
    Records message.packet.destination now node.held
      (Node.held { node with
        handler := (node.handler.receive C message draws now).1 }) := by
  have hlookup (id : Hash16) := by
    have hincoming := lookup_handleIncoming (C := C) node.handler
      message.packet now id
    rwa [← receive_data_inLinks draws htype hdest] at hincoming
  have hself : (node.handler.receive C message draws now).1.inLinks.lookup
      message.packet.destination
      = some { link with requestTime := now } := by
    rw [hlookup, hlink, Option.map_some, if_pos rfl,
      handlePacket_fst htype, if_pos hhears]
  constructor
  · exact ⟨_, hself, rfl⟩
  · rintro time ⟨found, hfound, rfl⟩
    replace hfound : (node.handler.receive C message draws
      now).1.inLinks.lookup message.packet.destination = some found := hfound
    rw [hself] at hfound
    injection hfound with hfound
    rw [← hfound]
    exact .inl rfl
  · intro id hid time
    have hother : (node.handler.receive C message draws now).1.inLinks.lookup
        id = node.handler.inLinks.lookup id := by
      rw [hlookup]
      simp only [if_neg hid, Option.map_id']
    unfold held
    rw [hother]

/-- A packet that no incoming link hears changes none of them. -/
theorem unheard_inLinks {node : Node} {message : RxMessage} {draws : Draws}
    {now : Nat} (hheard : heard C node now (.receive message draws) = none)
    (id : Hash16) :
    (node.handler.receive C message draws now).1.inLinks.lookup id
      = node.handler.inLinks.lookup id := by
  cases htype : message.packet.header.packetType with
  | announce =>
      show (node.handler.handlePacket C message.packet draws
        now).1.inLinks.lookup id = _
      unfold TransportHandler.handlePacket
      rw [htype]
      simp only [handleAnnounce]
      split
      case h_1 => split <;> rfl
      case h_2 => rfl
  | proof =>
      show (node.handler.handlePacket C message.packet draws
        now).1.inLinks.lookup id = _
      unfold TransportHandler.handlePacket
      rw [htype]
      rfl
  | linkRequest =>
      simp only [heard, htype] at hheard
      have haccept := Option.map_eq_none_iff.mp hheard
      show (node.handler.handlePacket C message.packet draws
        now).1.inLinks.lookup id = _
      unfold TransportHandler.handlePacket
      rw [htype]
      simp only [handleLinkRequest, haccept]
  | data =>
      simp only [heard, htype] at hheard
      by_cases hdest : message.packet.header.destinationType = .link
      · rw [if_pos hdest] at hheard
        rw [receive_data_inLinks draws htype hdest, lookup_handleIncoming]
        by_cases hid : id = message.packet.destination
        · subst hid
          cases hlink : node.handler.inLinks.lookup
              message.packet.destination with
          | none => rfl
          | some link =>
              rw [hlink] at hheard
              simp only at hheard
              have hdeaf : hears C link message.packet = false := by
                by_contra hhears
                rw [if_pos (eq_true_of_ne_false hhears)] at hheard
                cases hheard
              rw [Option.map_some, if_pos rfl, handlePacket_fst htype,
                if_neg (by rw [hdeaf]; exact Bool.false_ne_true)]
        · simp only [if_neg hid, Option.map_id']
      · show (node.handler.handlePacket C message.packet draws
          now).1.inLinks.lookup id = _
        unfold TransportHandler.handlePacket
        rw [htype]
        simp only [handleData]
        rw [if_neg hdest]

/-- A check sweeps the links that were not heard for twenty seconds. -/
theorem check_swept (node : Node) (now : Nat) :
    Swept intervalInputLinkCleanup now node.held
      (Node.held { node with
        handler := (node.handler.handleCheckLinks C now).1 }) := by
  intro id time
  have hinLinks : (node.handler.handleCheckLinks C now).1.inLinks.lookup id
      = (node.handler.inLinks.lookup id).filter
          fun link => !isIdle now link := by
    show (node.handler.inLinks.retain _).lookup id = _
    rw [HashMap.lookup_retain]
  unfold held
  constructor
  · rintro ⟨link, hlink, rfl⟩
    replace hlink : (node.handler.handleCheckLinks C now).1.inLinks.lookup id
      = some link := hlink
    rw [hinLinks, Option.filter_eq_some_iff] at hlink
    refine ⟨⟨link, hlink.1, rfl⟩, ?_⟩
    have hidle := hlink.2
    unfold isIdle Link.elapsed at hidle
    rw [Bool.not_eq_true', decide_eq_false_iff_not] at hidle
    exact Nat.not_lt.mp hidle
  · rintro ⟨⟨link, hlink, rfl⟩, hrecent⟩
    refine ⟨link, ?_, rfl⟩
    show (node.handler.handleCheckLinks C now).1.inLinks.lookup id = _
    rw [hinLinks, Option.filter_eq_some_iff]
    refine ⟨hlink, ?_⟩
    unfold isIdle Link.elapsed
    rw [Bool.not_eq_true', decide_eq_false_iff_not]
    exact Nat.not_lt.mpr hrecent

theorem step_receive {node node' : Node} {now : Nat} {message : RxMessage}
    {draws : Draws} {effects : List Effect}
    (hstep : node.step C now (.receive message draws)
      = .ok (node', effects)) :
    node' = { node with
      handler := (node.handler.receive C message draws now).1 } := by
  injection hstep with hstep
  exact (Prod.mk.inj hstep).1.symm

/-- A step that hears an id records it. -/
theorem step_records {node node' : Node} {now : Nat} {event : Event}
    {effects : List Effect} {id : Hash16}
    (hstep : node.step C now event = .ok (node', effects))
    (hheard : heard C node now event = some id) :
    Records id now node.held node'.held := by
  cases event with
  | receive message draws =>
      rw [step_receive hstep]
      cases htype : message.packet.header.packetType with
      | linkRequest =>
          simp only [heard, htype] at hheard
          obtain ⟨link, haccept, rfl⟩ := Option.map_eq_some_iff.mp hheard
          refine accept_records htype haccept ?_
          obtain ⟨_, _, _, _, hlink⟩ := acceptRequest_eq_some haccept
          obtain ⟨-, -, -, -, -, htime, -⟩ := Link.newFromRequest_eq_ok hlink
          exact htime
      | data =>
          simp only [heard, htype] at hheard
          split at hheard
          case isTrue hdest =>
            split at hheard
            case h_1 link hlink =>
              split at hheard
              case isTrue hhears =>
                injection hheard with hheard
                subst hheard
                exact hear_records htype hdest hlink hhears
              case isFalse => cases hheard
            case h_2 => cases hheard
          case isFalse => cases hheard
      | announce =>
          simp only [heard, htype] at hheard
          cases hheard
      | proof =>
          simp only [heard, htype] at hheard
          cases hheard
  | _ => cases hheard

/-- A step that hears nothing, and is no check, leaves the table as it
is. -/
theorem step_held {node node' : Node} {now : Nat} {event : Event}
    {effects : List Effect}
    (hstep : node.step C now event = .ok (node', effects))
    (hheard : heard C node now event = none) (hcheck : event ≠ .checkLinks)
    (id : Hash16) (time : Nat) : node'.held id time ↔ node.held id time := by
  cases step_cases hstep with
  | receive message draws =>
      unfold held
      rw [unheard_inLinks hheard]
  | checkLinks => exact absurd rfl hcheck
  | link destination => exact held_congr (by rw [lookUp_handler]) id time
  | request call identity =>
      exact held_congr (request_handler ..).2 id time
  | insert call => exact held_congr (insert_inLinks ..) id time
  | closeLink key => exact held_congr (closeLink_inLinks ..) id time
  | other _ _ _ hsame => exact held_congr hsame.inLinks id time

end Node

-- ============================================================== the runs

/-- A node, the time of its last step, and when it heard each link
last. -/
structure Watched where
  node : Node
  now : Nat
  latest : Hash16 → Option Nat

namespace Watched

def new (broadcast : Bool) : Watched := ⟨.new broadcast, 0, fun _ => none⟩

def record (w : Watched) (now : Nat) : Option Hash16 → Hash16 → Option Nat
  | some id => Function.update w.latest id (some now)
  | none => w.latest

/-- A step, not before the last one. -/
def apply (C : Crypto) (timed : Nat × Event) (w : Watched) :
    Option Watched :=
  if w.now ≤ timed.1 then
    match w.node.step C timed.1 timed.2 with
    | .ok (node', _) => some ⟨node', timed.1,
        w.record timed.1 (heard C w.node timed.1 timed.2)⟩
    | .error _ => none
  else none

theorem apply_eq_some {timed : Nat × Event} {w w' : Watched}
    (h : w.apply C timed = some w') :
    w.now ≤ timed.1 ∧ ∃ node' effects,
      w.node.step C timed.1 timed.2 = .ok (node', effects)
        ∧ w' = ⟨node', timed.1,
            w.record timed.1 (heard C w.node timed.1 timed.2)⟩ := by
  unfold apply at h
  split at h
  case isTrue hle =>
    split at h
    case h_1 node' effects hstep =>
      injection h with h
      exact ⟨hle, node', effects, hstep, h.symm⟩
    case h_2 => cases h
  case isFalse => cases h

/-- The history tells what the table holds. -/
def Known (w : Watched) : Prop :=
  Tells w.latest w.node.held intervalInputLinkCleanup w.now

theorem known_new (broadcast : Bool) : (new broadcast).Known :=
  (Leases.tells_empty intervalInputLinkCleanup 0).congr
    fun id time => by
      constructor
      · rintro ⟨link, hlink, -⟩
        cases hlink
      · exact False.elim

theorem known_apply {timed : Nat × Event} {w w' : Watched}
    (hknown : w.Known) (h : w.apply C timed = some w') : w'.Known := by
  obtain ⟨hle, node', effects, hstep, rfl⟩ := apply_eq_some h
  have hlater := Tells.later hknown hle
  show Tells (w.record timed.1 _) node'.held _ timed.1
  cases hheard : heard C w.node timed.1 timed.2 with
  | some id => exact hlater.record (Node.step_records hstep hheard)
  | none =>
      by_cases hcheck : timed.2 = .checkLinks
      · rw [hcheck] at hstep
        injection hstep with hstep
        rw [← (Prod.mk.inj hstep).1]
        exact hlater.sweep (Node.check_swept w.node timed.1)
      · exact hlater.congr (Node.step_held hstep hheard hcheck)

theorem known_of_reaches {broadcast : Bool} {w : Watched}
    (h : Run.Reaches (apply C) (fun _ _ => True) (new broadcast) w) :
    w.Known :=
  h.invariant (known_new broadcast) fun _ _ _ hknown _ happly =>
    known_apply hknown happly

/-- After a check an incoming link is there exactly when it was heard in
the twenty seconds before. -/
theorem checked_iff {broadcast : Bool} {w w' : Watched} {now : Nat}
    (hreach : Run.Reaches (apply C) (fun _ _ => True) (new broadcast) w)
    (hcheck : w.apply C (now, .checkLinks) = some w') (id : Hash16) :
    id ∈ w'.node.handler.inLinks
      ↔ ∃ last, w.latest id = some last ∧ now - last ≤ 20 * 1000 := by
  obtain ⟨hle, node', effects, hstep, rfl⟩ := apply_eq_some hcheck
  injection hstep with hstep
  have hnode := (Prod.mk.inj hstep).1
  have hiff := ((known_of_reaches hreach).later hle).held_iff
    (Node.check_swept (C := C) w.node now) id
  rw [← hiff, HashMap.mem_iff_lookup, ← hnode]
  constructor
  · rintro ⟨link, hlink⟩
    exact ⟨link.requestTime, link, hlink, rfl⟩
  · rintro ⟨time, link, hlink, -⟩
    exact ⟨link, hlink⟩

open Reference

/-- A server answers a request. -/
noncomputable def docServed : List (Nat × Event) :=
  [(0, .addDestination server), (40, .receive request drawn)]

theorem checked_iff_doc :
    ∃ w w', Run.Reaches (apply crypto) (fun _ _ => True) (new false) w
      ∧ w.apply crypto (20039, .checkLinks) = some w'
      ∧ (askedLink.id ∈ w'.node.handler.inLinks
        ↔ ∃ last, w.latest askedLink.id = some last
          ∧ 20039 - last ≤ 20 * 1000) := by
  obtain ⟨w, hrun⟩ : ∃ w, Run.run (apply crypto) docServed (new false)
      = some w := ⟨_, rfl⟩
  obtain ⟨w', hcheck⟩ : ∃ w', (Run.run (apply crypto) docServed
      (new false)).bind (apply crypto (20039, .checkLinks)) = some w' :=
    ⟨_, rfl⟩
  rw [hrun, Option.bind_some] at hcheck
  have hreach : Run.Reaches (apply crypto) (fun _ _ => True) (new false) w :=
    Run.reaches_of_run (fun _ _ _ => trivial) hrun
  exact ⟨w, w', hreach, hcheck, checked_iff hreach hcheck askedLink.id⟩

/-- While a link is heard, its request is not answered again: what was
heard under the id of an answer, an earlier answer or anything since, is
more than twenty seconds ago. -/
theorem answers_far_apart {broadcast : Bool} {w : Watched} {now : Nat}
    {message : RxMessage} {draws : Draws} {link : Link}
    (hreach : Run.Reaches (apply C) (fun _ _ => True) (new broadcast) w)
    (hnow : w.now ≤ now)
    (hanswer : w.node.handler.acceptRequest C message.packet draws.secret
      now = some link) {last : Nat} (hlast : w.latest link.id = some last) :
    20 * 1000 < now - last := by
  have hknown := (known_of_reaches hreach).later hnow
  refine (hknown.newest _ _ hlast).resolve_left ?_
  rintro ⟨found, hfound, -⟩
  obtain ⟨_, _, _, hnew, hlink⟩ := acceptRequest_eq_some hanswer
  obtain ⟨-, hid, -⟩ := Link.newFromRequest_eq_ok hlink
  rw [hid] at hfound
  exact hnew (HashMap.mem_iff_lookup.mpr ⟨found, hfound⟩)

/-- The request comes once more, after the link was swept. -/
theorem answers_far_apart_doc :
    ∃ w link, Run.Reaches (apply crypto) (fun _ _ => True) (new false) w
      ∧ w.node.handler.acceptRequest crypto request.packet drawn.secret
          20042 = some link
      ∧ w.latest link.id = some 40
      ∧ 20 * 1000 < 20042 - 40 := by
  have hanswer : (Run.run (apply crypto)
      (docServed ++ [(20041, .checkLinks)]) (new false)).map
        (fun w => decide (w.now ≤ 20042)
          && (w.node.handler.acceptRequest crypto request.packet
            drawn.secret 20042).any
              fun link => decide (w.latest link.id = some 40))
      = some true := by decide +kernel
  obtain ⟨w, hrun, hfacts⟩ := Option.map_eq_some_iff.mp hanswer
  rw [Bool.and_eq_true, decide_eq_true_iff, Option.any_eq_true] at hfacts
  obtain ⟨hnow, link, haccept, hlast⟩ := hfacts
  rw [decide_eq_true_iff] at hlast
  have hreach : Run.Reaches (apply crypto) (fun _ _ => True) (new false) w :=
    Run.reaches_of_run (fun _ _ _ => trivial) hrun
  exact ⟨w, link, hreach, haccept, hlast,
    answers_far_apart hreach hnow haccept hlast⟩

end Watched

end Lxmf.Reticulum
