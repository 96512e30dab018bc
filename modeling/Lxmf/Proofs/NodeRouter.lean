/-
What nodes of routers hear from each other.

# Nothing

A router sends packets to single destinations, announces and frames over
links. A node does nothing with data for a single destination but send
them on, and announces make no link. So among nodes of routers there is
never a link: no frame of a resource is sent to anyone, and no event of a
link is posted, which is all a router reads (`routers_hear_nothing`).

# Parts

And where there are links, because a node of another kind has asked or an
application has, a part of a resource that fills its packet is too long
for any of them: the first part of a payload over 1978 bytes already is
(`part_panics_iff`).
-/
import Lxmf.NodeRouter
import Lxmf.Proofs.Destinations
import Lxmf.Proofs.Handshake
import Lxmf.Proofs.RequestIds
import Lxmf.ReferenceCrypto

namespace Lxmf.Reticulum

variable {C : Crypto}

-- ======================================================== what is sent

/-- A packet that makes no link and belongs to none. -/
structure Harmless (p : Packet) : Prop where
  headerType : p.header.headerType = .type1
  ifac : p.ifac = none
  transport : p.transport = none
  kind : p.header.packetType = .announce
    ∨ p.header.packetType = .data ∧ p.header.destinationType ≠ .link

theorem bytes_of_serialize {p : Packet} {capacity : Nat}
    {out : OutputBuffer capacity} (h : p.serialize .new = .ok out) :
    out.bytes = p.wire := by
  rw [serialize_eq] at h
  by_cases hroom : p.wire.length ≤ capacity
  · rw [@write_of_fits capacity .new p.wire (by
      show 0 + _ ≤ _
      omega)] at h
    injection h with h
    rw [← h]
    rfl
  · rw [@write_of_lt capacity .new p.wire (by
      show _ < 0 + _
      omega)] at h
    cases h

theorem Harmless.read {p p' : Packet} (h : Harmless p) {capacity : Nat}
    {out : OutputBuffer capacity} (hout : p.serialize .new = .ok out)
    (hread : Packet.deserialize out.bytes = .ok p') : p' = p := by
  rw [bytes_of_serialize hout] at hread
  exact Carried.eq hread h.headerType h.ifac h.transport

namespace RnsNodeRouter

/-- What a router can call of its transport. -/
inductive Sends : Event → Prop where
  | packet (p : Packet) : Harmless p → Sends (.send (.toAll p))
  | frame (destination : Hash16) (payload : Bytes)
      (context : PacketContext) (ivs : Hash16 → Block) :
      Sends (.sendToOutLinks destination payload context ivs)
  | action (id : Hash16) (payload : Bytes) (context : PacketContext)
      (ivs : Hash16 → Block) : Sends (.sendToLinkId id payload context ivs)
  | announce (destination : SingleInputDestination)
      (randHash : FixedBytes randHashLength) :
      Sends (.sendAnnounce destination randHash none)

theorem harmless_ofLxmf {destination : Hash16} {payload : Bytes}
    {context : Lxmf.PacketContext} {p : Lxmf.Packet}
    (h : packetFromPayloadWithContext destination payload .single context
      = .ok p) : Harmless (.ofLxmf p) := by
  unfold packetFromPayloadWithContext at h
  obtain ⟨data, -, h⟩ := Except.bind_eq_ok.mp h
  injection h with h
  subst h
  exact ⟨rfl, rfl, rfl, .inr ⟨rfl, nofun⟩⟩

theorem harmless_of_packetOrResource {destination : Hash16}
    {payload : Bytes} {msg : LXMessage} {p : Lxmf.Packet}
    (h : (deliverAsPacketOrResource destination payload msg .single).1
      = .ok (.packet p)) : Harmless (.ofLxmf p) := by
  unfold deliverAsPacketOrResource at h
  split at h
  case isTrue =>
    simp only at h
    unfold packetFromPayload at h
    cases hpacket : packetFromPayloadWithContext destination payload .single
        .none with
    | error e => rw [hpacket] at h; cases h
    | ok packet =>
        rw [hpacket] at h
        injection h with h
        injection h with h
        rw [← h]
        exact harmless_ofLxmf hpacket
  case isFalse =>
    injection h with h
    cases h

theorem harmless_of_deliver {o : RnsOutbound} {msg : LXMessage}
    {mode : DeliveryMode} {rng : OsRng} {p : Lxmf.Packet}
    (h : (o.deliver C.toPlatform msg mode rng).1 = .ok (.packet p)) :
    Harmless (.ofLxmf p) := by
  unfold RnsOutbound.deliver at h
  split at h
  case h_1 => cases h
  case h_2 =>
    split at h
    case h_1 => cases h
    case h_2 packed msg' hpacked =>
      unfold RnsOutbound.deliverPacked at h
      split at h
      case h_1 => exact harmless_of_packetOrResource h
      case h_2 => exact harmless_of_packetOrResource h
      case h_3 =>
        simp only at h
        split at h
        case h_1 => cases h
        case h_2 =>
          split at h
          case h_1 => cases h
          case h_2 => exact harmless_of_packetOrResource h
      case h_4 =>
        simp only at h
        split at h
        case h_1 => cases h
        case h_2 =>
          injection h with h
          cases h

/-- The frames of a resource. -/
theorem sends_of_sendFrames {destination : Hash16}
    {state : ResourceSendState} {ivs : Nat → Hash16 → Block} {event : Event}
    (h : event ∈ sendFrames destination state ivs) : Sends event := by
  unfold sendFrames at h
  obtain ⟨i, hi, rfl⟩ := List.mem_mapIdx.mp h
  exact .frame ..

theorem sends_of_sendResourceFrames {destination : Hash16} {payload : Bytes}
    {requestId : Option Hash16} {isResponse isRequest : Bool} {now : Nat}
    {ivs : Nat → Hash16 → Block} {events : List Event} {event : Event}
    (h : sendResourceFrames C destination payload requestId isResponse
      isRequest now ivs = .ok events) (hmem : event ∈ events) :
    Sends event := by
  unfold sendResourceFrames at h
  obtain ⟨state, -, h⟩ := Except.bind_eq_ok.mp h
  injection h with h
  rw [← h] at hmem
  exact sends_of_sendFrames hmem

theorem sends_of_sendMessage {o : RnsOutbound} {msg : LXMessage}
    {mode : DeliveryMode} {rng : OsRng} {now : Nat}
    {ivs : Nat → Hash16 → Block} {events : List Event} {event : Event}
    (h : sendMessage C o msg mode rng now ivs = .ok events)
    (hmem : event ∈ events) : Sends event := by
  unfold sendMessage at h
  obtain ⟨output, houtput, h⟩ := Except.bind_eq_ok.mp h
  unfold sendOutput at h
  split at h
  case h_1 packet =>
    injection h with h
    rw [← h] at hmem
    rw [List.mem_singleton.mp hmem]
    exact .packet _ (harmless_of_deliver houtput)
  case h_2 => exact sends_of_sendResourceFrames h hmem
  case h_3 =>
    injection h with h
    rw [← h] at hmem
    cases hmem

theorem sends_of_sendRequestToHash {destinationHash : Hash16}
    {req : RnsRequest} {now : Nat} {ivs : Nat → Hash16 → Block}
    {events : List Event} {event : Event}
    (h : sendRequestToHash C destinationHash req now ivs = .ok events)
    (hmem : event ∈ events) : Sends event := by
  unfold sendRequestToHash at h
  obtain ⟨⟨sent, req'⟩, hsent, h⟩ := Except.bind_eq_ok.mp h
  unfold Lxmf.sendRequestToHash at hsent
  obtain ⟨payload, -, hsent⟩ := Except.bind_eq_ok.mp hsent
  split at hsent
  case isTrue =>
    obtain ⟨⟨packet, req''⟩, hpacket, hsent⟩ := Except.bind_eq_ok.mp hsent
    injection hsent with hsent
    obtain ⟨rfl, -⟩ := Prod.mk.inj hsent
    unfold buildRequestPacketForHash at hpacket
    obtain ⟨payload', -, hpacket⟩ := Except.bind_eq_ok.mp hpacket
    obtain ⟨packet', hbuilt, hpacket⟩ := Except.bind_eq_ok.mp hpacket
    injection hpacket with hpacket
    obtain ⟨rfl, -⟩ := Prod.mk.inj hpacket
    injection h with h
    rw [← h] at hmem
    rw [List.mem_singleton.mp hmem]
    exact .packet _ (harmless_ofLxmf hbuilt)
  case isFalse =>
    obtain ⟨state, -, hsent⟩ := Except.bind_eq_ok.mp hsent
    injection hsent with hsent
    obtain ⟨rfl, -⟩ := Prod.mk.inj hsent
    injection h with h
    rw [← h] at hmem
    exact sends_of_sendFrames hmem

/-- A packet that is built for a single destination, and sent. -/
theorem sends_of_built {destination : Hash16} {payload : Bytes}
    {context : Lxmf.PacketContext} {events : List Event} {event : Event}
    (h : (packetFromPayloadWithContext destination payload .single context
      >>= fun packet => pure [sendPacket packet])
      = (.ok events : Except Lxmf.RnsError (List Event)))
    (hmem : event ∈ events) : Sends event := by
  obtain ⟨packet, hbuilt, h⟩ := Except.bind_eq_ok.mp h
  injection h with h
  rw [← h] at hmem
  rw [List.mem_singleton.mp hmem]
  exact .packet _ (harmless_ofLxmf hbuilt)

theorem sends_of_sendResponseToHash {destinationHash : Hash16}
    {resp : RnsResponse} {now : Nat} {ivs : Nat → Hash16 → Block}
    {events : List Event} {event : Event}
    (h : sendResponseToHash C destinationHash resp now ivs = .ok events)
    (hmem : event ∈ events) : Sends event := by
  unfold sendResponseToHash at h
  obtain ⟨payload, -, h⟩ := Except.bind_eq_ok.mp h
  split at h
  case isTrue => exact sends_of_built h hmem
  case isFalse => exact sends_of_sendResourceFrames h hmem

theorem sends_of_pollInbound {retries actions : List PolledFrame}
    {event : Event} (h : event ∈ pollInbound retries actions) :
    Sends event := by
  unfold pollInbound at h
  rcases List.mem_append.mp h with hretry | haction
  · obtain ⟨f, -, rfl⟩ := List.mem_map.mp hretry
    exact .frame ..
  · obtain ⟨f, -, rfl⟩ := List.mem_map.mp haction
    exact .action ..

theorem sends_of_call {call : Call} {events : List Event} {event : Event}
    (h : call.events C = .ok events) (hmem : event ∈ events) :
    Sends event := by
  cases call with
  | sendMessage => exact sends_of_sendMessage h hmem
  | sendResourcePayload => exact sends_of_sendResourceFrames h hmem
  | sendRequest => exact sends_of_sendRequestToHash h hmem
  | sendResponse => exact sends_of_sendResponseToHash h hmem
  | sendRequestToHash => exact sends_of_sendRequestToHash h hmem
  | sendResponseToHash => exact sends_of_sendResponseToHash h hmem
  | sendPnDirRequest =>
      obtain ⟨payload, -, h⟩ := Except.bind_eq_ok.mp h
      exact sends_of_built h hmem
  | sendPnDirResponse =>
      obtain ⟨payload, -, h⟩ := Except.bind_eq_ok.mp h
      exact sends_of_built h hmem
  | announce destination randHash =>
      injection h with h
      rw [← h] at hmem
      rw [List.mem_singleton.mp hmem]
      exact .announce ..
  | pollInbound retries actions =>
      injection h with h
      rw [← h] at hmem
      exact sends_of_pollInbound hmem

end RnsNodeRouter

-- ========================================================== quiet nodes

/-- A node without links, of either direction or on the way. -/
structure Node.Quiet (node : Node) : Prop where
  outLinks : node.handler.outLinks = ∅
  inLinks : node.handler.inLinks = ∅
  calls : node.calls = []

/-- An effect that is no event of a link, and sends nothing that could
make one. -/
def Effect.Quiet : Effect → Prop
  | .send message => Harmless message.packet
  | .inEvent _ => False
  | .outEvent _ => False
  | .announced _ _ => True
  | .received _ => True

/-- A step that a quiet node takes. -/
def QuietStep (C : Crypto) (node : Node) (now : Nat) (event : Event) :
    Prop :=
  ∃ node' effects, node.step C now event = .ok (node', effects)
    ∧ node'.Quiet ∧ ∀ effect ∈ effects, effect.Quiet

namespace Node.Quiet

open TransportHandler

variable {node : Node} {now : Nat}

theorem wantedOf_eq (links : HashMap Hash16 Link) (h : links = ∅)
    (wanted : Link → Bool) : wantedOf links wanted = [] := by
  subst h
  rfl

theorem receive (h : node.Quiet) {message : RxMessage} (draws : Draws)
    (hharmless : Harmless message.packet) :
    QuietStep C node now (.receive message draws) := by
  have hsentOn : ∀ effect ∈ node.handler.rebroadcast message,
      effect.Quiet := by
    intro effect heffect
    unfold rebroadcast at heffect
    split at heffect
    case isTrue =>
      rw [List.mem_singleton.mp heffect]
      exact hharmless
    case isFalse => cases heffect
  suffices hhandled :
      (node.handler.handlePacket C message.packet draws now).1.outLinks = ∅
        ∧ (node.handler.handlePacket C message.packet draws now).1.inLinks
          = ∅
        ∧ ∀ effect ∈ (node.handler.handlePacket C message.packet draws
          now).2, effect.Quiet by
    obtain ⟨hout, hin, heffects⟩ := hhandled
    refine ⟨_, _, rfl, ⟨hout, hin, h.calls⟩, fun effect heffect => ?_⟩
    rcases List.mem_cons.mp heffect with rfl | heffect
    · trivial
    · rcases List.mem_append.mp heffect with hsent | hhandled
      · exact hsentOn effect hsent
      · exact heffects effect hhandled
  unfold TransportHandler.handlePacket
  rcases hharmless.kind with htype | ⟨htype, hdest⟩
  · rw [htype]
    simp only [handleAnnounce]
    split
    case h_1 destination appData hvalid =>
      refine ⟨?_, ?_, ?_⟩
      · split <;> exact h.outLinks
      · split <;> exact h.inLinks
      · intro effect heffect
        rw [List.mem_singleton.mp heffect]
        trivial
    case h_2 =>
      exact ⟨h.outLinks, h.inLinks, fun effect heffect => by cases heffect⟩
  · rw [htype]
    simp only [handleData]
    rw [if_neg hdest]
    exact ⟨h.outLinks, h.inLinks, fun effect heffect => by cases heffect⟩

/-- Without a link nothing goes over links. -/
theorem frame_sends_nothing (h : node.Quiet) (destination : Hash16)
    (payload : Bytes) (context : PacketContext) (ivs : Hash16 → Block)
    (now : Nat) :
    node.step C now (.sendToOutLinks destination payload context ivs)
      = .ok ((node.sending C now []).1, []) := by
  show (sendOver C _ context payload ivs >>= fun sent =>
    .ok (node.sending C now sent)) = _
  rw [wantedOf_eq _ h.outLinks]
  rfl

theorem action_sends_nothing (h : node.Quiet) (id : Hash16)
    (payload : Bytes) (context : PacketContext) (ivs : Hash16 → Block)
    (now : Nat) :
    node.step C now (.sendToLinkId id payload context ivs)
      = .ok ((node.sending C now []).1, []) := by
  have hsend : node.handler.sendToLinkIdWithContext C id payload context ivs
      = .ok [] := by
    unfold sendToLinkIdWithContext
    rw [h.inLinks, wantedOf_eq _ h.outLinks]
    rfl
  exact Node.sending_of_ok hsend

theorem sends (h : node.Quiet) {event : Event}
    (hsends : RnsNodeRouter.Sends event) : QuietStep C node now event := by
  cases hsends with
  | packet p hp =>
      refine ⟨_, _, rfl, ⟨h.outLinks, h.inLinks, h.calls⟩, ?_⟩
      intro effect heffect
      rw [List.mem_singleton.mp heffect]
      exact hp
  | frame destination payload context ivs =>
      exact ⟨_, [], h.frame_sends_nothing destination payload context ivs
        now, ⟨h.outLinks, h.inLinks, h.calls⟩, fun effect heffect => by
          cases heffect⟩
  | action id payload context ivs =>
      exact ⟨_, [], h.action_sends_nothing id payload context ivs now,
        ⟨h.outLinks, h.inLinks, h.calls⟩, fun effect heffect => by
          cases heffect⟩
  | announce destination randHash =>
      have hannounce := destination.announce_eq (C := C) randHash none
      rw [if_pos (by decide)] at hannounce
      obtain ⟨data, hpacket, -⟩ := hannounce
      have hstep : node.step C now (.sendAnnounce destination randHash none)
          = .ok (node.sending C now
            [.send (.toAll (destination.announcePacket C data))]) := by
        simp only [Node.step, hpacket]
      refine ⟨_, _, hstep, ⟨h.outLinks, h.inLinks, h.calls⟩,
        fun effect heffect => ?_⟩
      rw [List.mem_singleton.mp heffect]
      exact ⟨rfl, rfl, rfl, .inl rfl⟩

theorem checkLinks (h : node.Quiet) :
    QuietStep C node now .checkLinks := by
  obtain ⟨hout, hin, hcalls⟩ := h
  have hchecked : (node.handler.handleCheckLinks C now).1.outLinks = ∅
      ∧ (node.handler.handleCheckLinks C now).1.inLinks = ∅
      ∧ (node.handler.handleCheckLinks C now).2 = [] := by
    unfold handleCheckLinks
    rw [hout, hin]
    exact ⟨rfl, rfl, rfl⟩
  refine ⟨_, _, rfl, ⟨hchecked.1, hchecked.2.1, hcalls⟩, ?_⟩
  intro effect heffect
  replace heffect : effect ∈ (node.handler.handleCheckLinks C now).2 :=
    heffect
  rw [hchecked.2.2] at heffect
  cases heffect

theorem keepLinks (h : node.Quiet) : QuietStep C node now .keepLinks := by
  refine ⟨_, _, rfl, ⟨h.outLinks, h.inLinks, h.calls⟩, ?_⟩
  intro effect heffect
  have hnone : (node.handler.handleKeepLinks C now).2 = [] := by
    unfold handleKeepLinks
    rw [h.outLinks]
    rfl
  rw [hnone] at heffect
  cases heffect

end Node.Quiet

-- ============================================================= networks

namespace Routers

open RnsNodeRouter (Sends)

variable {ν : Type}

/-- No node has a link, and what was sent can make none. -/
structure AllQuiet (s : Routers ν) : Prop where
  nodes : ∀ i, (s.nodes i).Quiet
  sent : ∀ p ∈ s.sent, Harmless p

theorem Fresh.allQuiet {s : Routers ν} (h : s.Fresh) : s.AllQuiet where
  nodes i := ⟨h.outLinks i, h.inLinks i, h.calls i⟩
  sent p hp := by
    rw [h.sent] at hp
    cases hp

/-- What happens at a node of a router is a step of a quiet node. -/
theorem AllQuiet.step {s : Routers ν} (h : s.AllQuiet) {event : Event}
    (hhappens : Happens C s event) (i : ν) (now : Nat) :
    QuietStep C (s.nodes i) now event := by
  have hquiet := h.nodes i
  cases hhappens with
  | receive packet capacity out message draws hsent hout hread =>
      have hpacket := h.sent packet hsent
      refine hquiet.receive draws ?_
      rw [hpacket.read hout hread]
      exact hpacket
  | checkLinks => exact hquiet.checkLinks
  | keepLinks => exact hquiet.keepLinks
  | call call events event hcall hmem =>
      exact hquiet.sends (RnsNodeRouter.sends_of_call hcall hmem)
  | _ =>
      exact ⟨_, [], rfl, ⟨hquiet.outLinks, hquiet.inLinks, hquiet.calls⟩,
        fun effect heffect => by cases heffect⟩

variable [DecidableEq ν]

theorem AllQuiet.apply {s s' : Routers ν} {action : Action ν}
    (h : s.AllQuiet) (hhappens : Happens C s action.event)
    (happly : apply C action s = some s') : s'.AllQuiet := by
  obtain ⟨node, effects, hstep, hquiet, heffects⟩ :=
    h.step hhappens action.node action.now
  unfold Routers.apply at happly
  rw [hstep] at happly
  injection happly with happly
  subst happly
  constructor
  · intro i
    by_cases hi : i = action.node
    · subst hi
      simp only [Function.update_self]
      exact hquiet
    · simp only [Function.update_of_ne hi]
      exact h.nodes i
  · intro p hp
    rcases List.mem_append.mp hp with hold | hnew
    · exact h.sent p hold
    · obtain ⟨effect, heffect, hpacket⟩ := List.mem_filterMap.mp hnew
      have hquietEffect := heffects effect heffect
      cases effect with
      | send message =>
          injection hpacket with hpacket
          rw [← hpacket]
          exact hquietEffect
      | _ => cases hpacket

/-- Nodes of routers that only have each other: whatever they call, and
in whatever order their packets come, none of them panics, none ever has
a link, no event of a link is posted anywhere, and no frame of a resource
is sent. So no router receives anything. -/
theorem routers_hear_nothing {start s : Routers ν} (hfresh : start.Fresh)
    (hreach : Run.Reaches (Routers.apply C)
      (fun s action => Happens C s action.event) start s)
    (i : ν) (now : Nat) {event : Event} (hhappens : Happens C s event) :
    ∃ node effects, (s.nodes i).step C now event = .ok (node, effects)
      ∧ node.handler.outLinks = ∅ ∧ node.handler.inLinks = ∅
      ∧ (∀ data, .inEvent data ∉ effects ∧ .outEvent data ∉ effects)
      ∧ (∀ destination frame ivs,
        event = RnsNodeRouter.sendFrame destination frame ivs →
        effects = [])
      ∧ ∀ id payload context ivs,
        event = .sendToLinkId id payload context ivs → effects = [] := by
  have hall : s.AllQuiet :=
    hreach.invariant hfresh.allQuiet fun _ _ _ h hok happly =>
      h.apply hok happly
  obtain ⟨node, effects, hstep, hquiet, heffects⟩ :=
    hall.step hhappens i now
  refine ⟨node, effects, hstep, hquiet.outLinks, hquiet.inLinks,
    fun data => ⟨fun hin => heffects _ hin, fun hout => heffects _ hout⟩,
    ?_, ?_⟩
  · rintro destination frame ivs rfl
    have hsent := (hall.nodes i).frame_sends_nothing (C := C) destination
      frame.payload (.ofLxmf frame.context) ivs now
    exact (Prod.mk.inj (Except.ok.inj (hstep.symm.trans hsent))).2
  · rintro id payload context ivs rfl
    have hsent := (hall.nodes i).action_sends_nothing (C := C) id payload
      context ivs now
    exact (Prod.mk.inj (Except.ok.inj (hstep.symm.trans hsent))).2

open Reference

/-- Two nodes, of which the first announces itself. -/
noncomputable def docAnnounced : Option (Routers Bool) :=
  Routers.apply crypto
    ⟨false, 0, RnsNodeRouter.announce server drawnHash⟩
    ⟨fun _ => .new true, []⟩

theorem routers_hear_nothing_doc :
    ∃ s, docAnnounced = some s ∧ s.sent.length = 1
      ∧ ∃ node effects, (s.nodes true).step crypto 1
          (RnsNodeRouter.sendFrame (server.desc crypto).addressHash
            ⟨.resource, [0x68, 0x69]⟩ fun _ => drawnIv)
          = .ok (node, effects)
        ∧ effects = [] := by
  have hsent : docAnnounced.map (fun s => decide (s.sent.length = 1))
      = some true := by decide +kernel
  obtain ⟨s, hs, hsent⟩ := Option.map_eq_some_iff.mp hsent
  have hreach : Run.Reaches (Routers.apply crypto)
      (fun s action => Happens crypto s action.event)
      ⟨fun _ => .new true, []⟩ s :=
    .step _ .start (.call (.announce server drawnHash) _ _ rfl
      List.mem_cons_self) hs
  obtain ⟨node, effects, hstep, -, -, -, hnone, -⟩ :=
    routers_hear_nothing ⟨fun _ => rfl, fun _ => rfl, fun _ => rfl, rfl⟩
      hreach true 1 (.call (.pollInbound [⟨(server.desc crypto).addressHash,
        ⟨.resource, [0x68, 0x69]⟩, fun _ => drawnIv⟩] []) _ _ rfl
        List.mem_cons_self)
  exact ⟨s, hs, of_decide_eq_true hsent, node, effects, hstep,
    hnone _ _ _ rfl⟩

end Routers

-- ================================================================ parts

open TransportHandler (serves wantedOf sendOver_eq)

/-- What a part may hold to go over a link. -/
def partRoom : Nat := linkPayloadMax - resourcePartHeaderLen

theorem length_encode_part (part : ResourcePart) :
    part.encode.length = resourcePartHeaderLen + part.data.length := by
  have hid : part.resourceId.toList.length = destinationLength :=
    part.resourceId.toList_length
  have hindex : (u32ToBeBytes part.partIndex).length = 4 := rfl
  unfold ResourcePart.encode
  rw [List.length_append, List.length_append, List.length_cons, hid, hindex]
  simp only [resourcePartHeaderLen]
  omega

theorem length_encode_advert (advert : ResourceAdvertisement) :
    advert.encode.length = resourceAdvHeaderLen := by
  simp only [ResourceAdvertisement.encode, u32ToBeBytes, List.length_cons,
    List.length_append, List.Vector.toList_length, List.length_nil]
  rfl

/-- What a frame is over the links of a node to a destination. -/
def sealedOver (C : Crypto) (node : Node) (destination : Hash16)
    (frame : ResourceControlAction) (ivs : Hash16 → Block) : List Effect :=
  (wantedOf node.handler.outLinks (serves destination)).map fun entry =>
    .send (.toAll (entry.2.packetOf (.ofLxmf frame.context)
      (entry.2.derivedKey.fernet.token C (ivs entry.1) frame.payload)))

/-- A call of `send_to_out_links_with_context` panics over any link, or
sends over all of them. -/
theorem Node.sendFrame_cases (node : Node) (now : Nat)
    (destination : Hash16) (frame : ResourceControlAction)
    (ivs : Hash16 → Block) :
    if frame.payload.length ≤ linkPayloadMax
        ∨ wantedOf node.handler.outLinks (serves destination) = [] then
      ∃ node', node.step C now
          (RnsNodeRouter.sendFrame destination frame ivs)
          = .ok (node', sealedOver C node destination frame ivs)
    else
      node.step C now (RnsNodeRouter.sendFrame destination frame ivs)
        = .error .panic := by
  have hsend := sendOver_eq (C := C)
    (wantedOf node.handler.outLinks (serves destination))
    (.ofLxmf frame.context) frame.payload ivs
  by_cases hgoes : frame.payload.length ≤ linkPayloadMax
      ∨ wantedOf node.handler.outLinks (serves destination) = []
  · rw [if_pos hgoes] at hsend ⊢
    exact ⟨_, Node.sending_of_ok hsend⟩
  · rw [if_neg hgoes] at hsend ⊢
    show (TransportHandler.sendOver C _ _ frame.payload ivs >>= fun sent =>
      .ok (node.sending C now sent)) = _
    rw [hsend]
    rfl

/-- The frame that a payload leaves with at this place: its
advertisement, then its pieces. -/
def FrameOf (payload : Bytes) : Nat → ResourceControlAction → Prop
  | 0, frame => frame.context = .resourceAdvertisement
      ∧ ∃ advert : ResourceAdvertisement, frame.payload = advert.encode
  | j + 1, frame => frame.context = .resource
      ∧ ∃ part : ResourcePart, frame.payload = part.encode
        ∧ part.data = Assembly.piece resourceFramePartSize payload j

theorem frame_of_sendResourceFrames {destination : Hash16}
    {payload : Bytes} {requestId : Option Hash16}
    {isResponse isRequest : Bool} {sentAt : Nat}
    {ivs : Nat → Hash16 → Block} {events : List Event}
    (hevents : RnsNodeRouter.sendResourceFrames C destination payload
      requestId isResponse isRequest sentAt ivs = .ok events)
    {i : Nat} {event : Event} (hi : events[i]? = some event) :
    ∃ frame, event = RnsNodeRouter.sendFrame destination frame (ivs i)
      ∧ FrameOf payload i frame := by
  obtain ⟨state, hstate, hsplit, -⟩ := sendResourceFrames_eq C.toPlatform
    payload requestId isResponse isRequest sentAt
  unfold RnsNodeRouter.sendResourceFrames at hevents
  rw [hstate] at hevents
  injection hevents with hevents
  subst hevents
  unfold RnsNodeRouter.sendFrames at hi
  rw [List.getElem?_mapIdx] at hi
  obtain ⟨frame, hframe, rfl⟩ := Option.map_eq_some_iff.mp hi
  refine ⟨frame, rfl, ?_⟩
  unfold ResourceSendState.frames at hframe
  cases i with
  | zero =>
      rw [List.getElem?_cons_zero] at hframe
      injection hframe with hframe
      subst hframe
      exact ⟨rfl, state.advert, rfl⟩
  | succ j =>
      rw [List.getElem?_cons_succ, List.getElem?_map] at hframe
      obtain ⟨part, hpart, rfl⟩ := Option.map_eq_some_iff.mp hframe
      refine ⟨rfl, part, rfl, ?_⟩
      unfold ResourceSender.split at hsplit
      rw [if_neg (by decide)] at hsplit
      injection hsplit with hsplit
      rw [← (Prod.mk.inj hsplit).2, List.getElem?_map] at hpart
      obtain ⟨index, hindex, rfl⟩ := Option.map_eq_some_iff.mp hpart
      obtain ⟨hlt, hindex⟩ := List.getElem?_eq_some_iff.mp hindex
      rw [List.getElem_range] at hindex
      rw [← hindex]

/-- Only a part that is nearly full is too long for a link. -/
theorem FrameOf.too_long_iff {payload : Bytes} {i : Nat}
    {frame : ResourceControlAction} (h : FrameOf payload i frame) :
    linkPayloadMax < frame.payload.length
      ↔ ∃ j, i = j + 1 ∧ partRoom < min resourceFramePartSize
          (payload.length - j * resourceFramePartSize) := by
  have hroom : partRoom + resourcePartHeaderLen = linkPayloadMax := rfl
  have hadvert : resourceAdvHeaderLen ≤ linkPayloadMax := by decide
  cases i with
  | zero =>
      obtain ⟨-, advert, hframe⟩ := h
      rw [hframe, length_encode_advert]
      refine iff_of_false (Nat.not_lt.mpr hadvert) ?_
      rintro ⟨j, hj, -⟩
      cases hj
  | succ j =>
      obtain ⟨-, part, hframe, hdata⟩ := h
      rw [hframe, length_encode_part, hdata]
      simp only [Assembly.piece, List.length_take, List.length_drop]
      constructor
      · intro hlong
        exact ⟨j, rfl, by omega⟩
      · rintro ⟨j', hj, hlong⟩
        obtain rfl : j = j' := Nat.succ.inj hj
        omega

/-- A payload that leaves as a resource goes over a link up to its first
full part: the advertisement is sent, sealed, over every active link to
the destination, and so is each part but those that hold more than 1978
of the 2027 bytes a part is cut to, at which the call panics. Without a
link nothing is sent at all. -/
theorem part_panics_iff {destination : Hash16} {payload : Bytes}
    {requestId : Option Hash16} {isResponse isRequest : Bool} {sentAt : Nat}
    {ivs : Nat → Hash16 → Block} {events : List Event}
    (hevents : RnsNodeRouter.sendResourceFrames C destination payload
      requestId isResponse isRequest sentAt ivs = .ok events)
    {i : Nat} {event : Event} (hi : events[i]? = some event)
    (node : Node) (now : Nat) :
    ∃ frame, FrameOf payload i frame
      ∧ (node.step C now event = .error .panic
        ↔ wantedOf node.handler.outLinks (serves destination) ≠ []
          ∧ ∃ j, i = j + 1 ∧ partRoom < min resourceFramePartSize
            (payload.length - j * resourceFramePartSize))
      ∧ (node.step C now event ≠ .error .panic →
        ∃ node', node.step C now event
          = .ok (node', sealedOver C node destination frame (ivs i)))
      ∧ (wantedOf node.handler.outLinks (serves destination) = [] →
        ∃ node', node.step C now event = .ok (node', [])) := by
  obtain ⟨frame, rfl, hframe⟩ := frame_of_sendResourceFrames hevents hi
  have hcases := node.sendFrame_cases (C := C) now destination frame (ivs i)
  refine ⟨frame, hframe, ?_⟩
  rw [← hframe.too_long_iff]
  by_cases hgoes : frame.payload.length ≤ linkPayloadMax
      ∨ wantedOf node.handler.outLinks (serves destination) = []
  · rw [if_pos hgoes] at hcases
    obtain ⟨node', hstep⟩ := hcases
    refine ⟨?_, fun _ => ⟨node', hstep⟩, fun hlinks => ⟨node', ?_⟩⟩
    · rw [hstep]
      refine iff_of_false nofun ?_
      rintro ⟨hlinks, hlong⟩
      exact hgoes.elim (Nat.not_le.mpr hlong) hlinks
    · rw [hstep, sealedOver, hlinks]
      rfl
  · rw [if_neg hgoes] at hcases
    obtain ⟨hlong, hlinks⟩ := not_or.mp hgoes
    exact ⟨iff_of_true hcases ⟨hlinks, Nat.not_le.mp hlong⟩,
      fun hstep => absurd hcases hstep, fun hnone => absurd hnone hlinks⟩

open Reference

/-- A node whose link to the server is active. -/
noncomputable def docLinked : Node :=
  { Node.new true with
    handler.outLinks := (Node.new true).handler.outLinks.insert
      (server.desc crypto).addressHash { askedLink with status := .active } }

/-- The advertisement of two parts is sent, and the first part panics. -/
theorem part_panics_iff_doc :
    ∃ events advert part, RnsNodeRouter.sendResourceFrames crypto
        (server.desc crypto).addressHash (List.replicate 2049 0x61) none
        false false 0 (fun _ _ => drawnIv) = .ok events
      ∧ events[0]? = some advert ∧ events[1]? = some part
      ∧ (∃ node effects, docLinked.step crypto 0 advert
          = .ok (node, effects) ∧ effects.length = 1)
      ∧ docLinked.step crypto 0 part = .error .panic := by
  obtain ⟨state, hstate, hsplit, -⟩ := sendResourceFrames_eq
    crypto.toPlatform (List.replicate 2049 0x61) none false false 0
  have hevents : RnsNodeRouter.sendResourceFrames crypto
      (server.desc crypto).addressHash (List.replicate 2049 0x61) none
      false false 0 (fun _ _ => drawnIv)
      = .ok (RnsNodeRouter.sendFrames (server.desc crypto).addressHash state
        fun _ _ => drawnIv) := by
    unfold RnsNodeRouter.sendResourceFrames
    rw [hstate]
    rfl
  obtain ⟨part, parts, hparts⟩ : ∃ part parts,
      state.parts = part :: parts := by
    unfold ResourceSender.split at hsplit
    rw [if_neg (by decide)] at hsplit
    injection hsplit with hsplit
    rw [← (Prod.mk.inj hsplit).2, List.length_replicate]
    exact ⟨_, _, rfl⟩
  have hadvert : (RnsNodeRouter.sendFrames (server.desc crypto).addressHash
      state fun _ _ => drawnIv)[0]?
      = some (RnsNodeRouter.sendFrame (server.desc crypto).addressHash
        ⟨.resourceAdvertisement, state.advert.encode⟩ fun _ => drawnIv) := by
    unfold RnsNodeRouter.sendFrames ResourceSendState.frames
    rw [List.getElem?_mapIdx]
    rfl
  have hfirst : (RnsNodeRouter.sendFrames (server.desc crypto).addressHash
      state fun _ _ => drawnIv)[1]?
      = some (RnsNodeRouter.sendFrame (server.desc crypto).addressHash
        ⟨.resource, part.encode⟩ fun _ => drawnIv) := by
    unfold RnsNodeRouter.sendFrames ResourceSendState.frames
    rw [hparts, List.getElem?_mapIdx]
    rfl
  have hserves : (wantedOf docLinked.handler.outLinks
      (serves (server.desc crypto).addressHash)).length = 1 := by
    decide +kernel
  refine ⟨_, _, _, hevents, hadvert, hfirst, ?_, ?_⟩
  · obtain ⟨frame, -, hpanics, hsent, -⟩ :=
      part_panics_iff hevents hadvert docLinked 0
    obtain ⟨node, hstep⟩ := hsent fun hpanic => by
      obtain ⟨-, j, hj, -⟩ := hpanics.mp hpanic
      cases hj
    exact ⟨node, _, hstep, by rw [sealedOver, List.length_map, hserves]⟩
  · obtain ⟨frame, -, hpanics, -⟩ :=
      part_panics_iff hevents hfirst docLinked 0
    refine hpanics.mpr ⟨fun hnone => ?_, 0, rfl, by
      rw [List.length_replicate]; decide⟩
    rw [hnone] at hserves
    cases hserves

end Lxmf.Reticulum
