/-
What becomes of copies of a packet that went over a link.

Data over a link have no number and no direction: both ends encrypt under
one key, and neither remembers what it has decrypted. So whoever has seen
such a packet can send it again, to the end it was for or back to the one
that sent it. Each copy raises its payload once more, as data from the
other end, for as long as the link is held (`copies_taken`).
-/
import Lxmf.Polling
import Lxmf.Proofs.Handshake

namespace Lxmf.Reticulum

variable {C : Crypto}

/-- A node has a link under the id, with the key. -/
def Node.Holds (node : Node) (id : Hash16) (derivedKey : DerivedKey) :
    Side → Prop
  | .incoming => ∃ link, node.handler.inLinks.lookup id = some link
      ∧ link.id = id ∧ link.derivedKey = derivedKey
  | .outgoing => ∃ key link, node.handler.outLinks.lookup key = some link
      ∧ link.id = id ∧ link.derivedKey = derivedKey

/-- A packet comes in once more. Its context, which nothing protects, may
be another by now, if not that of a keep-alive. -/
def isCopy (packet : Packet) : Event → Bool
  | .receive message _ =>
      decide (message.packet
        = { packet with context := message.packet.context })
        && decide (message.packet.context ≠ .keepAlive)
  | _ => false

/-- An event that brings the payload over the link. -/
def brings (id : Hash16) (payload : Bytes) (event : LinkEventData) : Bool :=
  decide (event.id = id) && match event.event with
    | .data payload' _ => decide (payload' = payload)
    | _ => false

/-- A node, how many copies it received, and how often it raised their
payload. -/
structure Tally where
  node : Node
  copies : Nat
  raised : Nat

namespace Tally

def start (node : Node) : Tally := ⟨node, 0, 0⟩

def apply (C : Crypto) (side : Side) (packet : Packet) (payload : Bytes)
    (timed : Nat × Event) (s : Tally) : Option Tally :=
  match s.node.step C timed.1 timed.2 with
  | .ok (node, effects) => some {
      node
      copies := s.copies + (isCopy packet timed.2).toNat
      raised := s.raised
        + (side.postedOf effects).countP (brings packet.destination payload) }
  | .error _ => none

variable {side : Side} {link : Link} {context : PacketContext} {iv : Block}
  {payload : Bytes}

/-- A copy that is decrypted raises its payload. -/
theorem raised_of_copy (hC : DecryptsTexts C)
    (hpayload : payload.length ≤ linkPayloadMax) {node node' : Node}
    {now : Nat} {event : Event} {effects : List Effect}
    (hholds : node.Holds link.id link.derivedKey side)
    (hcopy : isCopy (link.packetOf context
      (link.derivedKey.fernet.token C iv payload)) event = true)
    (hstep : node.step C now event = .ok (node', effects)) :
    0 < (side.postedOf effects).countP (brings link.id payload) := by
  cases event with
  | receive message draws =>
      simp only [isCopy, Bool.and_eq_true, decide_eq_true_eq] at hcopy
      obtain ⟨hpacket, hcontext⟩ := hcopy
      injection hstep with hstep
      have heffects : effects
          = (node.handler.receive C message draws now).2 :=
        (Prod.mk.inj hstep).2.symm
      have hdata : message.packet.data.bytes
          = link.derivedKey.fernet.token C iv payload := by
        rw [hpacket]
        exact Link.packetOf_data hpayload
      have hbrings {link' : Link} (hid : link'.id = link.id) :
          brings link.id payload
            (link'.postEvent (.data payload message.packet.context))
          = true := by
        unfold brings Link.postEvent
        simp [hid]
      rw [List.countP_pos_iff]
      cases side with
      | incoming =>
          obtain ⟨link', hlink, hid, hkey⟩ := hholds
          have hraised := TransportHandler.receive_sealed_in hC draws now
            (by rw [hpacket]; exact hlink) (by rw [hpacket]; exact hid.symm)
            (by rw [hpacket]; rfl) (by rw [hpacket]; rfl) hcontext
            (by rw [hkey]; exact hdata) hpayload
          rw [← heffects] at hraised
          exact ⟨_, List.mem_filterMap.mpr ⟨_, hraised, rfl⟩, hbrings hid⟩
      | outgoing =>
          obtain ⟨key, link', hlink, hid, hkey⟩ := hholds
          have hraised := TransportHandler.receive_sealed_out hC draws now
            hlink (by rw [hpacket]; exact hid.symm)
            (by rw [hpacket]; rfl) (by rw [hpacket]; rfl) hcontext
            (by rw [hkey]; exact hdata) hpayload
          rw [← heffects] at hraised
          exact ⟨_, List.mem_filterMap.mpr ⟨_, hraised, rfl⟩, hbrings hid⟩
  | _ => cases hcopy

theorem copies_le_raised (hC : DecryptsTexts C)
    (hpayload : payload.length ≤ linkPayloadMax) {node : Node} {s : Tally}
    (hreach : Run.Reaches
      (apply C side (link.packetOf context
        (link.derivedKey.fernet.token C iv payload)) payload)
      (fun s timed => isCopy (link.packetOf context
          (link.derivedKey.fernet.token C iv payload)) timed.2 = true →
        s.node.Holds link.id link.derivedKey side)
      (start node) s) :
    s.copies ≤ s.raised := by
  refine @Run.Reaches.invariant _ _ _ _ (fun s => s.copies ≤ s.raised) _ _
    hreach (Nat.le_refl 0) ?_
  intro s timed s' h hholds happly
  unfold apply at happly
  split at happly
  case h_1 node' effects hstep =>
    injection happly with happly
    subst happly
    by_cases hcopy : isCopy (link.packetOf context
        (link.derivedKey.fernet.token C iv payload)) timed.2 = true
    · have hraised := raised_of_copy hC hpayload (hholds hcopy) hcopy hstep
      rw [hcopy]
      show s.copies + 1
        ≤ s.raised + (side.postedOf effects).countP (brings link.id payload)
      omega
    · rw [Bool.not_eq_true] at hcopy
      rw [hcopy]
      exact Nat.le_add_right_of_le h
  case h_2 => cases happly

end Tally

namespace Channel

open TransportHandler

/-- Every copy of the packet raises the payload at either end, whatever
else the node does meanwhile, if it still has the link. -/
def CopiesRaised (C : Crypto) (link : Link) (payload : Bytes)
    (packet : Packet) : Prop :=
  ∀ side node s, Run.Reaches (Tally.apply C side packet payload)
      (fun s timed => isCopy packet timed.2 = true →
        s.node.Holds link.id link.derivedKey side) (.start node) s →
    s.copies ≤ s.raised

variable {initiator responder : Node} {key : Hash16} {link answer : Link}

/-- What either end of a link sends over it can be taken for data of the
other end by both, as often as it comes. -/
theorem copies_taken (hC : DecryptsTexts C)
    (h : Channel initiator.handler responder.handler key link answer)
    {payload : Bytes} (hpayload : payload.length ≤ 1999)
    (context : PacketContext) (ivs : Hash16 → Block) (now : Nat) :
    (∃ node sent packet, initiator.step C now (.sendToOutLinks
          link.destination.addressHash payload context ivs)
          = .ok (node, sent)
        ∧ .send (.toAll packet) ∈ sent
        ∧ CopiesRaised C link payload packet)
      ∧ ∃ node sent packet, responder.step C now (.sendToLinkId link.id
          payload context ivs) = .ok (node, sent)
        ∧ .send (.toAll packet) ∈ sent
        ∧ CopiesRaised C link payload packet := by
  constructor
  · have hsend := sendOver_eq (C := C) (wantedOf initiator.handler.outLinks
      (serves link.destination.addressHash)) context payload ivs
    rw [if_pos (.inl hpayload)] at hsend
    exact ⟨_, _, _, Node.sending_of_ok hsend,
      List.mem_map.mpr ⟨(key, link), h.served, rfl⟩,
      fun _ _ _ hreach => Tally.copies_le_raised hC hpayload hreach⟩
  · have hfirst := h.sendToLinkId_eq (C := C) payload context ivs
    have hsame : answer.packetOf context
        (answer.derivedKey.fernet.token C (ivs link.id) payload)
        = link.packetOf context
          (link.derivedKey.fernet.token C (ivs link.id) payload) := by
      unfold Link.packetOf
      rw [h.id, h.derivedKey]
    rw [if_pos (show payload.length ≤ linkPayloadMax from hpayload), hsame]
      at hfirst
    exact ⟨_, _, _, Node.sending_of_ok hfirst, List.mem_singleton.mpr rfl,
      fun _ _ _ hreach => Tally.copies_le_raised hC hpayload hreach⟩

open Reference

noncomputable def docPacket : Packet :=
  docLink.packetOf .none
    (docLink.derivedKey.fernet.token crypto drawnIv [0x68, 0x69])

/-- What the initiator sent comes back to it. -/
noncomputable def docEcho (s : Tally) : Option Tally :=
  Tally.apply crypto .outgoing docPacket [0x68, 0x69]
    (1, .receive ⟨iface, docPacket⟩ drawn) s

theorem docSent :
    (docInitiator.step crypto 0 (.sendToOutLinks
      docLink.destination.addressHash [0x68, 0x69] .none
      fun _ => drawnIv)).map Prod.snd
      = .ok [.send (.toAll docPacket)] := by decide +kernel

theorem docEcho_holds :
    ((docEcho (.start docInitiator)).bind fun s =>
      s.node.handler.outLinks.lookup (server.desc crypto).addressHash).map
        (fun link => decide (link.id = docLink.id
          ∧ link.derivedKey = docLink.derivedKey)) = some true := by
  decide +kernel

theorem docEcho_twice :
    ((docEcho (.start docInitiator)).bind docEcho).map
      (fun s => decide (s.copies = 2)) = some true := by decide +kernel

theorem copies_taken_doc :
    ∃ s, (docEcho (.start docInitiator)).bind docEcho = some s
      ∧ s.copies = 2 ∧ s.copies ≤ s.raised := by
  obtain ⟨⟨node, sent, packet, hstep, hsent, hraised⟩, -⟩ :=
    copies_taken crypto_decryptsTexts docChannel
      (show ([0x68, 0x69] : Bytes).length ≤ 1999 by decide) .none
      (fun _ => drawnIv) 0
  obtain rfl : packet = docPacket := by
    have hall := docSent
    rw [hstep] at hall
    injection hall with hall
    replace hall : sent = [.send (.toAll docPacket)] := hall
    rw [hall] at hsent
    have hsame := List.mem_singleton.mp hsent
    injection hsame with hsame
    injection hsame
  obtain ⟨s, hs, hcopies⟩ := Option.map_eq_some_iff.mp docEcho_twice
  obtain ⟨first, hfirst, hsecond⟩ := Option.bind_eq_some_iff.mp hs
  have hholds : first.node.Holds docLink.id docLink.derivedKey
      .outgoing := by
    obtain ⟨link, hlink, hkeys⟩ := Option.map_eq_some_iff.mp docEcho_holds
    rw [hfirst] at hlink
    obtain ⟨hid, hkey⟩ := of_decide_eq_true hkeys
    exact ⟨_, link, hlink, hid, hkey⟩
  refine ⟨s, hs, of_decide_eq_true hcopies, hraised .outgoing docInitiator s
    (.step _ (.step _ .start (fun _ => ?_) hfirst) (fun _ => hholds)
      hsecond)⟩
  exact ⟨_, docLink, docChannel.outgoing, rfl, rfl⟩

end Channel

end Lxmf.Reticulum
