/-
A handshake over the wire, and the data that two ends exchange.

# Handshake

`handshake_completes` takes the request of a call of `Transport::link`
to a node that serves the destination, and its proof back. Each packet
is read from the bytes that an interface wrote of it. Afterwards both
ends are active, under one id and one key.

# Data

Between two ends with one id and one key a payload arrives as it was
sent, in either direction (`payload_to_responder`,
`payload_to_initiator`), up to 1999 bytes. A longer one panics
(`sendOver_eq`).
-/
import Lxmf.Proofs.Link
import Lxmf.Proofs.Node
import Lxmf.ReferenceCrypto

namespace Lxmf.Reticulum

variable {C : Crypto}

-- ============================================================== answers

namespace TransportHandler

/-- The link that answers a request for a destination of the node. -/
theorem acceptRequest_of_served {h : TransportHandler} {packet : Packet}
    {destination : SingleInputDestination} (secret : SecretKey) (now : Nat)
    (hserved : h.singleInDestinations.lookup packet.destination
      = some destination)
    (haddress : (destination.desc C).addressHash = packet.destination)
    (htype : packet.header.packetType = .linkRequest)
    (hlength : publicKeyLength * 2 ≤ packet.data.bytes.length)
    (hnew : linkId C.toPlatform packet ∉ h.inLinks) :
    ∃ link, h.acceptRequest C packet secret now = some link
      ∧ Link.newFromRequest C packet destination.identity.signKey
          (destination.desc C) secret now = .ok link := by
  have hstatus : destination.handlePacket C packet = .linkProof := by
    unfold SingleInputDestination.handlePacket
    rw [if_neg (by rw [haddress]; exact fun h => h rfl), htype]
  cases hlink : Link.newFromRequest C packet destination.identity.signKey
      (destination.desc C) secret now with
  | error e =>
      unfold Link.newFromRequest at hlink
      rw [if_neg (Nat.not_lt.mpr hlength)] at hlink
      cases hlink
  | ok link =>
      refine ⟨link, ?_, rfl⟩
      unfold acceptRequest
      rw [hserved]
      simp only [Option.bind_eq_bind, Option.bind_some, hstatus]
      rw [if_neg hnew, hlink]

/-- What is sent and known after a request that is answered. -/
theorem receive_request {h : TransportHandler} {message : RxMessage}
    {draws : Draws} {now : Nat} {link : Link}
    (htype : message.packet.header.packetType = .linkRequest)
    (haccept : h.acceptRequest C message.packet draws.secret now
      = some link) :
    (h.receive C message draws now).1.inLinks.lookup link.id
        = some { link with status := .active }
      ∧ (h.receive C message draws now).2
        = .received message :: (h.rebroadcast message
            ++ ((link.prove C).2.2.map .inEvent
              ++ [.send (.toAll (link.proofPacket C))])) := by
  have hhandle : h.handlePacket C message.packet draws now
      = ({ h with
            inLinks :=
              h.inLinks.insert (link.prove C).1.id (link.prove C).1 },
          (link.prove C).2.2.map .inEvent
            ++ [.send (.toAll (link.prove C).2.1)]) := by
    unfold TransportHandler.handlePacket
    rw [htype]
    simp only [handleLinkRequest, haccept]
  unfold receive
  rw [hhandle, Link.prove_packet, Link.prove_fst]
  exact ⟨AList.lookup_insert _, rfl⟩

-- =============================================================== proofs

/-- A proof that is valid for a pending link makes it active. -/
theorem receive_proof {h : TransportHandler} {message : RxMessage}
    (draws : Draws) (now : Nat) {key : Hash16} {link : Link}
    {identity : Identity}
    (hlink : h.outLinks.lookup key = some link)
    (hid : message.packet.destination = link.id)
    (htype : message.packet.header.packetType = .proof)
    (hcontext : message.packet.context = .linkRequestProof)
    (hpending : link.status = .pending)
    (hproof : Link.validateProofPacket C link.destination link.id
      message.packet = .ok identity) :
    let active := { link.handshake C identity with
      status := LinkStatus.active, rtt := now - link.requestTime }
    (h.receive C message draws now).1.outLinks.lookup key = some active
      ∧ .outEvent (active.postEvent .activated)
        ∈ (h.receive C message draws now).2
      ∧ .send (.toAll (active.packetOf .linkRtt
          (active.derivedKey.fernet.token C (draws.ivs key)
            (draws.writeF32 active.rtt).toList)))
        ∈ (h.receive C message draws now).2 := by
  intro active
  have hpacket : link.handlePacket C message.packet now
      = (active, .activated, [active.postEvent .activated]) := by
    unfold Link.handlePacket
    rw [if_neg (by rw [hid]; exact fun h => h rfl), htype]
    simp only
    rw [if_pos ⟨hpending, hcontext⟩, hproof]
  have hvisit : visitProof C message.packet draws now key link
      = (active, [.outEvent (active.postEvent .activated),
          .send (.toAll (active.packetOf .linkRtt
            (active.derivedKey.fernet.token C (draws.ivs key)
              (draws.writeF32 active.rtt).toList)))]) := by
    unfold visitProof
    rw [hpacket]
    simp only [Link.createRtt_eq]
    rfl
  have hhandle : h.handlePacket C message.packet draws now
      = h.handleProof C message.packet draws now := by
    unfold TransportHandler.handlePacket
    rw [htype]
  have heffect {effect : Effect}
      (hmem : effect ∈ (visitProof C message.packet draws now key link).2) :
      effect ∈ (h.receive C message draws now).2 := by
    unfold receive
    rw [hhandle]
    refine List.mem_cons_of_mem _ (List.mem_append_right _ ?_)
    exact mem_visitLinks.mpr ⟨key, link, hlink, hmem⟩
  refine ⟨?_, heffect ?_, heffect ?_⟩
  · have hfst : (h.receive C message draws now).1.outLinks
        = (visitLinks h.outLinks
            (visitProof C message.packet draws now)).1 := by
      unfold receive
      rw [hhandle]
      rfl
    rw [hfst, lookup_visitLinks, hlink, Option.map_some, hvisit]
  · rw [hvisit]
    exact List.mem_cons_self
  · rw [hvisit]
    exact List.mem_cons_of_mem _ List.mem_cons_self

-- ================================================================ data

theorem packetOver_eq (context : PacketContext) (payload : Bytes)
    (ivs : Hash16 → Block) (entry : Hash16 × Link) :
    packetOver C context payload ivs entry
      = if payload.length ≤ linkPayloadMax then
          .ok (some (entry.2.packetOf context
            (entry.2.derivedKey.fernet.token C (ivs entry.1) payload)))
        else .error .panic := by
  unfold packetOver
  rw [Link.dataPacketWithContext_eq]
  split
  case h_1 h =>
    split at h
    case isTrue hle =>
      injection h with h
      rw [if_pos hle, h]
    case isFalse => cases h
  case h_2 h =>
    split at h
    case isTrue => cases h
    case isFalse hle => rw [if_neg hle]
  case h_3 h =>
    split at h
    case isTrue => cases h
    case isFalse => cases h

/-- A payload goes over every link, or is too long for any. -/
theorem sendOver_eq (links : List (Hash16 × Link)) (context : PacketContext)
    (payload : Bytes) (ivs : Hash16 → Block) :
    sendOver C links context payload ivs
      = if payload.length ≤ linkPayloadMax ∨ links = [] then
          .ok (links.map fun entry => .send (.toAll
            (entry.2.packetOf context
              (entry.2.derivedKey.fernet.token C (ivs entry.1) payload))))
        else .error .panic := by
  unfold sendOver
  by_cases hle : payload.length ≤ linkPayloadMax
  · have hmap : links.mapM (packetOver C context payload ivs)
        = .ok (links.map fun entry => some (entry.2.packetOf context
            (entry.2.derivedKey.fernet.token C (ivs entry.1)
              payload))) := by
      induction links with
      | nil => rfl
      | cons entry links ih =>
          rw [List.mapM_cons, ih, packetOver_eq, if_pos hle]
          rfl
    rw [hmap, if_pos (.inl hle), Except.ok_bind, List.filterMap_map]
    congr 1
    exact congrFun List.filterMap_eq_map' links
  · cases links with
    | nil => rw [if_pos (.inr rfl)]; rfl
    | cons entry links =>
        rw [List.mapM_cons, packetOver_eq, if_neg hle,
          if_neg (by rintro (h | h); exacts [hle h, List.cons_ne_nil _ _ h])]
        rfl

theorem sendFirst_cons (context : PacketContext) (payload : Bytes)
    (ivs : Hash16 → Block) (entry : Hash16 × Link)
    (links : List (Hash16 × Link)) :
    sendFirst C context payload ivs (entry :: links)
      = if payload.length ≤ linkPayloadMax then
          .ok [.send (.toAll (entry.2.packetOf context
            (entry.2.derivedKey.fernet.token C (ivs entry.1) payload)))]
        else .error .panic := by
  unfold sendFirst
  rw [packetOver_eq]
  split <;> rfl

theorem mem_wantedOf {links : HashMap Hash16 Link} {wanted : Link → Bool}
    {key : Hash16} {link : Link} :
    (key, link) ∈ wantedOf links wanted
      ↔ links.lookup key = some link ∧ wanted link = true := by
  unfold wantedOf
  rw [List.mem_map]
  constructor
  · rintro ⟨⟨key', link'⟩, hmem, heq⟩
    obtain ⟨rfl, rfl⟩ := Prod.mk.inj heq
    obtain ⟨hentry, hwanted⟩ := List.mem_filter.mp hmem
    exact ⟨HashMap.mem_entries_iff.mp hentry, hwanted⟩
  · rintro ⟨hlink, hwanted⟩
    exact ⟨⟨key, link⟩, List.mem_filter.mpr
      ⟨HashMap.mem_entries_iff.mpr hlink, hwanted⟩, rfl⟩

/-- What was sealed under the key of an incoming link raises its
payload. -/
theorem receive_sealed_in (hC : DecryptsTexts C) {h : TransportHandler}
    {message : RxMessage} (draws : Draws) (now : Nat) {link : Link}
    {iv : Block} {payload : Bytes}
    (hlink : h.inLinks.lookup message.packet.destination = some link)
    (hid : message.packet.destination = link.id)
    (hdest : message.packet.header.destinationType = .link)
    (htype : message.packet.header.packetType = .data)
    (hcontext : message.packet.context ≠ .keepAlive)
    (hdata : message.packet.data.bytes
      = link.derivedKey.fernet.token C iv payload)
    (hpayload : payload.length ≤ linkPayloadMax) :
    .inEvent (link.postEvent (.data payload message.packet.context))
      ∈ (h.receive C message draws now).2 := by
  have hpacket := Link.handlePacket_sealed hC hid htype hcontext hdata
    hpayload now
  have hincoming : (h.handleIncoming C message.packet now).2
      = [.inEvent (link.postEvent
          (.data payload message.packet.context))] := by
    unfold handleIncoming
    rw [hlink]
    simp only [visitIncoming, hpacket]
    rfl
  unfold receive TransportHandler.handlePacket
  rw [htype]
  simp only [handleData]
  rw [if_pos hdest]
  refine List.mem_cons_of_mem _ (List.mem_append_right _ ?_)
  refine List.mem_append_left _ ?_
  rw [hincoming]
  exact List.mem_singleton.mpr rfl

/-- The same for an outgoing link. -/
theorem receive_sealed_out (hC : DecryptsTexts C) {h : TransportHandler}
    {message : RxMessage} (draws : Draws) (now : Nat) {key : Hash16}
    {link : Link} {iv : Block} {payload : Bytes}
    (hlink : h.outLinks.lookup key = some link)
    (hid : message.packet.destination = link.id)
    (hdest : message.packet.header.destinationType = .link)
    (htype : message.packet.header.packetType = .data)
    (hcontext : message.packet.context ≠ .keepAlive)
    (hdata : message.packet.data.bytes
      = link.derivedKey.fernet.token C iv payload)
    (hpayload : payload.length ≤ linkPayloadMax) :
    .outEvent (link.postEvent (.data payload message.packet.context))
      ∈ (h.receive C message draws now).2 := by
  have hpacket := Link.handlePacket_sealed hC hid htype hcontext hdata
    hpayload now
  have hvisit : (visitOutgoing C message.packet now link).2
      = [.outEvent (link.postEvent
          (.data payload message.packet.context))] := by
    unfold visitOutgoing
    rw [hpacket]
    rfl
  unfold receive TransportHandler.handlePacket
  rw [htype]
  simp only [handleData]
  rw [if_pos hdest]
  refine List.mem_cons_of_mem _ (List.mem_append_right _ ?_)
  refine List.mem_append_right _ ?_
  refine mem_visitLinks.mpr ⟨key, link, hlink, ?_⟩
  rw [hvisit]
  exact List.mem_singleton.mpr rfl

end TransportHandler

-- ============================================================= channels

/-- A link that both ends hold: the outgoing one under a key of the
initiator, the incoming one under its id, both active, with one key. -/
structure Channel (initiator responder : TransportHandler) (key : Hash16)
    (link answer : Link) : Prop where
  outgoing : initiator.outLinks.lookup key = some link
  incoming : responder.inLinks.lookup link.id = some answer
  id : answer.id = link.id
  derivedKey : answer.derivedKey = link.derivedKey
  outActive : link.status = .active
  inActive : answer.status = .active

/-- A step sends a packet that the receiver raises, whatever context it
reads in it, but for that of a keep-alive. -/
def Crosses (C : Crypto) (step : Except Fault (Node × List Effect))
    (receiver : TransportHandler) (raised : PacketContext → Effect) : Prop :=
  ∃ sender' sent packet, step = .ok (sender', sent)
    ∧ .send (.toAll packet) ∈ sent
    ∧ ∀ packet' context message draws now, Carried packet packet' →
      context ≠ .keepAlive → message.packet = { packet' with context } →
      raised context ∈ (receiver.receive C message draws now).2

/-- A packet over a link as it arrives, with some context. -/
theorem carried_packetOf {link : Link} {context : PacketContext}
    {data : Bytes} {packet' : Packet}
    (h : Carried (link.packetOf context data) packet') :
    packet' = link.packetOf context data :=
  h.eq rfl rfl rfl

namespace Channel

open TransportHandler

variable {initiator responder : Node} {key : Hash16} {link answer : Link}

theorem served
    (h : Channel initiator.handler responder.handler key link answer) :
    (key, link) ∈ wantedOf initiator.handler.outLinks
      (serves link.destination.addressHash) := by
  refine mem_wantedOf.mpr ⟨h.outgoing, ?_⟩
  unfold serves isActive
  rw [decide_eq_true rfl, decide_eq_true h.outActive]
  rfl

theorem sendToLinkId_eq
    (h : Channel initiator.handler responder.handler key link answer)
    (payload : Bytes) (context : PacketContext) (ivs : Hash16 → Block) :
    responder.handler.sendToLinkIdWithContext C link.id payload context ivs
      = if payload.length ≤ linkPayloadMax then
          .ok [.send (.toAll (answer.packetOf context
            (answer.derivedKey.fernet.token C (ivs link.id) payload)))]
        else .error .panic := by
  unfold sendToLinkIdWithContext
  rw [h.incoming]
  have hactive : (some answer).toList.filter isActive = [answer] := by
    unfold isActive
    simp [h.inActive]
  rw [hactive]
  exact sendFirst_cons ..

theorem to_responder (hC : DecryptsTexts C)
    (h : Channel initiator.handler responder.handler key link answer)
    (payload : Bytes) (context : PacketContext) (ivs : Hash16 → Block)
    (now : Nat) :
    if payload.length ≤ linkPayloadMax then
      Crosses C (initiator.step C now (.sendToOutLinks
          link.destination.addressHash payload context ivs))
        responder.handler
        fun context => .inEvent (answer.postEvent (.data payload context))
    else
      initiator.step C now (.sendToOutLinks link.destination.addressHash
        payload context ivs) = .error .panic := by
  have hserves := h.served
  have hsend := sendOver_eq (C := C) (wantedOf initiator.handler.outLinks
    (serves link.destination.addressHash)) context payload ivs
  by_cases hpayload : payload.length ≤ linkPayloadMax
  · rw [if_pos hpayload]
    rw [if_pos (.inl hpayload)] at hsend
    refine ⟨_, _, link.packetOf context
      (link.derivedKey.fernet.token C (ivs key) payload),
      Node.sending_of_ok hsend,
      List.mem_map.mpr ⟨(key, link), hserves, rfl⟩, ?_⟩
    · intro packet' context' message draws later hcarried hcontext hpacket
      rw [carried_packetOf hcarried] at hpacket
      have hdata : message.packet.data.bytes
          = answer.derivedKey.fernet.token C (ivs key) payload := by
        rw [hpacket, h.derivedKey]
        exact Link.packetOf_data hpayload
      have hincoming : responder.handler.inLinks.lookup
          message.packet.destination = some answer := by
        rw [hpacket]
        exact h.incoming
      have hraised := receive_sealed_in hC draws later hincoming
        (by rw [hpacket]; exact h.id.symm) (by rw [hpacket]; rfl)
        (by rw [hpacket]; rfl) (by rw [hpacket]; exact hcontext) hdata
        hpayload
      rw [hpacket] at hraised
      exact hraised
  · rw [if_neg hpayload]
    rw [if_neg (by
      rintro (hle | hnil)
      · exact hpayload hle
      · rw [hnil] at hserves
        cases hserves)] at hsend
    show (sendOver C _ context payload ivs >>= fun sent =>
      .ok (initiator.sending C now sent)) = _
    rw [hsend]
    rfl

theorem to_initiator (hC : DecryptsTexts C)
    (h : Channel initiator.handler responder.handler key link answer)
    (payload : Bytes) (context : PacketContext) (ivs : Hash16 → Block)
    (now : Nat) :
    if payload.length ≤ linkPayloadMax then
      Crosses C (responder.step C now (.sendToLinkId link.id payload
          context ivs)) initiator.handler
        fun context => .outEvent (link.postEvent (.data payload context))
    else
      responder.step C now (.sendToLinkId link.id payload context ivs)
        = .error .panic := by
  have hfirst := h.sendToLinkId_eq (C := C) payload context ivs
  by_cases hpayload : payload.length ≤ linkPayloadMax
  · rw [if_pos hpayload]
    rw [if_pos hpayload] at hfirst
    refine ⟨_, _, answer.packetOf context
      (answer.derivedKey.fernet.token C (ivs link.id) payload),
      Node.sending_of_ok hfirst,
      List.mem_singleton.mpr rfl, ?_⟩
    · intro packet' context' message draws later hcarried hcontext hpacket
      rw [carried_packetOf hcarried] at hpacket
      have hdata : message.packet.data.bytes
          = link.derivedKey.fernet.token C (ivs link.id) payload := by
        rw [hpacket, ← h.derivedKey]
        exact Link.packetOf_data hpayload
      have hraised := receive_sealed_out hC draws later h.outgoing
        (by rw [hpacket]; exact h.id) (by rw [hpacket]; rfl)
        (by rw [hpacket]; rfl) (by rw [hpacket]; exact hcontext) hdata
        hpayload
      rw [hpacket] at hraised
      exact hraised
  · rw [if_neg hpayload]
    rw [if_neg hpayload] at hfirst
    show (sendToLinkIdWithContext C _ link.id payload context ivs >>=
      fun sent => .ok (responder.sending C now sent)) = _
    rw [hfirst]
    rfl

/-- Over a channel a payload arrives as it was sent in either direction,
up to 1999 bytes; with more the sender panics. The context is whatever
the packet says on arrival. -/
theorem payload_crosses (hC : DecryptsTexts C)
    (h : Channel initiator.handler responder.handler key link answer)
    (payload : Bytes) (context : PacketContext) (ivs : Hash16 → Block)
    (now : Nat) :
    if payload.length ≤ 1999 then
      Crosses C (initiator.step C now (.sendToOutLinks
          link.destination.addressHash payload context ivs))
        responder.handler
        (fun context => .inEvent (answer.postEvent (.data payload context)))
      ∧ Crosses C (responder.step C now (.sendToLinkId link.id payload
          context ivs)) initiator.handler
        fun context => .outEvent (link.postEvent (.data payload context))
    else
      initiator.step C now (.sendToOutLinks link.destination.addressHash
        payload context ivs) = .error .panic
      ∧ responder.step C now (.sendToLinkId link.id payload context ivs)
        = .error .panic := by
  have hto := h.to_responder hC payload context ivs now
  have hback := h.to_initiator hC payload context ivs now
  by_cases hpayload : payload.length ≤ 1999
  · rw [if_pos (show payload.length ≤ linkPayloadMax from hpayload)] at hto
    rw [if_pos (show payload.length ≤ linkPayloadMax from hpayload)] at hback
    rw [if_pos hpayload]
    exact ⟨hto, hback⟩
  · rw [if_neg (show ¬ payload.length ≤ linkPayloadMax from hpayload)] at hto
    rw [if_neg (show ¬ payload.length ≤ linkPayloadMax from hpayload)]
      at hback
    rw [if_neg hpayload]
    exact ⟨hto, hback⟩

open Reference

/-- The link of the first secret to the server, with the key it has from
the answer. -/
noncomputable def docLink : Link :=
  { askedLink with
    status := .active
    derivedKey := asker.deriveKey crypto secondPublic
      askedLink.id.toList }

noncomputable def docAnswer : Link := { docLink with
  privIdentity := { privateKey := secondSecret, signKey := docKey } }

noncomputable def docInitiator : Node :=
  { Node.new false with
    handler.outLinks := AList.insert (server.desc crypto).addressHash
      docLink ∅ }

noncomputable def docResponder : Node :=
  { Node.new false with
    handler.inLinks := AList.insert docLink.id docAnswer ∅ }

theorem docChannel : Channel docInitiator.handler docResponder.handler
    (server.desc crypto).addressHash docLink docAnswer where
  outgoing := AList.lookup_insert _
  incoming := AList.lookup_insert _
  id := rfl
  derivedKey := rfl
  outActive := rfl
  inActive := rfl

theorem payload_crosses_doc :
    Crosses crypto (docInitiator.step crypto 0 (.sendToOutLinks
        (server.desc crypto).addressHash [0x68, 0x69] .none
        fun _ => drawnIv)) docResponder.handler
      (fun context => .inEvent (docAnswer.postEvent
        (.data [0x68, 0x69] context)))
    ∧ Crosses crypto (docResponder.step crypto 0 (.sendToLinkId docLink.id
        [0x68, 0x69] .none fun _ => drawnIv)) docInitiator.handler
      fun context => .outEvent (docLink.postEvent
        (.data [0x68, 0x69] context)) :=
  payload_crosses crypto_decryptsTexts docChannel [0x68, 0x69] .none
    (fun _ => drawnIv) 0

end Channel

-- =========================================================== handshakes

namespace Handshake

open TransportHandler

/-- The link a call asks for. -/
def asked (C : Crypto) (destination : SingleInputDestination)
    (identity : PrivateIdentity) (now : Nat) : Link :=
  ((Link.new C (destination.desc C) identity now).request C now).1

theorem request_sends {node : Node} {call : Nat}
    {destination : SingleInputDestination} (identity : PrivateIdentity)
    (now : Nat)
    (hcall : node.calls[call]?
      = some (.lookedUp (destination.desc C))) :
    (node.request C call identity now).2
        = [.send (.toAll ((asked C destination identity now).requestPacket
            C))]
      ∧ ((node.request C call identity now).1.insert
          call).handler.outLinks.lookup (destination.desc C).addressHash
        = some (asked C destination identity now) := by
  have hlength := (List.getElem?_eq_some_iff.mp hcall).1
  have hrequest : node.request C call identity now
      = Node.sending C ⟨node.handler, node.calls.set call
            (.requested (asked C destination identity now))⟩ now
          [.send (.toAll
            ((asked C destination identity now).requestPacket C))] := by
    unfold Node.request
    rw [hcall]
    rfl
  have hset : (node.request C call identity now).1.calls[call]?
      = some (.requested (asked C destination identity now)) := by
    rw [hrequest]
    exact List.getElem?_set_self hlength
  refine ⟨by rw [hrequest]; rfl, ?_⟩
  unfold Node.insert
  rw [hset]
  exact AList.lookup_insert _

/-- The answer to a request that was asked for is a channel as soon as
the proof is there. -/
theorem answer_of_asked {responder : TransportHandler}
    {destination : SingleInputDestination} {identity : PrivateIdentity}
    {asks : Nat} {message : RxMessage} (draws : Draws) (now : Nat)
    (hserved : responder.singleInDestinations.lookup
      (destination.desc C).addressHash = some destination)
    (hnew : (asked C destination identity asks).id ∉ responder.inLinks)
    (hpacket : message.packet
      = (asked C destination identity asks).requestPacket C) :
    ∃ answer, responder.acceptRequest C message.packet draws.secret now
        = some answer
      ∧ answer.id = (asked C destination identity asks).id
      ∧ answer.privIdentity
        = ⟨draws.secret, destination.identity.signKey⟩
      ∧ answer.status = .handshake
      ∧ answer.derivedKey = answer.privIdentity.deriveKey C
          (C.publicKey identity.privateKey) answer.id.toList := by
  have hdata : message.packet.data.bytes
      = (identity.asIdentity C).publicKey.toList
        ++ (identity.asIdentity C).verifyingKey.toList := by
    rw [hpacket, Link.requestPacket_data]
    rfl
  have hpublic : Link.publicKeyAt message.packet.data.bytes 0
      = C.publicKey identity.privateKey := by
    rw [hdata]
    exact @publicKeyAt_append [] _ _ 0 rfl
  have hid : linkId C.toPlatform message.packet
      = (asked C destination identity asks).id := by
    rw [hpacket]
    rfl
  have hserved' : responder.singleInDestinations.lookup
      message.packet.destination = some destination := by
    rw [hpacket]
    exact hserved
  obtain ⟨answer, haccept, hanswer⟩ := acceptRequest_of_served (C := C)
    draws.secret now hserved'
    (by rw [hpacket]; rfl) (by rw [hpacket]; rfl)
    (by
      rw [hdata, List.length_append, List.Vector.toList_length,
        List.Vector.toList_length]
      exact Nat.le_refl _)
    (by rw [hid]; exact hnew)
  obtain ⟨-, hid', -, hpriv, hstatus, -, -, hkey⟩ :=
    Link.newFromRequest_eq_ok hanswer
  rw [hpublic] at hkey
  exact ⟨answer, haccept, hid'.trans hid, hpriv, hstatus, hkey⟩

/-- What a node sends to all after an answer is the proof: what it sends
on keeps away from one interface. -/
theorem toAll_of_mem {h : TransportHandler} {message : RxMessage}
    {event : LinkEventData} {packet proof : Packet}
    (hmem : Effect.send (.toAll packet)
      ∈ Effect.received message :: (h.rebroadcast message
        ++ ([event].map .inEvent ++ [.send (.toAll proof)]))) :
    packet = proof := by
  rcases List.mem_cons.mp hmem with hreceived | hmem
  · cases hreceived
  rcases List.mem_append.mp hmem with hsent | hmem
  · unfold rebroadcast at hsent
    split at hsent
    case isTrue => cases List.mem_singleton.mp hsent
    case isFalse => cases hsent
  · rcases List.mem_append.mp hmem with hevent | hproof
    · cases List.mem_singleton.mp hevent
    · injection List.mem_singleton.mp hproof with hproof
      injection hproof

/-- A call asks for a link; a node that serves the destination, and has
no link of this id, reads the request and answers; the initiator reads
the proof. Then both have told that the link is active, it is a channel,
and the round trip time arrives over it. -/
theorem handshake_completes (hsigns : SignsStrictly C)
    (hvalid : MakesValidKeys C) (hexchange : ExchangeCommutes C)
    (hC : DecryptsTexts C) {initiator responder : Node}
    {destination : SingleInputDestination} {call : Nat}
    {identity : PrivateIdentity} {asks answers proves reads : Nat}
    {request proof : Packet} {message message' : RxMessage}
    {draws draws' : Draws}
    (hcall : initiator.calls[call]?
      = some (.lookedUp (destination.desc C)))
    (hserved : responder.handler.singleInDestinations.lookup
      (destination.desc C).addressHash = some destination)
    (hnew : (asked C destination identity asks).id
      ∉ responder.handler.inLinks)
    (hrequest : .send (.toAll request)
      ∈ (initiator.request C call identity asks).2)
    (hcarried : Carried request message.packet)
    (hproof : .send (.toAll proof)
      ∈ (responder.handler.receive C message draws answers).2)
    (hcarried' : Carried proof message'.packet) :
    let waiting := (initiator.request C call identity asks).1.insert call
    let answered := responder.handler.receive C message draws answers
    let proved := waiting.handler.receive C message' draws' proves
    ∃ link answer, Channel proved.1 answered.1
        (destination.desc C).addressHash link answer
      ∧ .outEvent (link.postEvent .activated) ∈ proved.2
      ∧ .inEvent (answer.postEvent .activated) ∈ answered.2
      ∧ ∃ rtt, .send (.toAll rtt) ∈ proved.2
        ∧ ∀ message'' draws'', Carried rtt message''.packet →
          .inEvent (answer.postEvent
              (.data (draws'.writeF32 link.rtt).toList .linkRtt))
            ∈ (answered.1.receive C message'' draws'' reads).2 := by
  intro waiting answered proved
  obtain ⟨hsent, hwaiting⟩ := request_sends (C := C) identity asks hcall
  -- the request arrives as it was sent
  rw [hsent] at hrequest
  injection List.mem_singleton.mp hrequest with hrequest
  injection hrequest with _ hrequest
  have hpacket : message.packet
      = (asked C destination identity asks).requestPacket C := by
    rw [hrequest] at hcarried
    exact hcarried.eq rfl rfl rfl
  obtain ⟨answer, haccept, hid, hpriv, hstatus, hkey⟩ := answer_of_asked
    draws answers hserved hnew hpacket
  obtain ⟨hincoming, heffects⟩ := receive_request
    (by rw [hpacket]; rfl) haccept
  have hprove : (answer.prove C).2.2
      = [Link.postEvent { answer with status := .active } .activated] := by
    unfold Link.prove
    rw [hstatus, if_pos (by decide)]
  rw [hprove] at heffects
  -- so does the proof
  have hproofPacket : proof = answer.proofPacket C := by
    rw [heffects] at hproof
    exact toAll_of_mem hproof
  have hpacket' : message'.packet = answer.proofPacket C := by
    rw [hproofPacket] at hcarried'
    exact hcarried'.eq rfl rfl rfl
  have hsigner : (destination.desc C).identity.verifyingKey
      = C.verifyingKey answer.privIdentity.signKey := by
    rw [hpriv]
    rfl
  have hvalidates := Link.validateProofPacket_proof hsigns hvalid hsigner
    (congrArg (fun packet => packet.data.bytes) hpacket')
  obtain ⟨hactive, hactivated, hrtt⟩ := receive_proof draws' proves
    hwaiting (by rw [hpacket']; exact hid)
    (by rw [hpacket']; rfl) (by rw [hpacket']; rfl) rfl
    (by rw [← hid]; exact hvalidates)
  have hderived : answer.derivedKey
      = identity.deriveKey C (C.publicKey draws.secret) answer.id.toList := by
    rw [hkey, hpriv]
    unfold PrivateIdentity.deriveKey
    rw [hexchange]
  have hchannel : Channel proved.1 answered.1
      (destination.desc C).addressHash _ { answer with status := .active } :=
    { outgoing := hactive
      incoming := by
        show answered.1.inLinks.lookup (asked C destination identity asks).id
          = _
        rw [← hid]
        exact hincoming
      id := hid
      derivedKey := by
        show answer.derivedKey = _
        rw [hderived, hid, hpriv]
        rfl
      outActive := rfl
      inActive := rfl }
  refine ⟨_, _, hchannel, hactivated, ?_, _, hrtt, ?_⟩
  · show _ ∈ (responder.handler.receive C message draws answers).2
    rw [heffects]
    exact List.mem_cons_of_mem _ (List.mem_append_right _
      (List.mem_append_left _ (List.mem_singleton.mpr rfl)))
  · intro message'' draws'' hcarried''
    have hpacket'' := carried_packetOf hcarried''
    have hpayload (rtt : FixedBytes 5) :
        rtt.toList.length ≤ linkPayloadMax := by
      rw [rtt.toList_length]
      decide
    have hincoming' : answered.1.inLinks.lookup
        message''.packet.destination
        = some { answer with status := .active } := by
      rw [hpacket'']
      exact hchannel.incoming
    have hraised := receive_sealed_in hC draws'' reads hincoming'
      (by rw [hpacket'']; exact hid.symm) (by rw [hpacket'']; rfl)
      (by rw [hpacket'']; rfl) (by rw [hpacket'']; exact nofun)
      (by
        rw [hpacket'', Link.packetOf_data (hpayload _)]
        rw [← hchannel.derivedKey])
      (hpayload _)
    rw [hpacket''] at hraised
    exact hraised

open Reference

noncomputable def docAsking : Node :=
  { Node.new false with calls := [.lookedUp (server.desc crypto)] }

noncomputable def docServing : Node :=
  { Node.new false with
    handler.singleInDestinations :=
      AList.insert (server.desc crypto).addressHash server ∅ }

/-- The server answers after 40 ms, and the proof is there after 250. -/
theorem handshake_completes_doc :
    ∃ proof link answer,
      .send (.toAll proof)
        ∈ (docServing.handler.receive crypto Reference.request drawn 40).2
      ∧ Channel
        (((docAsking.request crypto 0 asker 0).1.insert 0).handler.receive
          crypto ⟨iface, proof⟩ drawn 250).1
        (docServing.handler.receive crypto Reference.request drawn 40).1
        (server.desc crypto).addressHash link answer := by
  have hserved : docServing.handler.singleInDestinations.lookup
      (server.desc crypto).addressHash = some server :=
    AList.lookup_insert _
  have hnew : (asked crypto server asker 0).id
      ∉ docServing.handler.inLinks := List.not_mem_nil
  have hpacket : Reference.request.packet
      = (asked crypto server asker 0).requestPacket crypto := rfl
  obtain ⟨answer, haccept, -⟩ :=
    answer_of_asked drawn 40 hserved hnew hpacket
  obtain ⟨-, hsent⟩ := TransportHandler.receive_request rfl haccept
  have hproof : .send (.toAll (answer.proofPacket crypto))
      ∈ (docServing.handler.receive crypto Reference.request drawn 40).2 := by
    rw [hsent]
    simp
  have hcall : docAsking.calls[0]?
      = some (.lookedUp (server.desc crypto)) := rfl
  have hrequest : .send (.toAll Reference.request.packet)
      ∈ (docAsking.request crypto 0 asker 0).2 :=
    List.mem_singleton.mpr rfl
  have hcarried : Carried Reference.request.packet Reference.request.packet :=
    carried_self nofun rfl
  have hcarried' : Carried (answer.proofPacket crypto)
      (answer.proofPacket crypto) := carried_self nofun rfl
  obtain ⟨link, answer', hchannel, -⟩ := @handshake_completes crypto
    crypto_signsStrictly crypto_makesValidKeys crypto_exchangeCommutes
    crypto_decryptsTexts docAsking docServing server 0 asker 0 40 250 300
    Reference.request.packet (answer.proofPacket crypto) Reference.request
    ⟨iface, answer.proofPacket crypto⟩ drawn drawn hcall hserved hnew
    hrequest hcarried hproof hcarried'
  exact ⟨_, link, answer', hproof, hchannel⟩

end Handshake

end Lxmf.Reticulum
