/-
What one step of a node does to its links.

`step_outLink` says of each outgoing link after a step where it comes
from: what was under the key before, moved by the step, or a link that is
new. `step_call` says the same of the calls of `Transport::link`. The
invariants over runs are told from these two.

# One packet

`handlePacket` moves a link in three ways: data is read or not, a
keep-alive is noted, a proof is taken (`handlePacket_handled`). The ends
of a link never change.
-/
import Lxmf.Node
import Lxmf.Library.Except

namespace Lxmf.Reticulum

variable {C : Crypto}

-- ================================================================ loops

/-- A visit changes each link on its own. -/
theorem lookup_visitLinks (links : HashMap Hash16 Link)
    (visit : Hash16 → Link → Link × List Effect) (key : Hash16) :
    (visitLinks links visit).1.lookup key
      = (links.lookup key).map fun link => (visit key link).1 :=
  HashMap.lookup_mapValues links _ key

/-- Its effects are those at the single links. -/
theorem mem_visitLinks {links : HashMap Hash16 Link}
    {visit : Hash16 → Link → Link × List Effect} {effect : Effect} :
    effect ∈ (visitLinks links visit).2
      ↔ ∃ key link, links.lookup key = some link
          ∧ effect ∈ (visit key link).2 := by
  unfold visitLinks
  rw [List.mem_flatMap]
  constructor
  · rintro ⟨⟨key, link⟩, hmem, heffect⟩
    exact ⟨key, link, HashMap.mem_entries_iff.mp hmem, heffect⟩
  · rintro ⟨key, link, hlink, heffect⟩
    exact ⟨⟨key, link⟩, HashMap.mem_entries_iff.mpr hlink, heffect⟩

-- ============================================================ one packet

namespace Link

/-- The two ends of a link, which nothing changes. -/
structure SameEnds (link link' : Link) : Prop where
  id : link'.id = link.id
  destination : link'.destination = link.destination
  privIdentity : link'.privIdentity = link.privIdentity

/-- The request of a link says its ends only, so that it is repeated as it
was. -/
theorem SameEnds.requestPacket {link link' : Link}
    (h : link.SameEnds link') :
    link'.requestPacket C = link.requestPacket C := by
  unfold Link.requestPacket
  rw [h.destination, h.privIdentity]

/-- What `handle_packet` can do: nothing; note that the peer is there;
post what the data decrypts to; take a proof. -/
inductive Handled (C : Crypto) (link : Link) (packet : Packet)
    (now : Nat) : Link × LinkHandleResult × List LinkEventData → Prop where
  | ignored : Handled C link packet now (link, .none, [])
  | keepAlive (result : LinkHandleResult) :
      packet.destination = link.id →
      packet.header.packetType = .data →
      packet.context = .keepAlive →
      Handled C link packet now
        ({ link with requestTime := now }, result, [])
  | data (text : Bytes) : packet.destination = link.id →
      packet.header.packetType = .data → packet.context ≠ .keepAlive →
      link.decrypt C packet.data.bytes = .ok text →
      Handled C link packet now
        ({ link with requestTime := now }, .none,
          [link.postEvent (.data (text.take packetMdu) packet.context)])
  | proof (identity : Identity) : packet.destination = link.id →
      packet.header.packetType = .proof → link.status = .pending →
      packet.context = .linkRequestProof →
      validateProofPacket C link.destination link.id packet
        = .ok identity →
      Handled C link packet now
        ({ link.handshake C identity with
            status := .active, rtt := now - link.requestTime }, .activated,
          [(link.handshake C identity).postEvent .activated])

/-- A data packet shows that the peer is there, and what it decrypts to is
posted. -/
theorem handleDataPacket_handled {link : Link} {packet : Packet}
    {now : Nat} (hid : packet.destination = link.id)
    (htype : packet.header.packetType = .data) :
    Handled C link packet now (link.handleDataPacket C packet now) := by
  unfold handleDataPacket
  split
  case isTrue hcontext =>
    split
    case h_1 => exact .keepAlive .keepAlive hid htype hcontext
    case h_2 => exact .keepAlive .none hid htype hcontext
    case h_3 => exact .ignored
  case isFalse hcontext =>
    split
    case h_1 text htext => exact .data text hid htype hcontext htext
    case h_2 => exact .ignored

/-- Every packet does one of these. -/
theorem handlePacket_handled (link : Link) (packet : Packet) (now : Nat) :
    Handled C link packet now (link.handlePacket C packet now) := by
  unfold handlePacket
  split
  case isTrue => exact .ignored
  case isFalse hid =>
    rw [not_not] at hid
    split
    case h_1 htype => exact handleDataPacket_handled hid htype
    case h_2 htype =>
      split
      case isTrue hpending =>
        split
        case h_1 identity hproof =>
          exact .proof identity hid htype hpending.1 hpending.2 hproof
        case h_2 => exact .ignored
      case isFalse => exact .ignored
    case h_3 => exact .ignored

end Link

namespace TransportHandler

/-- The visits of a packet differ in their effects only. -/
theorem visitProof_fst (packet : Packet) (draws : Draws) (now : Nat)
    (key : Hash16) (link : Link) :
    (visitProof C packet draws now key link).1
      = (link.handlePacket C packet now).1 := by
  unfold visitProof
  split
  case h_1 h =>
    rw [h]
    split <;> rfl
  case h_2 h => rw [h]

theorem visitIncoming_fst (packet : Packet) (now : Nat) (link : Link) :
    (visitIncoming C packet now link).1
      = (link.handlePacket C packet now).1 := by
  unfold visitIncoming
  split
  case h_1 h => rw [h]
  case h_2 h => rw [h]

/-- A request that is answered is for a destination of the node, and
there is no link of its id. -/
theorem acceptRequest_eq_some {h : TransportHandler} {packet : Packet}
    {secret : SecretKey} {now : Nat} {link : Link}
    (haccept : h.acceptRequest C packet secret now = some link) :
    ∃ destination,
      h.singleInDestinations.lookup packet.destination = some destination
        ∧ (destination.desc C).addressHash = packet.destination
        ∧ linkId C.toPlatform packet ∉ h.inLinks
        ∧ Link.newFromRequest C packet destination.identity.signKey
            (destination.desc C) secret now = .ok link := by
  unfold acceptRequest at haccept
  obtain ⟨destination, hserved, haccept⟩ :=
    Option.bind_eq_some_iff.mp haccept
  split at haccept
  case h_1 hstatus =>
    have haddress : (destination.desc C).addressHash
        = packet.destination := by
      by_contra hne
      unfold SingleInputDestination.handlePacket at hstatus
      rw [if_pos hne] at hstatus
      cases hstatus
    split at haccept
    case isTrue => cases haccept
    case isFalse hnew =>
      split at haccept
      case h_1 link' hlink =>
        injection haccept with haccept
        subst haccept
        exact ⟨destination, hserved, haddress, hnew, hlink⟩
      case h_2 => cases haccept
  case h_2 => cases haccept

end TransportHandler

-- ================================================================ steps

namespace Node

open TransportHandler

/-- What is left of a node by a step that is about neither its links nor
its calls. -/
structure SameLinks (node node' : Node) : Prop where
  outLinks : node'.handler.outLinks = node.handler.outLinks
  inLinks : node'.handler.inLinks = node.handler.inLinks
  singleOut : node'.handler.singleOutDestinations
    = node.handler.singleOutDestinations
  calls : node'.calls = node.calls

/-- The steps, as far as they are about links. -/
inductive Stepped (C : Crypto) (node : Node) (now : Nat) :
    Event → Node → Prop where
  | receive (message : RxMessage) (draws : Draws) :
      Stepped C node now (.receive message draws)
        { node with
          handler := (node.handler.receive C message draws now).1 }
  | checkLinks : Stepped C node now .checkLinks
      { node with handler := (node.handler.handleCheckLinks C now).1 }
  | link (destination : DestinationDesc) :
      Stepped C node now (.link destination) (node.lookUp destination)
  | request (call : Nat) (identity : PrivateIdentity) :
      Stepped C node now (.request call identity)
        (node.request C call identity now).1
  | insert (call : Nat) :
      Stepped C node now (.insert call) (node.insert call)
  | closeLink (key : Hash16) :
      Stepped C node now (.closeLink key) (node.closeLink key).1
  | other (event : Event) (node' : Node) :
      (∀ message draws, event ≠ .receive message draws) →
      SameLinks node node' → Stepped C node now event node'

/-- An event that only sends leaves the links as they are. -/
theorem sent_same {node node' : Node} {now : Nat} {event : Event}
    {effects : List Effect} {x : Except Fault (List Effect)}
    (hevent : ∀ message draws, event ≠ .receive message draws)
    (h : (x >>= fun sent => .ok (node.sending C now sent))
      = .ok (node', effects)) : Stepped C node now event node' := by
  obtain ⟨sent, -, hsent⟩ := Except.bind_eq_ok.mp h
  injection hsent with hsent
  obtain ⟨rfl, -⟩ := Prod.mk.inj hsent
  exact .other _ _ hevent ⟨rfl, rfl, rfl, rfl⟩

/-- What a call sends, when it does not panic. -/
theorem sending_of_ok {node : Node} {now : Nat} {sent : List Effect}
    {x : Except Fault (List Effect)} (h : x = .ok sent) :
    (x >>= fun sent => .ok (node.sending C now sent))
      = .ok (node.sending C now sent) := by
  rw [h, Except.ok_bind]

/-- What a step can do to a node. -/
theorem step_cases {node node' : Node} {now : Nat} {event : Event}
    {effects : List Effect}
    (h : node.step C now event = .ok (node', effects)) :
    Stepped C node now event node' := by
  cases event with
  | sendToAllOutLinks payload ivs => exact sent_same (by rintro _ _ ⟨⟩) h
  | sendToOutLinks destination payload context ivs => exact sent_same (by rintro _ _ ⟨⟩) h
  | sendToInLinks destination payload ivs => exact sent_same (by rintro _ _ ⟨⟩) h
  | sendToLinkId id payload context ivs => exact sent_same (by rintro _ _ ⟨⟩) h
  | sendAnnounce destination randHash appData =>
      simp only [step] at h
      split at h
      case h_1 =>
        injection h with h
        obtain ⟨rfl, -⟩ := Prod.mk.inj h
        exact .other _ _ (by rintro _ _ ⟨⟩) ⟨rfl, rfl, rfl, rfl⟩
      case h_2 => cases h
  | _ =>
      injection h with h
      obtain ⟨rfl, -⟩ := Prod.mk.inj h
      first
        | exact .receive _ _
        | exact .checkLinks
        | exact .link _
        | exact .request _ _
        | exact .insert _
        | exact .closeLink _
        | exact .other _ _ (by rintro _ _ ⟨⟩) ⟨rfl, rfl, rfl, rfl⟩

-- ------------------------------------------------------- outgoing links

/-- How a step moves an outgoing link that was there. -/
inductive OutMove (C : Crypto) (now : Nat) (link : Link) :
    Event → Link → Prop where
  | same (event : Event) : OutMove C now link event link
  | handled (message : RxMessage) (draws : Draws) :
      OutMove C now link (.receive message draws)
        (link.handlePacket C message.packet now).1
  | checked : OutMove C now link .checkLinks (visitPending C now link).1
  | closed (key : Hash16) : OutMove C now link (.closeLink key) link.close.1

/-- Where an outgoing link comes from. -/
def OutComes (C : Crypto) (node : Node) (now : Nat) (event : Event)
    (key : Hash16) (link' : Link) : Prop :=
  (∃ link, node.handler.outLinks.lookup key = some link
      ∧ OutMove C now link event link')
    ∨ ∃ call : Nat, node.calls[call]? = some (.requested link')
        ∧ key = link'.destination.addressHash

/-- A link that was there may have stayed. -/
theorem outComes_same {node : Node} {now : Nat} {event : Event}
    {key : Hash16} {link : Link}
    (h : node.handler.outLinks.lookup key = some link) :
    OutComes C node now event key link :=
  Or.inl ⟨link, h, .same event⟩

/-- Where an outgoing link comes from after a packet. -/
theorem receive_outLink {node : Node} {now : Nat} {message : RxMessage}
    {draws : Draws} {key : Hash16} {link' : Link}
    (h : (node.handler.receive C message draws now).1.outLinks.lookup key
      = some link') :
    OutComes C node now (.receive message draws) key link' := by
  have hvisit (visit : Hash16 → Link → Link × List Effect)
      (hfst : ∀ key link, (visit key link).1
        = (link.handlePacket C message.packet now).1)
      (h : (visitLinks node.handler.outLinks visit).1.lookup key
        = some link') :
      OutComes C node now (.receive message draws) key link' := by
    rw [lookup_visitLinks, Option.map_eq_some_iff] at h
    obtain ⟨link, hlink, rfl⟩ := h
    rw [hfst]
    exact Or.inl ⟨link, hlink, .handled message draws⟩
  replace h : (node.handler.handlePacket C message.packet draws
      now).1.outLinks.lookup key = some link' := h
  unfold TransportHandler.handlePacket at h
  split at h
  case h_1 =>
    unfold handleAnnounce at h
    split at h
    case h_1 =>
      by_cases hknown : message.packet.destination
          ∈ node.handler.singleOutDestinations
      · rw [if_pos hknown] at h
        exact outComes_same h
      · rw [if_neg hknown] at h
        exact outComes_same h
    case h_2 => exact outComes_same h
  case h_2 =>
    unfold handleLinkRequest at h
    split at h
    case h_1 => exact outComes_same h
    case h_2 => exact outComes_same h
  case h_3 =>
    exact hvisit _ (fun key link => visitProof_fst ..) h
  case h_4 =>
    unfold handleData at h
    split at h
    case isTrue => exact hvisit _ (fun _ _ => rfl) h
    case isFalse => exact outComes_same h

theorem lookUp_handler (node : Node) (destination : DestinationDesc) :
    (node.lookUp destination).handler = node.handler := by
  unfold lookUp
  split
  case h_1 => split <;> rfl
  case h_2 => rfl

theorem request_handler (node : Node) (call : Nat)
    (identity : PrivateIdentity) (now : Nat) :
    (node.request C call identity now).1.handler.outLinks
        = node.handler.outLinks
      ∧ (node.request C call identity now).1.handler.inLinks
        = node.handler.inLinks := by
  unfold request
  split <;> exact ⟨rfl, rfl⟩

/-- The end of a call brings one link in. -/
theorem insert_outLink {node : Node} {now call : Nat} {key : Hash16}
    {link' : Link}
    (h : (node.insert call).handler.outLinks.lookup key = some link') :
    OutComes C node now (.insert call) key link' := by
  unfold insert at h
  split at h
  case h_1 link hcall =>
    by_cases hkey : key = link.destination.addressHash
    · subst hkey
      rw [AList.lookup_insert] at h
      injection h with h
      subst h
      exact Or.inr ⟨call, hcall, rfl⟩
    · rw [AList.lookup_insert_ne hkey] at h
      exact outComes_same h
  case h_2 => exact outComes_same h

/-- A link that is closed stays in its place. -/
theorem closeLink_outLink {node : Node} {now : Nat} {key key' : Hash16}
    {link' : Link}
    (h : (node.closeLink key').1.handler.outLinks.lookup key
      = some link') :
    OutComes C node now (.closeLink key') key link' := by
  unfold closeLink at h
  split at h
  case h_1 link hlink =>
    rw [HashMap.lookup_mapValues, Option.map_eq_some_iff] at h
    obtain ⟨old, hold, hlink'⟩ := h
    by_cases hkey : key = key'
    · subst hkey
      rw [if_pos rfl] at hlink'
      subst hlink'
      exact Or.inl ⟨link, hlink, .closed key⟩
    · rw [if_neg hkey] at hlink'
      subst hlink'
      exact outComes_same hold
  case h_2 => exact outComes_same h

theorem insert_inLinks (node : Node) (call : Nat) :
    (node.insert call).handler.inLinks = node.handler.inLinks := by
  unfold insert
  split <;> rfl

theorem closeLink_inLinks (node : Node) (key : Hash16) :
    (node.closeLink key).1.handler.inLinks = node.handler.inLinks := by
  unfold closeLink
  split <;> rfl

/-- Every outgoing link after a step was there before, and the step moved
it, or it is the link of a call. -/
theorem step_outLink {node node' : Node} {now : Nat} {event : Event}
    {effects : List Effect} {key : Hash16} {link' : Link}
    (hstep : node.step C now event = .ok (node', effects))
    (h : node'.handler.outLinks.lookup key = some link') :
    OutComes C node now event key link' := by
  cases step_cases hstep with
  | receive message draws => exact receive_outLink h
  | checkLinks =>
      replace h : (visitLinks _ _).1.lookup key = some link' := h
      rw [lookup_visitLinks, Option.map_eq_some_iff] at h
      obtain ⟨link, hlink, rfl⟩ := h
      rw [HashMap.lookup_retain, Option.filter_eq_some_iff] at hlink
      exact Or.inl ⟨link, hlink.1, .checked⟩
  | link destination =>
      rw [lookUp_handler] at h
      exact outComes_same h
  | request call identity =>
      rw [(request_handler ..).1] at h
      exact outComes_same h
  | insert call => exact insert_outLink h
  | closeLink key' => exact closeLink_outLink h
  | other _ _ _ hsame =>
      rw [hsame.outLinks] at h
      exact outComes_same h

-- ---------------------------------------------------------------- calls

/-- Every call after a step was there before, or looked up, or it sent a
request. -/
theorem step_call {node node' : Node} {now : Nat} {event : Event}
    {effects : List Effect} {link : Link}
    (hstep : node.step C now event = .ok (node', effects))
    (h : LinkCall.requested link ∈ node'.calls) :
    LinkCall.requested link ∈ node.calls
      ∨ ∃ destination identity,
          link = ((Link.new C destination identity now).request C now).1 := by
  cases step_cases hstep with
  | receive message draws => exact .inl h
  | checkLinks => exact .inl h
  | link destination =>
      unfold lookUp at h
      split at h
      case h_1 =>
        split at h
        case isTrue => exact .inl h
        case isFalse =>
          rcases List.mem_append.mp h with hold | hnew
          · exact .inl hold
          · cases List.mem_singleton.mp hnew
      case h_2 =>
        rcases List.mem_append.mp h with hold | hnew
        · exact .inl hold
        · cases List.mem_singleton.mp hnew
  | request call identity =>
      unfold request at h
      split at h
      case h_1 destination hcall =>
        rcases List.mem_or_eq_of_mem_set h with hold | hnew
        · exact .inl hold
        · injection hnew with hnew
          exact .inr ⟨destination, identity, hnew⟩
      case h_2 => exact .inl h
  | insert call =>
      unfold insert at h
      split at h
      case h_1 => exact .inl (List.mem_of_mem_eraseIdx h)
      case h_2 => exact .inl h
  | closeLink key' =>
      unfold closeLink at h
      split at h
      case h_1 => exact .inl h
      case h_2 => exact .inl h
  | other _ _ _ hsame =>
      rw [hsame.calls] at h
      exact .inl h

end Node

end Lxmf.Reticulum
