/-
Who can write to a link before it is proved.

A new link has the zero key, and its id is the hash of a request that
anybody can read. `handle_data_packet` warns of data that come before the
link is active, and posts them. So until a proof comes for its id, what
anyone seals under the zero key is data of the link
(`unproved_link_open`).
-/
import Lxmf.Proofs.Handshake
import Lxmf.Proofs.LinkAgreement
import Lxmf.Proofs.Destinations

namespace Lxmf.Reticulum

variable {C : Crypto} {id : Hash16}

open Mesh (OwnId ownId_of_sameEnds)
open TransportHandler

/-- A proof comes for a link of this id. -/
def ProofFor (id : Hash16) : Event → Prop
  | .receive message _ => message.packet.header.packetType = .proof
      ∧ message.packet.destination = id
  | _ => False

/-- A link which, if it has this id, has the keys it was made with. -/
structure Unproved (C : Crypto) (id : Hash16) (link : Link) : Prop where
  own : OwnId C link
  keys : link.id = id →
    link.derivedKey = .empty ∧ link.peerIdentity = .empty C

/-- A link stays unproved as long as its ends, its key and its peer stay.
-/
theorem Unproved.keep {link link' : Link} (h : Unproved C id link)
    (hends : link.SameEnds link') (hkey : link'.derivedKey = link.derivedKey)
    (hpeer : link'.peerIdentity = link.peerIdentity) :
    Unproved C id link' where
  own := ownId_of_sameEnds h.own hends
  keys hid := by
    rw [hkey, hpeer]
    exact h.keys (hends.id.symm.trans hid)

/-- Any packet but a proof for the link leaves it unproved. -/
theorem Unproved.handle {link : Link} {message : RxMessage} {draws : Draws}
    (h : Unproved C id link)
    (hproof : ¬ ProofFor id (.receive message draws)) (now : Nat) :
    Unproved C id (link.handlePacket C message.packet now).1 := by
  have hhandled := Link.handlePacket_handled (C := C) link message.packet now
  generalize link.handlePacket C message.packet now = result
    at hhandled ⊢
  cases hhandled with
  | ignored => exact h
  | keepAlive => exact h.keep ⟨rfl, rfl, rfl⟩ rfl rfl
  | data => exact h.keep ⟨rfl, rfl, rfl⟩ rfl rfl
  | proof identity hdest htype =>
      refine ⟨ownId_of_sameEnds h.own ⟨rfl, rfl, rfl⟩, fun hid => ?_⟩
      exact absurd ⟨htype, hdest.trans hid⟩ hproof

/-- So does asking again. -/
theorem Unproved.request {link : Link} (h : Unproved C id link)
    (now : Nat) : Unproved C id (link.request C now).1 :=
  h.keep ⟨h.own.symm, rfl, rfl⟩ rfl rfl

/-- And a check of the links, which does no more than that. -/
theorem Unproved.visitPending {link : Link} (h : Unproved C id link)
    (now : Nat) : Unproved C id (visitPending C now link).1 := by
  have hidle : Unproved C id (restartIdle now link) := by
    unfold restartIdle
    split
    case isTrue => exact h.keep ⟨rfl, rfl, rfl⟩ rfl rfl
    case isFalse => exact h
  unfold TransportHandler.visitPending repeatRequest
  split
  case isTrue => exact hidle.request now
  case isFalse => exact hidle

/-- Every link of a node, and every link of a call. -/
structure Node.AllUnproved (C : Crypto) (id : Hash16) (node : Node) :
    Prop where
  outLinks : ∀ key link, node.handler.outLinks.lookup key = some link →
    Unproved C id link
  calls : ∀ link, .requested link ∈ node.calls → Unproved C id link

/-- A step of the node without a proof for the id keeps every such link. -/
theorem Node.allUnproved_apply {node node' : Node} {timed : Nat × Event}
    (h : node.AllUnproved C id) (hproof : ¬ ProofFor id timed.2)
    (happly : Node.apply C timed node = some node') :
    node'.AllUnproved C id := by
  unfold Node.apply at happly
  split at happly
  case h_1 next effects hstep =>
    injection happly with happly
    subst happly
    constructor
    · intro key link hlink
      rcases step_outLink hstep hlink with ⟨old, hold, hmove⟩ | hcall
      · have hinv := h.outLinks key old hold
        generalize timed.2 = event at hmove hproof
        cases hmove with
        | same => exact hinv
        | handled message draws => exact hinv.handle hproof timed.1
        | checked => exact hinv.visitPending timed.1
        | closed => exact hinv.keep ⟨rfl, rfl, rfl⟩ rfl rfl
      · obtain ⟨call, hcall, -⟩ := hcall
        exact h.calls link (List.mem_of_getElem? hcall)
    · intro link hlink
      rcases step_call hstep hlink with hold | ⟨destination, identity, rfl⟩
      · exact h.calls link hold
      · exact ⟨rfl, fun _ => ⟨rfl, rfl⟩⟩
  case h_2 => cases happly

/-- What anyone can make who knows the id of a link: data under the zero
key. -/
def openPacket (C : Crypto) (id : Hash16) (context : PacketContext)
    (iv : Block) (payload : Bytes) : Packet where
  header := { destinationType := .link, packetType := .data }
  ifac := none
  destination := id
  transport := none
  context
  data := safeWrite emptyData (DerivedKey.empty.fernet.token C iv payload)

/-- Until a proof comes for its id, an outgoing link posts as its data
whatever anyone seals under the zero key: up to 1999 bytes, under any
context but that of a keep-alive. -/
theorem unproved_link_open (hC : DecryptsTexts C) {broadcast : Bool}
    {node : Node} {key : Hash16} {link : Link}
    (hreach : Run.Reaches (Node.apply C)
      (fun _ timed => ¬ ProofFor link.id timed.2) (.new broadcast) node)
    (hlink : node.handler.outLinks.lookup key = some link)
    (context : PacketContext) (hcontext : context ≠ .keepAlive)
    (iv : Block) (payload : Bytes) (hpayload : payload.length ≤ 1999)
    (address : Hash16) (draws : Draws) (now : Nat) :
    .outEvent {
        id := link.id
        addressHash := link.destination.addressHash
        event := .data payload context
        peerIdentityHash := (Identity.empty C).addressHash }
      ∈ (node.handler.receive C
          ⟨address, openPacket C link.id context iv payload⟩ draws now).2 := by
  have hinv : node.AllUnproved C link.id := by
    refine hreach.invariant ⟨?_, ?_⟩ fun _ _ _ h hproof happly =>
      Node.allUnproved_apply h hproof happly
    · intro key link hlink
      cases hlink
    · intro link hlink
      cases hlink
  obtain ⟨hkey, hpeer⟩ := (hinv.outLinks key link hlink).keys rfl
  have hdata : (openPacket C link.id context iv payload).data.bytes
      = DerivedKey.empty.fernet.token C iv payload :=
    bytes_safeWrite_emptyData _ (by
      rw [length_token]
      exact tokenLength_le_packet.mpr hpayload)
  rw [← hkey] at hdata
  have hposted := @receive_sealed_out C hC node.handler
    ⟨address, openPacket C link.id context iv payload⟩ draws now key link iv
    payload hlink rfl rfl rfl hcontext hdata hpayload
  unfold Link.postEvent at hposted
  rw [hpeer] at hposted
  exact hposted

open Reference

/-- A call has asked for a link. -/
noncomputable def docWaiting : List (Nat × Event) :=
  [(0, .link (server.desc crypto)), (0, .request 0 asker), (0, .insert 0)]

theorem unproved_link_open_doc :
    ∃ node, Run.Reaches (Node.apply crypto)
        (fun _ timed => ¬ ProofFor askedLink.id timed.2) (.new true) node
      ∧ node.handler.outLinks.lookup (server.desc crypto).addressHash
        = some askedLink
      ∧ .outEvent {
          id := askedLink.id
          addressHash := (server.desc crypto).addressHash
          event := .data [0x68, 0x69] .none
          peerIdentityHash := (Identity.empty crypto).addressHash }
        ∈ (node.handler.receive crypto ⟨iface, openPacket crypto
            askedLink.id .none drawnIv [0x68, 0x69]⟩ drawn 1).2 := by
  have hlink : (Run.run (Node.apply crypto) docWaiting (.new true)).map
      (fun node => decide (node.handler.outLinks.lookup
        (server.desc crypto).addressHash = some askedLink))
      = some true := by decide +kernel
  obtain ⟨node, hrun, hlink⟩ := Option.map_eq_some_iff.mp hlink
  have hreach : Run.Reaches (Node.apply crypto)
      (fun _ timed => ¬ ProofFor askedLink.id timed.2) (.new true) node := by
    refine Run.reaches_of_run (fun timed hmem _ => ?_) hrun
    simp only [docWaiting, List.mem_cons, List.not_mem_nil, or_false]
      at hmem
    rcases hmem with rfl | rfl | rfl <;> exact fun h => h
  refine ⟨node, hreach, of_decide_eq_true hlink, ?_⟩
  exact unproved_link_open crypto_decryptsTexts hreach
    (of_decide_eq_true hlink) .none nofun drawnIv [0x68, 0x69]
    (by decide) iface drawn 1

end Lxmf.Reticulum
