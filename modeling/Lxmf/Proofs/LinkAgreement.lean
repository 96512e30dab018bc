/-
An active link was answered by its destination, and both ends have one
key.

# Shape of the argument

The only step that makes an outgoing link active is a proof, and a proof
carries a signature over the id of the link and a public key. Under the
key of the destination such a signature was made (`Mesh.Unforged`), and
the only thing that signs a message of this shape is a node that answers
a request (`Consistent.signed`): an announce is longer than any proof.
What it signed names its own public key, so the initiator derived its
key from that one; the answer derived its own from the public key in the
request. When both packets hash to the id alike, the exchange commutes.

# What is not said

The answer need not be the last one. A proof of an older answer to the
same request is taken just as well, and an answer may be gone again when
the link becomes active.
-/
import Lxmf.Mesh
import Lxmf.Proofs.Link
import Lxmf.Proofs.Node
import Lxmf.ReferenceCrypto

namespace Lxmf.Reticulum

variable {C : Crypto} {ν : Type}

namespace Mesh

-- =============================================================== shapes

theorem length_announceSigned (destination : SingleInputDestination)
    (randHash : FixedBytes randHashLength) (appData : Bytes) :
    100 ≤ (destination.announceSigned C randHash appData).length := by
  unfold SingleInputDestination.announceSigned
  simp only [List.length_append, List.Vector.toList_length]
  show 100 ≤ 16 + 32 + 32 + 10 + 10 + appData.length
  omega

/-- An announce is too long for a proof. -/
theorem announceSigned_not_proofShaped (key : PublicKey)
    (destination : SingleInputDestination)
    (randHash : FixedBytes randHashLength) (appData : Bytes) :
    ¬ ProofShaped key
      (destination.announceSigned C randHash appData) := by
  rintro ⟨id, publicKey, mtu, hmtu, heq⟩
  have hlength := length_announceSigned (C := C) destination randHash
    appData
  rw [heq] at hlength
  simp only [List.length_append, List.Vector.toList_length] at hlength
  have hsum : 100 ≤ 16 + 32 + 32 + mtu.length := hlength
  have hmtu : mtu.length ≤ 3 := hmtu
  omega

/-- What a proof signs determines the id and the public key, and leaves
nothing for an MTU. -/
theorem proofSigned_eq {link : Link} {id : Hash16}
    {publicKey verifyingKey : PublicKey} {mtu : Bytes}
    (h : id.toList ++ publicKey.toList ++ verifyingKey.toList ++ mtu
      = link.proofSigned C) :
    id = link.id ∧ publicKey = C.publicKey link.privIdentity.privateKey := by
  unfold Link.proofSigned at h
  simp only [List.append_assoc] at h
  obtain ⟨hid, hrest⟩ := List.append_inj h
    (id.toList_length.trans link.id.toList_length.symm)
  obtain ⟨hkey, -⟩ := List.append_inj hrest
    (publicKey.toList_length.trans
      (link.privIdentity.asIdentity C).publicKey.toList_length.symm)
  exact ⟨List.Vector.toList_injective hid,
    List.Vector.toList_injective hkey⟩

-- ============================================================ invariant

/-- What an answer has to do with its request. -/
structure Answers (C : Crypto) (packet : Packet) (link : Link) :
    Prop where
  id : link.id = linkId C.toPlatform packet
  destination : link.destination.addressHash = packet.destination
  derivedKey : link.derivedKey = link.privIdentity.deriveKey C
    (Link.publicKeyAt packet.data.bytes 0) link.id.toList

/-- A link has the id of its request. -/
def OwnId (C : Crypto) (link : Link) : Prop :=
  link.id = linkId C.toPlatform (link.requestPacket C)

/-- Someone who signs with the key answered under the id of the link, and
the link derived its key from the public key of the answer. -/
def Answered (C : Crypto) (key : SecretKey)
    (answered : List (Packet × Link)) (link : Link) : Prop :=
  ∃ packet answer, (packet, answer) ∈ answered
    ∧ answer.privIdentity.signKey = key ∧ answer.id = link.id
    ∧ link.derivedKey = link.privIdentity.deriveKey C
        (C.publicKey answer.privIdentity.privateKey) link.id.toList

theorem Answered.mono {key : SecretKey} {answered more : List (Packet × Link)}
    {link : Link} (h : Answered C key answered link) :
    Answered C key (answered ++ more) link := by
  obtain ⟨packet, answer, hmem, hrest⟩ := h
  exact ⟨packet, answer, List.mem_append_left more hmem, hrest⟩

/-- What holds of an outgoing link. -/
structure OutLink (C : Crypto) (key : SecretKey)
    (answered : List (Packet × Link)) (link : Link) : Prop where
  id : OwnId C link
  active : link.status = .active →
    link.destination.identity.verifyingKey = C.verifyingKey key →
    Answered C key answered link

structure Consistent (C : Crypto) (key : SecretKey) (mesh : Mesh ν) :
    Prop where
  signed : ∀ msg, (key, msg) ∈ mesh.signed →
    ProofShaped (C.verifyingKey key) msg →
    ∃ packet answer, (packet, answer) ∈ mesh.answered
      ∧ answer.privIdentity.signKey = key
      ∧ msg = answer.proofSigned C
  answers : ∀ packet answer, (packet, answer) ∈ mesh.answered →
    Answers C packet answer
  outLinks : ∀ i k link,
    (mesh.nodes i).handler.outLinks.lookup k = some link →
    OutLink C key mesh.answered link
  calls : ∀ i link, .requested link ∈ (mesh.nodes i).calls →
    OwnId C link ∧ link.status = .pending

-- =============================================================== a step

/-- A request that is answered. -/
theorem acceptRequest_answers {h : TransportHandler} {packet : Packet}
    {secret : SecretKey} {now : Nat} {link : Link}
    (haccept : h.acceptRequest C packet secret now = some link) :
    Answers C packet link := by
  obtain ⟨destination, -, haddress, -, hnew⟩ :=
    TransportHandler.acceptRequest_eq_some haccept
  obtain ⟨-, hid, hdest, -, -, -, -, hkey⟩ :=
    Link.newFromRequest_eq_ok hnew
  exact ⟨hid, by rw [hdest, haddress], hkey⟩

theorem mem_answersOf {node : Node} {now : Nat} {event : Event}
    {packet : Packet} {link : Link}
    (h : (packet, link) ∈ answersOf C node now event) :
    Answers C packet link := by
  unfold answersOf at h
  split at h
  case h_1 message draws =>
    split at h
    case isTrue =>
      split at h
      case h_1 answer haccept =>
        obtain ⟨rfl, rfl⟩ := Prod.mk.inj (List.mem_singleton.mp h)
        exact acceptRequest_answers haccept
      case h_2 => cases h
    case isFalse => cases h
  case h_2 => cases h

/-- What a step signs in the shape of a proof is the proof of an
answer. -/
theorem mem_signsOf {node : Node} {now : Nat} {event : Event}
    {key : SecretKey} {msg : Bytes} {verifyingKey : PublicKey}
    (h : (key, msg) ∈ signsOf C node now event)
    (hshape : ProofShaped verifyingKey msg) :
    ∃ packet answer, (packet, answer) ∈ answersOf C node now event
      ∧ answer.privIdentity.signKey = key
      ∧ msg = answer.proofSigned C := by
  unfold signsOf at h
  rcases List.mem_append.mp h with hproof | hannounce
  · obtain ⟨⟨packet, answer⟩, hmem, heq⟩ := List.mem_map.mp hproof
    obtain ⟨hkey, hmsg⟩ := Prod.mk.inj heq
    exact ⟨packet, answer, hmem, hkey, hmsg.symm⟩
  · split at hannounce
    case h_1 =>
      obtain ⟨-, rfl⟩ := Prod.mk.inj (List.mem_singleton.mp hannounce)
      exact (announceSigned_not_proofShaped _ _ _ _ hshape).elim
    case h_2 => cases hannounce

theorem ownId_of_sameEnds {link link' : Link} (h : OwnId C link)
    (hsame : link.SameEnds link') : OwnId C link' := by
  unfold OwnId
  rw [hsame.id, hsame.requestPacket]
  exact h

/-- A link that did not become active keeps what is known of it. -/
theorem OutLink.keep {key : SecretKey} {answered : List (Packet × Link)}
    {link link' : Link} (h : OutLink C key answered link)
    (hsame : link.SameEnds link') (hkey : link'.derivedKey = link.derivedKey)
    (hstatus : link'.status = .active → link.status = .active) :
    OutLink C key answered link' where
  id := ownId_of_sameEnds h.id hsame
  active hactive hdest := by
    rw [hsame.destination] at hdest
    obtain ⟨packet, answer, hmem, hsign, hid, hderived⟩ :=
      h.active (hstatus hactive) hdest
    refine ⟨packet, answer, hmem, hsign, hid.trans hsame.id.symm, ?_⟩
    rw [hkey, hsame.privIdentity, hsame.id]
    exact hderived

/-- A packet leaves what is known of a link, and a proof under the key
was made by an answer. -/
theorem OutLink.handle {key : SecretKey} {mesh : Mesh ν} {link : Link}
    {packet : Packet} (hvalid : MakesValidKeys C)
    (hconsistent : Consistent C key mesh)
    (hunforged : ∀ msg, C.verifyStrict (C.verifyingKey key) msg
      (leadingSignature packet) = true → (key, msg) ∈ mesh.signed)
    (h : OutLink C key mesh.answered link) (now : Nat) :
    OutLink C key mesh.answered (link.handlePacket C packet now).1 := by
  have hhandled := Link.handlePacket_handled (C := C) link packet now
  generalize link.handlePacket C packet now = result at hhandled ⊢
  cases hhandled with
  | ignored => exact h
  | keepAlive => exact h.keep ⟨rfl, rfl, rfl⟩ rfl fun hactive => hactive
  | data => exact h.keep ⟨rfl, rfl, rfl⟩ rfl fun hactive => hactive
  | proof identity _ _ _ _ hproof =>
      refine ⟨ownId_of_sameEnds h.id ⟨rfl, rfl, rfl⟩, fun _ hdest => ?_⟩
      replace hdest : link.destination.identity.verifyingKey
        = C.verifyingKey key := hdest
      obtain ⟨publicKey, mtu, hidentity, hmtu, hverify⟩ :=
        Link.validateProofPacket_eq_ok hproof
      have hverifying : identity.verifyingKey = C.verifyingKey key := by
        rw [hidentity, hdest, Link.newFromSlices_verifyingKey (hvalid key)]
      rw [hverifying, hdest] at hverify
      -- the signature was made, and only an answer makes such a one
      obtain ⟨request, answer, hmem, hsign, hmsg⟩ := hconsistent.signed _
        (hunforged _ hverify) ⟨link.id, publicKey, mtu, hmtu, rfl⟩
      obtain ⟨hid, hpublic⟩ := proofSigned_eq hmsg
      refine ⟨request, answer, hmem, hsign, hid.symm, ?_⟩
      show link.privIdentity.deriveKey C identity.publicKey _ = _
      have hidentityKey : identity.publicKey = publicKey := by
        rw [hidentity]
        rfl
      rw [hidentityKey, hpublic]
      rfl

theorem OutLink.visitPending {key : SecretKey}
    {answered : List (Packet × Link)} {link : Link}
    (h : OutLink C key answered link) (now : Nat) :
    OutLink C key answered (TransportHandler.visitPending C now link).1 := by
  have hrestart : OutLink C key answered link.restart :=
    ⟨ownId_of_sameEnds h.id ⟨rfl, rfl, rfl⟩, fun hactive => by cases hactive⟩
  have hrequest (l : Link) (hl : OutLink C key answered l) :
      OutLink C key answered (l.request C now).1 := by
    refine ⟨?_, fun hactive => by cases hactive⟩
    exact ownId_of_sameEnds hl.id ⟨hl.id.symm, rfl, rfl⟩
  have hidle : OutLink C key answered
      (TransportHandler.restartIdle now link) := by
    unfold TransportHandler.restartIdle
    split
    case isTrue => exact hrestart
    case isFalse => exact h
  unfold TransportHandler.visitPending TransportHandler.repeatRequest
  split
  case isTrue => exact hrequest _ hidle
  case isFalse => exact hidle

theorem OutLink.mono {key : SecretKey} {answered more : List (Packet × Link)}
    {link : Link} (h : OutLink C key answered link) :
    OutLink C key (answered ++ more) link where
  id := h.id
  active hactive hdest := (h.active hactive hdest).mono

/-- The link of a call is pending under the id of its request. -/
theorem requested_own (destination : DestinationDesc)
    (identity : PrivateIdentity) (now : Nat) :
    OwnId C ((Link.new C destination identity now).request C now).1
      ∧ ((Link.new C destination identity now).request C now).1.status
        = .pending :=
  ⟨rfl, rfl⟩

/-- Every outgoing link after a step is one that was answered. -/
theorem step_outLinks {key : SecretKey} {mesh : Mesh ν} {i : ν}
    {now : Nat} {event : Event} {node : Node} {effects : List Effect}
    (hvalid : MakesValidKeys C) (h : Consistent C key mesh)
    (hunforged : Unforged C key mesh (.node i now event))
    (hstep : (mesh.nodes i).step C now event = .ok (node, effects))
    {k : Hash16} {link : Link}
    (hlink : node.handler.outLinks.lookup k = some link) :
    OutLink C key mesh.answered link := by
  rcases Node.step_outLink hstep hlink with ⟨old, hold, hmove⟩ | hcall
  · have hinv := h.outLinks i k old hold
    cases hmove with
    | same => exact hinv
    | handled message draws => exact hinv.handle hvalid h hunforged now
    | checked => exact hinv.visitPending now
    | closed key' =>
        exact ⟨ownId_of_sameEnds hinv.id ⟨rfl, rfl, rfl⟩,
          fun hactive => by cases hactive⟩
  · obtain ⟨call, hcall, -⟩ := hcall
    obtain ⟨hid, hstatus⟩ := h.calls i link (List.mem_of_getElem? hcall)
    refine ⟨hid, fun hactive => ?_⟩
    rw [hstatus] at hactive
    cases hactive

theorem step_calls {key : SecretKey} {mesh : Mesh ν} {i : ν}
    {now : Nat} {event : Event} {node : Node} {effects : List Effect}
    (h : Consistent C key mesh)
    (hstep : (mesh.nodes i).step C now event = .ok (node, effects))
    {link : Link} (hlink : .requested link ∈ node.calls) :
    OwnId C link ∧ link.status = .pending := by
  rcases Node.step_call hstep hlink with hold | ⟨destination, identity, rfl⟩
  · exact h.calls i link hold
  · exact requested_own destination identity now

theorem Fresh.consistent {mesh : Mesh ν} (h : mesh.Fresh)
    (key : SecretKey) : Consistent C key mesh where
  signed msg hmem := by
    rw [h.signed] at hmem
    cases hmem
  answers packet answer hmem := by
    rw [h.answered] at hmem
    cases hmem
  outLinks i k link hlink := by
    rw [h.outLinks i] at hlink
    cases hlink
  calls i link hlink := by
    rw [h.calls i] at hlink
    cases hlink

variable [DecidableEq ν]

theorem consistent_step {key : SecretKey} (hvalid : MakesValidKeys C)
    {mesh mesh' : Mesh ν} {action : Action ν}
    (h : Consistent C key mesh) (hunforged : Unforged C key mesh action)
    (hstep : apply C action mesh = some mesh') :
    Consistent C key mesh' := by
  cases action with
  | node i now event =>
      unfold apply at hstep
      simp only at hstep
      split at hstep
      case h_1 node effects hnode =>
        injection hstep with hstep
        subst hstep
        refine ⟨?_, ?_, ?_, ?_⟩
        · intro msg hmem hshape
          rcases List.mem_append.mp hmem with hold | hnew
          · obtain ⟨packet, answer, hin, hrest⟩ := h.signed msg hold hshape
            exact ⟨packet, answer, List.mem_append_left _ hin, hrest⟩
          · obtain ⟨packet, answer, hin, hrest⟩ := mem_signsOf hnew hshape
            exact ⟨packet, answer, List.mem_append_right _ hin, hrest⟩
        · intro packet answer hmem
          rcases List.mem_append.mp hmem with hold | hnew
          · exact h.answers packet answer hold
          · exact mem_answersOf hnew
        · intro j k link hlink
          by_cases hj : j = i
          · subst hj
            simp only [Function.update_self] at hlink
            exact (step_outLinks hvalid h hunforged hnode hlink).mono
          · simp only [Function.update_of_ne hj] at hlink
            exact (h.outLinks j k link hlink).mono
        · intro j link hlink
          by_cases hj : j = i
          · subst hj
            simp only [Function.update_self] at hlink
            exact step_calls h hnode hlink
          · simp only [Function.update_of_ne hj] at hlink
            exact h.calls j link hlink
      case h_2 => cases hstep
  | sign key' msg' =>
      injection hstep with hstep
      subst hstep
      refine ⟨?_, h.answers, h.outLinks, h.calls⟩
      intro msg hmem hshape
      rcases List.mem_append.mp hmem with hold | hnew
      · exact h.signed msg hold hshape
      · obtain ⟨hkey, hmsg⟩ := Prod.mk.inj (List.mem_singleton.mp hnew)
        subst hmsg
        exact absurd hshape (hunforged hkey.symm)

-- ============================================================== the runs

/-- The first key of a request whose link has this id. -/
theorem publicKeyAt_of_hashed {packet : Packet} {link : Link}
    (h : packet.hashed (packet.data.bytes.take (publicKeyLength * 2))
      = (link.requestPacket C).hashed
          ((link.requestPacket C).data.bytes.take (publicKeyLength * 2))) :
    packet.destination = link.destination.addressHash
      ∧ Link.publicKeyAt packet.data.bytes 0
        = C.publicKey link.privIdentity.privateKey := by
  unfold Packet.hashed at h
  simp only [List.cons_append] at h
  obtain ⟨-, hrest⟩ := List.cons.inj h
  obtain ⟨hdest, hrest⟩ := List.append_inj hrest
    (packet.destination.toList_length.trans
      (link.requestPacket C).destination.toList_length.symm)
  obtain ⟨-, hdata⟩ := List.cons.inj hrest
  refine ⟨List.Vector.toList_injective hdest, ?_⟩
  have hpublic := (link.privIdentity.asIdentity C).publicKey.toList_length
  have hverifying :=
    (link.privIdentity.asIdentity C).verifyingKey.toList_length
  rw [List.take_of_length_le (l := (link.requestPacket C).data.bytes) (by
    rw [Link.requestPacket_data, List.length_append, hpublic, hverifying]
    decide), Link.requestPacket_data] at hdata
  have hlength : publicKeyLength ≤ packet.data.bytes.length := by
    have hle := congrArg List.length hdata
    rw [List.length_take, List.length_append, hpublic, hverifying] at hle
    have hsum : min 64 packet.data.bytes.length = 32 + 32 := hle
    show 32 ≤ packet.data.bytes.length
    omega
  apply Subtype.ext
  show (Link.publicKeyAt packet.data.bytes 0).toList = _
  rw [toList_publicKeyAt (by rwa [Nat.zero_add]), List.drop_zero]
  have htake : packet.data.bytes.take publicKeyLength
      = (packet.data.bytes.take (publicKeyLength * 2)).take
          publicKeyLength := by
    rw [List.take_take]
    rfl
  rw [htake, hdata, List.take_left' hpublic]
  rfl

/-- Whoever carries the packets: when an outgoing link is active and its
destination's key is `key`, then a destination of that address which
signs with it answered the request under the id of the link, and derived
the key that the link has. -/
theorem active_link_answered (hvalid : MakesValidKeys C)
    (hexchange : ExchangeCommutes C) (key : SecretKey)
    {start mesh : Mesh ν} (hfresh : start.Fresh)
    (hreach : Run.Reaches (apply C) (Unforged C key) start mesh)
    {i : ν} {k : Hash16} {link : Link}
    (hlink : (mesh.nodes i).handler.outLinks.lookup k = some link)
    (hactive : link.status = .active)
    (hkey : link.destination.identity.verifyingKey = C.verifyingKey key)
    (hids : ∀ packet answer, (packet, answer) ∈ mesh.answered →
      linkId C.toPlatform packet = link.id →
      packet.hashed (packet.data.bytes.take (publicKeyLength * 2))
        = (link.requestPacket C).hashed
            ((link.requestPacket C).data.bytes.take
              (publicKeyLength * 2))) :
    ∃ packet answer, (packet, answer) ∈ mesh.answered
      ∧ answer.privIdentity.signKey = key
      ∧ answer.id = link.id
      ∧ answer.destination.addressHash = link.destination.addressHash
      ∧ answer.derivedKey = link.derivedKey := by
  have hinv : Consistent C key mesh :=
    hreach.invariant (hfresh.consistent key) fun _ _ _ h hok hstep =>
      consistent_step hvalid h hok hstep
  obtain ⟨packet, answer, hmem, hsign, hid, hderived⟩ :=
    (hinv.outLinks i k link hlink).active hactive hkey
  have hanswers := hinv.answers packet answer hmem
  obtain ⟨hdest, hpublic⟩ := publicKeyAt_of_hashed
    (hids packet answer hmem (hanswers.id.symm.trans hid))
  refine ⟨packet, answer, hmem, hsign, hid,
    hanswers.destination.trans hdest, ?_⟩
  rw [hanswers.derivedKey, hderived, hpublic, hid]
  unfold PrivateIdentity.deriveKey
  rw [hexchange]

-- ---------------------------------------------------------- two nodes

open Reference

/-- Two nodes, of which one is to serve and the other to ask. -/
noncomputable def docStart : Mesh Bool := ⟨fun _ => .new false, [], []⟩

/-- The call has sent its request, and is answered before its link is in
the table. -/
noncomputable def docAsked : List (Action Bool) :=
  [.node true 0 (.addDestination server),
    .node false 0 (.link (server.desc crypto)),
    .node false 0 (.request 0 asker),
    .node true 40 (.receive request drawn),
    .node false 50 (.insert 0)]

/-- The proof of the answer. -/
noncomputable def docProof : RxMessage := ⟨iface, {
  header := { packetType := .proof }
  ifac := none
  destination := Cbc.block 0 proofSigned
  transport := none
  context := .linkRequestProof
  data := safeWrite (safeWrite emptyData proofSignature.toList)
    secondPublic.toList }⟩

noncomputable def docProved : Action Bool :=
  .node false 250 (.receive docProof drawn)

/-- The link is active, and its request is the only one answered. -/
noncomputable def docActive (mesh : Mesh Bool) : Bool :=
  match (mesh.nodes false).handler.outLinks.lookup
      (server.desc crypto).addressHash with
  | some link =>
      decide (link.status = .active
        ∧ link.destination.identity.verifyingKey
          = crypto.verifyingKey docKey
        ∧ ∀ e ∈ mesh.answered,
          e.1.hashed (e.1.data.bytes.take (publicKeyLength * 2))
            = (link.requestPacket crypto).hashed
                ((link.requestPacket crypto).data.bytes.take
                  (publicKeyLength * 2)))
  | none => false

/-- Nothing is signed with what a request begins with. -/
theorem request_unforged (mesh : Mesh Bool) (i : Bool) (now : Nat) :
    Unforged crypto docKey mesh (.node i now (.receive request drawn)) := by
  intro msg hverify
  have hmem := mem_signatures hverify (by decide +kernel)
  have hnone : ∀ e ∈ signatures,
      e.2 ≠ leadingSignature request.packet := by decide +kernel
  exact absurd rfl (hnone _ hmem)

theorem proof_unforged {mesh : Mesh Bool}
    (h : (docKey, proofSigned) ∈ mesh.signed) :
    Unforged crypto docKey mesh docProved := by
  intro msg hverify
  have hmem := mem_signatures hverify (by decide +kernel)
  have hone : ∀ e ∈ signatures,
      e.2 = leadingSignature docProof.packet →
      e.1 = (docKey, proofSigned) := by decide +kernel
  have hmsg : (docKey, msg) = (docKey, proofSigned) := hone _ hmem rfl
  rw [hmsg]
  exact h

theorem active_link_answered_doc :
    ∃ mesh link packet answer,
      Run.Reaches (apply crypto) (Unforged crypto docKey) docStart mesh
      ∧ (mesh.nodes false).handler.outLinks.lookup
          (server.desc crypto).addressHash = some link
      ∧ link.status = .active
      ∧ (packet, answer) ∈ mesh.answered
      ∧ answer.privIdentity.signKey = docKey
      ∧ answer.derivedKey = link.derivedKey := by
  have hsigned : ((Run.run (apply crypto) docAsked docStart).map
      fun mesh => decide ((docKey, proofSigned) ∈ mesh.signed))
      = some true := by decide +kernel
  have hproved : (((Run.run (apply crypto) docAsked docStart).bind
      (apply crypto docProved)).map docActive) = some true := by
    decide +kernel
  obtain ⟨asked, hasked, hsigned⟩ := Option.map_eq_some_iff.mp hsigned
  rw [hasked, Option.bind_some] at hproved
  obtain ⟨mesh, hmesh, hfacts⟩ := Option.map_eq_some_iff.mp hproved
  have hreach : Run.Reaches (apply crypto) (Unforged crypto docKey) docStart
      asked := by
    refine Run.reaches_of_run (fun action hmem mesh => ?_) hasked
    unfold docAsked at hmem
    simp only [List.mem_cons, List.not_mem_nil, or_false] at hmem
    rcases hmem with rfl | rfl | rfl | rfl | rfl
    · trivial
    · trivial
    · trivial
    · exact request_unforged mesh true 40
    · trivial
  have hreach' := hreach.step docProved
    (proof_unforged (of_decide_eq_true hsigned)) hmesh
  unfold docActive at hfacts
  split at hfacts
  case h_1 link hlink =>
    rw [decide_eq_true_iff] at hfacts
    obtain ⟨hactive, hkey, hids⟩ := hfacts
    have hfresh : docStart.Fresh :=
      ⟨fun _ => rfl, fun _ => rfl, fun _ => rfl, rfl, rfl⟩
    obtain ⟨packet, answer, hmem, hsign, -, -, hderived⟩ :=
      active_link_answered crypto_makesValidKeys crypto_exchangeCommutes
        docKey hfresh hreach' hlink hactive hkey
        fun packet answer hmem _ => hids (packet, answer) hmem
    exact ⟨mesh, link, packet, answer, hreach', hlink, hactive, hmem, hsign,
      hderived⟩
  case h_2 => cases hfacts

end Mesh

end Lxmf.Reticulum
