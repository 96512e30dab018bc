/-
What the packets of a link carry, and what is read from them.

# Requests and proofs

A request carries the two public keys of the initiator
(`requestPacket_data`), a proof a signature and the responder's public
key (`proofPacket_data`). `newFromRequest_eq_ok` and
`validateProofPacket_eq_ok` say what was read when either is taken, and
`validateProofPacket_proof` that a proof is taken by the link it is for.

# Data

`handleDataPacket_sealed` is the round trip of a payload, with whatever
context the packet has in the end: the tag does not cover it.
-/
import Lxmf.Link
import Lxmf.Proofs.Identity
import Lxmf.Proofs.Wire

namespace Lxmf.Reticulum

variable {C : Crypto}

-- ============================================================== buffers

theorem bytes_safeWrite_of_fits (buffer : PacketDataBuffer) (data : Bytes)
    (h : buffer.bytes.length + data.length ≤ packetMdu) :
    (safeWrite buffer data).bytes = buffer.bytes ++ data := by
  show buffer.bytes ++ data.take (packetMdu - buffer.bytes.length) = _
  rw [List.take_of_length_le (by omega)]

theorem bytes_safeWrite_emptyData (data : Bytes)
    (h : data.length ≤ packetMdu) :
    (safeWrite emptyData data).bytes = data :=
  bytes_safeWrite_of_fits emptyData data (by
    show 0 + data.length ≤ packetMdu
    omega)

/-- Two fields that fit a packet. -/
theorem bytes_safeWrite_two {n m : Nat} (a : FixedBytes n)
    (b : FixedBytes m) (h : n + m ≤ packetMdu) :
    (safeWrite (safeWrite emptyData a.toList) b.toList).bytes
      = a.toList ++ b.toList := by
  have ha := a.toList_length
  have hb := b.toList_length
  have hfirst := bytes_safeWrite_emptyData a.toList (by omega)
  rw [bytes_safeWrite_of_fits _ _ (by rw [hfirst]; omega), hfirst]

-- ================================================================= keys

/-- The key at an offset, when as many bytes are there. -/
theorem toList_publicKeyAt {data : Bytes} {offset : Nat}
    (h : offset + publicKeyLength ≤ data.length) :
    (Link.publicKeyAt data offset).toList
      = (data.drop offset).take publicKeyLength := by
  unfold Link.publicKeyAt
  refine Cbc.toList_block 0 ?_
  rw [List.length_drop]
  exact Nat.le_sub_of_add_le (by rwa [Nat.add_comm])

theorem publicKeyAt_append {front : Bytes} {key : PublicKey} {rest : Bytes}
    {offset : Nat} (hfront : front.length = offset) :
    Link.publicKeyAt (front ++ key.toList ++ rest) offset = key := by
  have hkey := key.toList_length
  apply Subtype.ext
  show (Link.publicKeyAt _ offset).toList = key.toList
  rw [toList_publicKeyAt (by
      simp only [List.length_append, hfront, hkey]
      exact Nat.le_add_right _ _), List.append_assoc, List.drop_left' hfront,
    List.take_left' hkey]

namespace Link

-- ============================================================= requests

theorem requestPacket_data (link : Link) :
    (link.requestPacket C).data.bytes
      = (link.privIdentity.asIdentity C).publicKey.toList
        ++ (link.privIdentity.asIdentity C).verifyingKey.toList :=
  bytes_safeWrite_two _ _ (by decide)

/-- The link a request is answered with. -/
theorem newFromRequest_eq_ok {packet : Packet} {signingKey : SecretKey}
    {destination : DestinationDesc} {secret : SecretKey} {now : Nat}
    {link : Link}
    (h : Link.newFromRequest C packet signingKey destination secret now
      = .ok link) :
    publicKeyLength * 2 ≤ packet.data.bytes.length
      ∧ link.id = linkId C.toPlatform packet
      ∧ link.destination = destination
      ∧ link.privIdentity = ⟨secret, signingKey⟩
      ∧ link.status = .handshake
      ∧ link.requestTime = now
      ∧ link.peerIdentity = .newFromSlices C
          (publicKeyAt packet.data.bytes 0)
          (publicKeyAt packet.data.bytes publicKeyLength)
      ∧ link.derivedKey = link.privIdentity.deriveKey C
          (publicKeyAt packet.data.bytes 0) link.id.toList := by
  unfold Link.newFromRequest at h
  split at h
  case isTrue => cases h
  case isFalse hlength =>
    injection h with h
    subst h
    exact ⟨Nat.not_lt.mp hlength, rfl, rfl, rfl, rfl, rfl, rfl, rfl⟩

-- =============================================================== proofs

theorem proofPacket_data (link : Link) :
    (link.proofPacket C).data.bytes
      = (C.sign link.privIdentity.signKey (link.proofSigned C)).toList
        ++ (link.privIdentity.asIdentity C).publicKey.toList :=
  bytes_safeWrite_two _ _ (by decide)

theorem prove_fst (link : Link) :
    (link.prove C).1 = { link with status := .active } := by
  unfold prove
  split
  case isTrue => rfl
  case isFalse h =>
    rw [not_not] at h
    rw [← h]

theorem prove_packet (link : Link) :
    (link.prove C).2.1 = link.proofPacket C := by
  unfold prove
  split <;> rfl

/-- A proof that is taken is signed by the destination, over the id and
the public key it carries. -/
theorem validateProofPacket_eq_ok {destination : DestinationDesc}
    {id : Hash16} {packet : Packet} {identity : Identity}
    (h : validateProofPacket C destination id packet = .ok identity) :
    ∃ publicKey mtu,
      identity = .newFromSlices C publicKey
          destination.identity.verifyingKey
        ∧ mtu.length ≤ linkMtuSize
        ∧ C.verifyStrict identity.verifyingKey
            (id.toList ++ publicKey.toList
              ++ destination.identity.verifyingKey.toList ++ mtu)
            (Cbc.block 0 packet.data.bytes) = true := by
  unfold validateProofPacket at h
  simp only at h
  split at h
  case isTrue => cases h
  case isFalse =>
    split at h
    case isTrue => cases h
    case isFalse hmtu =>
      split at h
      case isTrue hverify =>
        injection h with h
        subst h
        exact ⟨_, _, rfl, Nat.not_lt.mp hmtu, hverify⟩
      case isFalse => cases h

theorem newFromSlices_verifyingKey {publicKey verifyingKey : PublicKey}
    (h : C.validKey verifyingKey) :
    (Identity.newFromSlices C publicKey verifyingKey).verifyingKey
      = verifyingKey := by
  unfold Identity.newFromSlices Identity.new
  exact if_pos h

/-- The proof of a link is taken for its id and the key of its
destination. -/
theorem validateProofPacket_proof (hsigns : SignsStrictly C)
    (hvalid : MakesValidKeys C) {link : Link}
    {destination : DestinationDesc} {packet : Packet}
    (hkey : destination.identity.verifyingKey
      = C.verifyingKey link.privIdentity.signKey)
    (hdata : packet.data.bytes = (link.proofPacket C).data.bytes) :
    validateProofPacket C destination link.id packet
      = .ok (.newFromSlices C
          (link.privIdentity.asIdentity C).publicKey
          (C.verifyingKey link.privIdentity.signKey)) := by
  have hsignature := (C.sign link.privIdentity.signKey
    (link.proofSigned C)).toList_length
  have hpublic := (link.privIdentity.asIdentity C).publicKey.toList_length
  have hlength : packet.data.bytes.length
      = signatureLength + publicKeyLength := by
    rw [hdata, proofPacket_data, List.length_append, hsignature, hpublic]
  have hat : publicKeyAt packet.data.bytes signatureLength
      = (link.privIdentity.asIdentity C).publicKey := by
    rw [hdata, proofPacket_data, ← List.append_nil
      (_ ++ (link.privIdentity.asIdentity C).publicKey.toList)]
    exact publicKeyAt_append hsignature
  have hblock : (Cbc.block 0 packet.data.bytes : Signature)
      = C.sign link.privIdentity.signKey (link.proofSigned C) := by
    apply Subtype.ext
    show (Cbc.block 0 packet.data.bytes : Signature).toList = _
    rw [Cbc.toList_block 0 (by rw [hlength]; decide), hdata,
      proofPacket_data]
    exact List.take_left' hsignature
  unfold validateProofPacket
  have hmtu : proofMtu packet.data.bytes = [] := by
    unfold proofMtu
    rw [hlength]
    exact if_neg (by decide)
  simp only [hlength, hat, hblock, hkey, hmtu]
  rw [if_neg (Nat.lt_irrefl _), if_neg (by decide),
    newFromSlices_verifyingKey (hvalid _), List.append_nil]
  exact if_pos (hsigns _ _)

-- ================================================================= data

theorem dataPacketWithContext_eq (link : Link) (context : PacketContext)
    (iv : Block) (payload : Bytes) :
    link.dataPacketWithContext C context iv payload
      = if payload.length ≤ linkPayloadMax then
          .ok (link.packetOf context
            (link.derivedKey.fernet.token C iv payload))
        else .error .panic := by
  unfold dataPacketWithContext
  rw [encryptWithKey_packet]
  split <;> rfl

theorem packetOf_data {link : Link} {context : PacketContext}
    {iv : Block} {payload : Bytes} (h : payload.length ≤ linkPayloadMax) :
    (link.packetOf context
        (link.derivedKey.fernet.token C iv payload)).data.bytes
      = link.derivedKey.fernet.token C iv payload :=
  bytes_safeWrite_emptyData _ (by
    rw [length_token]
    exact tokenLength_le_packet.mpr h)

theorem createRtt_eq (link : Link) (iv : Block) (rtt : FixedBytes 5) :
    link.createRtt C iv rtt
      = .ok (link.packetOf .linkRtt
          (link.derivedKey.fernet.token C iv rtt.toList)) := by
  unfold createRtt
  rw [encryptWithKey_packet, rtt.toList_length, if_pos (by decide)]

/-- What was encrypted under the key of a link arrives, whatever context
the packet has by now. -/
theorem handlePacket_sealed (hC : DecryptsTexts C) {link : Link}
    {packet : Packet} {iv : Block} {payload : Bytes}
    (hid : packet.destination = link.id)
    (htype : packet.header.packetType = .data)
    (hcontext : packet.context ≠ .keepAlive)
    (hdata : packet.data.bytes = link.derivedKey.fernet.token C iv payload)
    (hpayload : payload.length ≤ linkPayloadMax) (now : Nat) :
    link.handlePacket C packet now
      = ({ link with requestTime := now }, .none,
          [link.postEvent (.data payload packet.context)]) := by
  have hroom : linkPayloadMax ≤ packetMdu := by decide
  have hdecrypt : link.decrypt C packet.data.bytes = .ok payload := by
    unfold decrypt
    rw [hdata]
    exact decryptWithKey_token hC hpayload
  unfold handlePacket
  rw [if_neg (by rw [hid]; exact fun h => h rfl), htype]
  simp only [handleDataPacket]
  rw [if_neg hcontext, hdecrypt]
  simp only
  rw [List.take_of_length_le (by omega)]
  rfl

end Link

end Lxmf.Reticulum
