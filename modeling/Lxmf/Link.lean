/-
Destinations, announces and links
(reticulum-patched/src/destination.rs, destination/link.rs).

# Links

A link has two ends. The one that asks for it draws a key pair for it,
the other draws a secret when the request comes in and signs its public
key with the key of the destination. Either end derives the link's key
from its own secret and the other's public key; the id of the link, which
both compute from the request, salts it.

# Time

An `Instant` is a number of milliseconds. Calls that read the clock take
it as an argument.
-/
import Lxmf.Identity

namespace Lxmf.Reticulum

variable (C : Crypto)

-- ======================================================== destinations

abbrev nameHashLength : Nat := 10
abbrev randHashLength : Nat := 10
abbrev minAnnounceDataLength : Nat :=
  publicKeyLength * 2 + nameHashLength + randHashLength + signatureLength

structure DestinationName where
  hash : Hash32
deriving DecidableEq

def DestinationName.new (appName aspects : String) : DestinationName where
  hash := C.sha256 (strBytes appName ++ strBytes "." ++ strBytes aspects)

/-- `new_from_hash_slice` on a name hash: the rest of the hash is zero. -/
def DestinationName.newFromHashSlice (slice : FixedBytes nameHashLength) :
    DestinationName where
  hash := ⟨slice.toList ++ List.replicate (hashLength - nameHashLength) 0,
    by rw [List.length_append, slice.toList_length, List.length_replicate]
       rfl⟩

def DestinationName.asNameHashSlice (name : DestinationName) :
    FixedBytes nameHashLength :=
  ⟨name.hash.toList.take nameHashLength, by
    simp [nameHashLength, hashLength]⟩

structure DestinationDesc where
  identity : Identity
  addressHash : Hash16
  name : DestinationName
deriving DecidableEq

/-- `create_address_hash`. -/
def createAddressHash (identity : Identity) (name : DestinationName) :
    Hash16 :=
  addressHashOf (C.sha256 (name.asNameHashSlice.toList
    ++ identity.addressHash.toList))

/-- `SingleOutputDestination::new`. -/
def DestinationDesc.new (identity : Identity) (name : DestinationName) :
    DestinationDesc where
  identity
  addressHash := createAddressHash C identity name
  name

/-- `SingleInputDestination`; its description is a function of these. -/
structure SingleInputDestination where
  identity : PrivateIdentity
  name : DestinationName
deriving DecidableEq

def SingleInputDestination.desc (d : SingleInputDestination) :
    DestinationDesc :=
  .new C (d.identity.asIdentity C) d.name

inductive DestinationHandleStatus where
  | none
  | linkProof
deriving DecidableEq

/-- `SingleInputDestination::handle_packet`. -/
def SingleInputDestination.handlePacket (d : SingleInputDestination)
    (packet : Packet) : DestinationHandleStatus :=
  if (d.desc C).addressHash ≠ packet.destination then .none
  else
    match packet.header.packetType with
    | .linkRequest => .linkProof
    | _ => .none

-- =========================================================== announces

/-- What an announce signs. -/
def SingleInputDestination.announceSigned (d : SingleInputDestination)
    (randHash : FixedBytes randHashLength) (appData : Bytes) : Bytes :=
  (d.desc C).addressHash.toList
    ++ (d.identity.asIdentity C).publicKey.toList
    ++ (d.identity.asIdentity C).verifyingKey.toList
    ++ d.name.asNameHashSlice.toList ++ randHash.toList ++ appData

/-- The keys and hashes that are both signed and sent. -/
def SingleInputDestination.writeKeys (d : SingleInputDestination)
    (randHash : FixedBytes randHashLength) (data : PacketDataBuffer) :
    PacketDataBuffer :=
  safeWrite (safeWrite (safeWrite (safeWrite data
    (d.identity.asIdentity C).publicKey.toList)
    (d.identity.asIdentity C).verifyingKey.toList)
    d.name.asNameHashSlice.toList) randHash.toList

/-- Without application data nothing is written for it. -/
def writeAppData (appData : Option Bytes) (data : PacketDataBuffer) :
    Except Fault PacketDataBuffer :=
  match appData with
  | some appData => writeData data appData
  | none => .ok data

/-- `SingleInputDestination::announce`, with the hash it draws. -/
def SingleInputDestination.announce (d : SingleInputDestination)
    (randHash : FixedBytes randHashLength) (appData : Option Bytes) :
    Except Fault Packet := do
  let signed ← writeAppData appData (d.writeKeys C randHash
    (safeWrite emptyData (d.desc C).addressHash.toList))
  let signature := C.sign d.identity.signKey signed.bytes
  let data ← writeAppData appData
    (safeWrite (d.writeKeys C randHash emptyData) signature.toList)
  return {
    header := { packetType := .announce }
    ifac := none
    destination := (d.desc C).addressHash
    transport := none
    context := .none
    data
  }

/-- The data that a signature of an announce has to be over. -/
def signedData (destination : Hash16) (publicKey verifyingKey : PublicKey)
    (nameHash : FixedBytes nameHashLength)
    (randHash : FixedBytes randHashLength) (appData : Bytes) :
    Except Fault PacketDataBuffer := do
  let signed ← writeData emptyData destination.toList
  let signed ← writeData signed publicKey.toList
  let signed ← writeData signed verifyingKey.toList
  let signed ← writeData signed nameHash.toList
  let signed ← writeData signed randHash.toList
  writeData signed appData

/-- `DestinationAnnounce::validate` past the two keys. -/
def validateFields (destination : Hash16)
    (publicKey verifyingKey : PublicKey) (rest : Bytes) :
    Except Fault (DestinationDesc × Bytes) := do
  let identity := Identity.new C publicKey verifyingKey
  let (nameHash, rest) ← readFixed nameHashLength rest
  let (randHash, rest) ← readFixed randHashLength rest
  let (signature, appData) ← readFixed signatureLength rest
  let signed ← signedData destination publicKey verifyingKey nameHash
    randHash appData
  if C.verifyStrict verifyingKey signed.bytes signature then
    return (.new C identity (.newFromHashSlice nameHash), appData)
  else throw (.error .incorrectSignature)

/-- `DestinationAnnounce::validate`. The length was checked, so that each
field is there to be read. -/
def validateAnnounce (packet : Packet) :
    Except Fault (DestinationDesc × Bytes) :=
  if packet.header.packetType ≠ .announce then .error (.error .packetError)
  else if packet.data.bytes.length < minAnnounceDataLength then
    .error (.error .outOfMemory)
  else do
    let (publicKey, rest) ← readFixed publicKeyLength packet.data.bytes
    let (verifyingKey, rest) ← readFixed publicKeyLength rest
    if C.validKey verifyingKey then
      validateFields C packet.destination publicKey verifyingKey rest
    else throw (.error .cryptoError)

-- =============================================================== links

abbrev linkMtuSize : Nat := 3

inductive LinkStatus where
  | pending
  | handshake
  | active
  | stale
  | closed
deriving DecidableEq

inductive LinkEvent where
  | activated
  | data (payload : Bytes) (context : PacketContext)
  | closed
deriving DecidableEq

structure LinkEventData where
  id : Hash16
  addressHash : Hash16
  event : LinkEvent
  peerIdentityHash : Hash16
deriving DecidableEq

inductive LinkHandleResult where
  | none
  | activated
  | keepAlive
deriving DecidableEq

structure Link where
  id : Hash16
  destination : DestinationDesc
  privIdentity : PrivateIdentity
  peerIdentity : Identity
  derivedKey : DerivedKey
  status : LinkStatus
  requestTime : Nat
  rtt : Nat
deriving DecidableEq

namespace Link

/-- `Link::new`, with the identity it draws. -/
def new (destination : DestinationDesc) (privIdentity : PrivateIdentity)
    (now : Nat) : Link where
  id := List.Vector.replicate _ 0
  destination
  privIdentity
  peerIdentity := .empty C
  derivedKey := .empty
  status := .pending
  requestTime := now
  rtt := 0

/-- `post_event`. -/
def postEvent (link : Link) (event : LinkEvent) : LinkEventData where
  id := link.id
  addressHash := link.destination.addressHash
  event
  peerIdentityHash := link.peerIdentity.addressHash

/-- `handshake`. -/
def handshake (link : Link) (peerIdentity : Identity) : Link :=
  { link with
    status := .handshake
    peerIdentity
    derivedKey := link.privIdentity.deriveKey C peerIdentity.publicKey
      link.id.toList }

/-- The public key a link request or a proof names. -/
def publicKeyAt (data : Bytes) (offset : Nat) : PublicKey :=
  Cbc.block 0 (data.drop offset)

/-- `Link::new_from_request`, with the secret it draws. -/
def newFromRequest (packet : Packet) (signingKey : SecretKey)
    (destination : DestinationDesc) (secret : SecretKey) (now : Nat) :
    Except Fault Link :=
  if packet.data.bytes.length < publicKeyLength * 2 then
    .error (.error .invalidArgument)
  else
    let link : Link := {
      id := linkId C.toPlatform packet
      destination
      privIdentity := { privateKey := secret, signKey := signingKey }
      peerIdentity := .empty C
      derivedKey := .empty
      status := .pending
      requestTime := now
      rtt := 0
    }
    .ok (link.handshake C (.newFromSlices C
      (publicKeyAt packet.data.bytes 0)
      (publicKeyAt packet.data.bytes publicKeyLength)))

/-- The packet of `request`. -/
def requestPacket (link : Link) : Packet where
  header := { packetType := .linkRequest }
  ifac := none
  destination := link.destination.addressHash
  transport := none
  context := .none
  data := safeWrite
    (safeWrite emptyData (link.privIdentity.asIdentity C).publicKey.toList)
    (link.privIdentity.asIdentity C).verifyingKey.toList

/-- `request`: the link and what it sends. -/
def request (link : Link) (now : Nat) : Link × Packet :=
  let packet := link.requestPacket C
  ({ link with status := .pending, id := linkId C.toPlatform packet
               requestTime := now }, packet)

/-- What a proof signs. -/
def proofSigned (link : Link) : Bytes :=
  link.id.toList ++ (link.privIdentity.asIdentity C).publicKey.toList
    ++ (link.privIdentity.asIdentity C).verifyingKey.toList

/-- The packet of `prove`. -/
def proofPacket (link : Link) : Packet where
  header := { packetType := .proof }
  ifac := none
  destination := link.id
  transport := none
  context := .linkRequestProof
  data := safeWrite
    (safeWrite emptyData
      (C.sign link.privIdentity.signKey (link.proofSigned C)).toList)
    (link.privIdentity.asIdentity C).publicKey.toList

/-- `prove`: the link, what it sends and what it posts. -/
def prove (link : Link) : Link × Packet × List LinkEventData :=
  if link.status ≠ .active then
    let link := { link with status := .active }
    (link, link.proofPacket C, [link.postEvent .activated])
  else (link, link.proofPacket C, [])

abbrev minProofLength : Nat := signatureLength + publicKeyLength

/-- The bytes behind the keys, when there are as many as an MTU has. -/
def proofMtu (data : Bytes) : Bytes :=
  if minProofLength + linkMtuSize ≤ data.length then
    data.drop minProofLength
  else []

/-- `validate_proof_packet`. More bytes behind the keys than an MTU has
do not fit the buffer of the signed data. -/
def validateProofPacket (destination : DestinationDesc) (id : Hash16)
    (packet : Packet) : Except Fault Identity :=
  let data := packet.data.bytes
  if data.length < minProofLength then .error (.error .packetError)
  else
    let publicKey := publicKeyAt data signatureLength
    let verifyingKey := destination.identity.verifyingKey
    let signed := id.toList ++ publicKey.toList ++ verifyingKey.toList
    if linkMtuSize < (proofMtu data).length then
      .error (.error .outOfMemory)
    else
      let identity := Identity.newFromSlices C publicKey verifyingKey
      let signature : Signature := Cbc.block 0 data
      if C.verifyStrict identity.verifyingKey (signed ++ proofMtu data)
          signature then
        .ok identity
      else .error (.error .incorrectSignature)

/-- `decrypt` into a buffer of `PACKET_MDU` bytes. -/
def decrypt (link : Link) (data : Bytes) : Except Fault Bytes :=
  decryptWithKey C link.derivedKey data packetMdu

/-- `handle_data_packet`. The branch of `PacketContext::None` does what
the last one does. -/
def handleDataPacket (link : Link) (packet : Packet) (now : Nat) :
    Link × LinkHandleResult × List LinkEventData :=
  if packet.context = .keepAlive then
    match packet.data.bytes with
    | 0xff :: _ => ({ link with requestTime := now }, .keepAlive, [])
    | 0xfe :: _ => ({ link with requestTime := now }, .none, [])
    | _ => (link, .none, [])
  else
    match link.decrypt C packet.data.bytes with
    | .ok plainText =>
        let link := { link with requestTime := now }
        (link, .none,
          [link.postEvent (.data (plainText.take packetMdu)
            packet.context)])
    | .error _ => (link, .none, [])

/-- `handle_packet`. -/
def handlePacket (link : Link) (packet : Packet) (now : Nat) :
    Link × LinkHandleResult × List LinkEventData :=
  if packet.destination ≠ link.id then (link, .none, [])
  else
    match packet.header.packetType with
    | .data => link.handleDataPacket C packet now
    | .proof =>
        if link.status = .pending ∧ packet.context = .linkRequestProof then
          match validateProofPacket C link.destination link.id packet with
          | .ok identity =>
              let link := { link.handshake C identity with
                status := .active, rtt := now - link.requestTime }
              (link, .activated, [link.postEvent .activated])
          | .error _ => (link, .none, [])
        else (link, .none, [])
    | _ => (link, .none, [])

/-- A data packet with these bytes. -/
def packetOf (link : Link) (context : PacketContext) (data : Bytes) :
    Packet where
  header := { destinationType := .link, packetType := .data }
  ifac := none
  destination := link.id
  transport := none
  context
  data := safeWrite emptyData data

/-- `data_packet_with_context`, with the vector it draws. -/
def dataPacketWithContext (link : Link) (context : PacketContext)
    (iv : Block) (data : Bytes) : Except Fault Packet := do
  let cipherText ← encryptWithKey C link.derivedKey iv data packetMdu
  return link.packetOf context cipherText

/-- `keep_alive_packet`. -/
def keepAlivePacket (link : Link) (data : UInt8) : Packet :=
  link.packetOf .keepAlive [data]

/-- `create_rtt`, on the five bytes `rmp` writes for the round trip
time. It expects that they encrypt. -/
def createRtt (link : Link) (iv : Block) (rtt : FixedBytes 5) :
    Except Fault Packet :=
  match encryptWithKey C link.derivedKey iv rtt.toList packetMdu with
  | .ok token => .ok (link.packetOf .linkRtt token)
  | .error _ => .error .panic

/-- `close`. -/
def close (link : Link) : Link × List LinkEventData :=
  let link := { link with status := .closed }
  (link, [link.postEvent .closed])

/-- `restart`. -/
def restart (link : Link) : Link := { link with status := .pending }

/-- `elapsed`. -/
def elapsed (link : Link) (now : Nat) : Nat := now - link.requestTime

end Link

end Lxmf.Reticulum
