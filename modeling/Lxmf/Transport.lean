/-
Handing messages to Reticulum and reading them back
(lxmf-rs/src/rns/transport.rs, lxmf-rs/src/rns/mod.rs, packets from
reticulum-patched/src/packet.rs).

# Packets

Of a packet's header only the destination and packet types are kept, of
the packet the destination, the context and the data: the interface
access code, the transport address and the hop count are never set here
nor read. The data buffer holds at most `PACKET_MDU` bytes, which is a
field of the buffer.

# What a receiver sees

`receivedLinkData`, `receivedRequest`, `receivedResponse` and
`receivedCompletion` are the branches of `handle_link_event_inner` that
push to its output; the trackers it also updates are not part of them.
-/
import Lxmf.Message

namespace Lxmf

-- ============================================================== errors

/-- The ways in which a message can go out. -/
inductive DeliveryMode where
  | opportunistic
  | direct
  | propagated
  | paper
deriving DecidableEq

/-- What a sender asks of the encryption of its messages. -/
inductive RnsCryptoPolicy where
  | allowPlaintext
  | enforceRatchets
deriving DecidableEq

/-- The errors of the layer over RNS. Those of messages and of the
transport are wrapped. -/
inductive RnsError where
  | reticulum (e : String)
  | io (e : String)
  | invalidDestinationHash
  | cryptoPolicyViolation (policy : RnsCryptoPolicy) (mode : DeliveryMode)
      (reason : String)
  | lxmf (e : LXMFError)
  | msgpack (e : String)
deriving DecidableEq

section Lifting

variable {α : Type} (P : Platform)

/-- `?` on an `LXMFError`. -/
def liftLxmf (x : Except LXMFError α) : Except RnsError α :=
  x.mapError .lxmf

/-- `write_value` with its error lifted into `RnsError`. -/
def writeRns (v : Value) : Except RnsError Bytes :=
  (P.writeValue v).mapError .msgpack

/-- `read_value` with its error lifted into `RnsError`. -/
def readRns (b : Bytes) : Except RnsError Value :=
  (P.readValue b).mapError .msgpack

end Lifting

-- ============================================================= packets

/-- The largest payload that is sent as one packet. -/
abbrev packetMdu : Nat := 2048

/-- The kinds of destinations, as a packet names its own. -/
inductive DestinationType where
  | single
  | group
  | plain
  | link
deriving DecidableEq

/-- The kinds of packets. -/
inductive PacketType where
  | data
  | announce
  | linkRequest
  | proof
deriving DecidableEq

/-- What the payload of a packet is, of the contexts that this layer uses.
-/
inductive PacketContext where
  | none
  | resource
  | resourceAdvertisement
  | resourceRequest
  | resourceHashUpdate
  | resourceProof
  | resourceInitiatorCancel
  | resourceReceiverCancel
  | request
  | response
deriving DecidableEq

/-- The discriminant of a destination type. -/
def DestinationType.code : DestinationType → UInt8
  | .single => 0b00
  | .group => 0b01
  | .plain => 0b10
  | .link => 0b11

/-- The discriminant of a packet type. -/
def PacketType.code : PacketType → UInt8
  | .data => 0b00
  | .announce => 0b01
  | .linkRequest => 0b10
  | .proof => 0b11

/-- The discriminant of a context. -/
def PacketContext.code : PacketContext → UInt8
  | .none => 0x00
  | .resource => 0x01
  | .resourceAdvertisement => 0x02
  | .resourceRequest => 0x03
  | .resourceHashUpdate => 0x04
  | .resourceProof => 0x05
  | .resourceInitiatorCancel => 0x06
  | .resourceReceiverCancel => 0x07
  | .request => 0x09
  | .response => 0x0a

/-- `PacketDataBuffer`, a `StaticBuffer` of `PACKET_MDU` bytes. -/
structure PacketDataBuffer where
  bytes : Bytes
  fits : bytes.length ≤ packetMdu
deriving DecidableEq

/-- `PacketDataBuffer::new`, then `write`. -/
def PacketDataBuffer.ofPayload (payload : Bytes) :
    Except RnsError PacketDataBuffer :=
  if h : payload.length ≤ packetMdu then .ok ⟨payload, h⟩
  else .error (.reticulum "OutOfMemory")

/-- A packet, of what this layer sets and reads. -/
structure Packet where
  destinationType : DestinationType
  packetType : PacketType
  destination : Hash16
  context : PacketContext
  data : PacketDataBuffer
deriving DecidableEq

/-- `header.to_meta() & 0b0000_1111`. -/
def headerMeta (destinationType : DestinationType)
    (packetType : PacketType) : UInt8 :=
  destinationType.code * 4 + packetType.code

/-- `packet_from_payload_with_context`, on the destination's hash. -/
def packetFromPayloadWithContext (destination : Hash16) (payload : Bytes)
    (destinationType : DestinationType) (context : PacketContext) :
    Except RnsError Packet := do
  let data ← PacketDataBuffer.ofPayload payload
  return { destinationType, packetType := .data, destination, context, data }

/-- A packet without context. -/
def packetFromPayload (destination : Hash16) (payload : Bytes)
    (destinationType : DestinationType) : Except RnsError Packet :=
  packetFromPayloadWithContext destination payload destinationType .none

-- ============================================================ delivery

/-- `EncryptHook`. A hook may draw randomness; it is fixed per call. -/
structure EncryptHook where
  encrypt : Hash16 → Bytes → Except RnsError Bytes
  providesEncryption : Bool

/-- `NullEncryptor`. -/
def nullEncryptor : EncryptHook where
  encrypt _ plaintext := .ok plaintext
  providesEncryption := false

/-- `RnsOutbound`: the two address hashes, the identity hash and the key
of the source. -/
structure RnsOutbound where
  source : Hash16
  sourceIdentity : Hash16
  signKey : FixedBytes 32
  destination : Hash16
  encryptor : EncryptHook
  cryptoPolicy : RnsCryptoPolicy

/-- What becomes of a message: a packet, a resource when it is too long for
one, or text to print. -/
inductive DeliveryOutput where
  | packet (packet : Packet)
  | resource (destination : Hash16) (context : PacketContext)
      (data : Bytes)
  | paperUri (uri : String)
deriving DecidableEq

/-- A sender that enforces ratchets refuses the modes that go unencrypted,
and an encryptor that does nothing. -/
def RnsCryptoPolicy.checkOutbound (policy : RnsCryptoPolicy)
    (mode : DeliveryMode) (encryptor : EncryptHook) :
    Except RnsError Unit :=
  match policy with
  | .allowPlaintext => .ok ()
  | .enforceRatchets =>
      match mode with
      | .opportunistic | .direct =>
          .error (.cryptoPolicyViolation policy mode
            "delivery mode does not apply LXMF-layer encryption yet")
      | .propagated | .paper =>
          if encryptor.providesEncryption then .ok ()
          else .error (.cryptoPolicyViolation policy mode
            "encryptor does not provide encryption (NullEncryptor?)")

/-- A packet when the payload fits one, a resource when it does not. The
representation is set on the message either way. -/
def deliverAsPacketOrResource (destination : Hash16) (payload : Bytes)
    (msg : LXMessage) (destinationType : DestinationType) :
    Except RnsError DeliveryOutput × LXMessage :=
  if payload.length ≤ packetMdu then
    let msg := { msg with representation := reprPacket }
    ((packetFromPayload destination payload destinationType).map .packet,
      msg)
  else
    let msg := { msg with representation := reprResource }
    (.ok (.resource destination .resource payload), msg)

/-- The alphabet of `URL_SAFE_NO_PAD`. -/
def base64Alphabet : List Char :=
  "ABCDEFGHIJKLMNOPQRSTUVWXYZabcdefghijklmnopqrstuvwxyz0123456789-_".toList

/-- One character for six bits. -/
def base64Char (n : Nat) : Char := base64Alphabet.getD (n % 64) 'A'

/-- `URL_SAFE_NO_PAD.encode`. -/
def base64UrlNoPad : Bytes → List Char
  | a :: b :: c :: rest =>
      let n := (a.toNat * 256 + b.toNat) * 256 + c.toNat
      base64Char (n / 2 ^ 18) :: base64Char (n / 2 ^ 12)
        :: base64Char (n / 2 ^ 6) :: base64Char n :: base64UrlNoPad rest
  | [a, b] =>
      let n := (a.toNat * 256 + b.toNat) * 4
      [base64Char (n / 2 ^ 12), base64Char (n / 2 ^ 6), base64Char n]
  | [a] =>
      let n := a.toNat * 16
      [base64Char (n / 2 ^ 6), base64Char n]
  | [] => []

/-- The message is an argument of which nothing is read. -/
def LXMessage.asUriFromPaper (_m : LXMessage) (paperPacked : Bytes) :
    String :=
  "lxm://" ++ String.ofList (base64UrlNoPad paperPacked)

namespace RnsOutbound

variable (P : Platform)

/-- `prepare_message`: the hashes are the outbound's, whatever the
message said. -/
def prepareMessage (o : RnsOutbound) (msg : LXMessage) : LXMessage :=
  { msg with destinationHash := o.destination, sourceHash := o.source }

/-- The part of `deliver` after signing. -/
def deliverPacked (o : RnsOutbound) (msg : LXMessage)
    (mode : DeliveryMode) (packed : Bytes) :
    Except RnsError DeliveryOutput × LXMessage :=
  match mode with
  | .opportunistic =>
      let msg := { msg with method := some methodOpportunistic }
      deliverAsPacketOrResource o.destination
        (packed.drop destinationLength) msg .single
  | .direct =>
      let msg := { msg with method := some methodDirect }
      deliverAsPacketOrResource o.destination packed msg .single
  | .propagated =>
      let msg := { msg with method := some methodPropagated }
      match o.encryptor.encrypt o.destination
          (packed.drop destinationLength) with
      | .error e => (.error e, msg)
      | .ok encrypted =>
          match liftLxmf (msg.propagationPackedFromEncrypted P encrypted
              msg.timestamp none) with
          | .error e => (.error e, msg)
          | .ok propagation =>
              deliverAsPacketOrResource o.destination propagation msg
                .single
  | .paper =>
      let msg := { msg with method := some methodPaper }
      match o.encryptor.encrypt o.destination
          (packed.drop destinationLength) with
      | .error e => (.error e, msg)
      | .ok encrypted =>
          let paper := msg.paperPackedFromEncrypted encrypted
          (.ok (.paperUri (msg.asUriFromPaper paper)), msg)

/-- The message comes back with its stamp and its id even when the delivery
fails after it was signed. -/
def deliver (o : RnsOutbound) (msg : LXMessage) (mode : DeliveryMode)
    (rng : OsRng) : Except RnsError DeliveryOutput × LXMessage :=
  match o.cryptoPolicy.checkOutbound mode o.encryptor with
  | .error e => (.error e, msg)
  | .ok _ =>
      match (o.prepareMessage msg).encodeSigned P o.signKey rng with
      | (.error e, msg) => (.error (.lxmf e), msg)
      | (.ok packed, msg) => o.deliverPacked P msg mode packed

end RnsOutbound

-- ============================================== requests and responses

/-- A request as it is received. Its id is not sent along. -/
structure RnsRequest where
  requestId : Hash16
  requestedAt : F64
  pathHash : Hash16
  data : Value
deriving DecidableEq

/-- A response, which names the request it answers. -/
structure RnsResponse where
  requestId : Hash16
  data : Value
deriving DecidableEq

/-- The path under which peers sync. -/
def peerSyncPath : String := "lxmf/peer/sync"

/-- The paths of control requests: this one asks for statistics. -/
def controlStatsPath : String := "/pn/get/stats"

/-- Asks for a sync with a peer. -/
def controlSyncPath : String := "/pn/peer/sync"

/-- Asks that a peer be dropped. -/
def controlUnpeerPath : String := "/pn/peer/unpeer"

section Requests

variable (P : Platform)

/-- The first sixteen bytes of a hash. -/
def truncateSha256Bytes (input : Bytes) : Hash16 :=
  ⟨(P.sha256 input).toList.take destinationLength, by
    simp [destinationLength, hashLength]⟩

/-- A request names its path by this hash. -/
def requestPathHash (path : String) : Hash16 :=
  truncateSha256Bytes P (strBytes path)

/-- Only the paths of control requests are known. -/
def requestPathForHash (hash : Hash16) : Option String :=
  if hash = requestPathHash P controlStatsPath then some controlStatsPath
  else if hash = requestPathHash P controlSyncPath then some controlSyncPath
  else if hash = requestPathHash P controlUnpeerPath then
    some controlUnpeerPath
  else none

/-- The id of a request whose packet is not known. -/
def requestIdFromPayload (payload : Bytes) : Hash16 :=
  truncateSha256Bytes P payload

/-- The id that both ends compute of the packet: header, address, context
and payload without the hop count. -/
def requestIdFromPacketParts (destinationHash : Hash16)
    (context : PacketContext) (destinationType : DestinationType)
    (packetType : PacketType) (payload : Bytes) : Hash16 :=
  truncateSha256Bytes P (headerMeta destinationType packetType
    :: destinationHash.toList ++ context.code :: payload)

/-- The id of the packet in which a payload would be sent to a destination.
-/
def requestIdForDestination (destinationHash : Hash16) (payload : Bytes) :
    Hash16 :=
  requestIdFromPacketParts P destinationHash .request .single .data payload

/-- `request_id_from_packet`, over `Packet::hash`. -/
def requestIdFromPacket (packet : Packet) : Hash16 :=
  requestIdFromPacketParts P packet.destination packet.context
    packet.destinationType packet.packetType packet.data.bytes

/-- The id is no part of it. -/
def encodeRequestBytes (req : RnsRequest) : Except RnsError Bytes :=
  writeRns P (.array [.f64 req.requestedAt, .binary req.pathHash.toList,
    req.data])

/-- `ok_or_else` with a `Msgpack` error. -/
def orMsgpack {α : Type} (e : String) : Option α → Except RnsError α
  | some a => .ok a
  | none => .error (.msgpack e)

/-- The array of a request or response, `kind` naming it in errors. -/
def readFields (kind : String) (n : Nat) (bytes : Bytes) :
    Except RnsError (List Value) := do
  match ← readRns P bytes with
  | .array arr =>
      if arr.length < n then throw (.msgpack (kind ++ " missing fields"))
      else return arr
  | _ => throw (.msgpack (kind ++ " must be array"))

/-- Of a list that may be longer than three, whose time may be a number of
any kind. -/
def decodeRequestBytesWithRequestId (bytes : Bytes) (requestId : Hash16) :
    Except RnsError RnsRequest := do
  let arr ← readFields P "request" 3 bytes
  let requestedAt ← orMsgpack "invalid requested_at"
    (valueToF64 (arr.getD 0 .nil))
  let pathHash ← orMsgpack "invalid request path hash"
    (valueToFixedBytes destinationLength (arr.getD 1 .nil))
  return { requestId, requestedAt, pathHash, data := arr.getD 2 .nil }

/-- Under the id of the payload alone. -/
def decodeRequestBytes (bytes : Bytes) : Except RnsError RnsRequest :=
  decodeRequestBytesWithRequestId P bytes (requestIdFromPayload P bytes)

/-- Under the id of the packet that would carry it. -/
def decodeRequestBytesForDestination (destinationHash : Hash16)
    (bytes : Bytes) : Except RnsError RnsRequest :=
  decodeRequestBytesWithRequestId P bytes
    (requestIdForDestination P destinationHash bytes)

/-- With the id of the request, unlike a request. -/
def encodeResponseBytes (resp : RnsResponse) : Except RnsError Bytes :=
  writeRns P (.array [.binary resp.requestId.toList, resp.data])

/-- Of a list that may be longer than two. -/
def decodeResponseBytes (bytes : Bytes) : Except RnsError RnsResponse := do
  let arr ← readFields P "response" 2 bytes
  let requestId ← orMsgpack "invalid response id"
    (valueToFixedBytes destinationLength (arr.getD 0 .nil))
  return { requestId, data := arr.getD 1 .nil }

end Requests

-- =========================================================== reception

/-- What a router is handed: the inbound queue holds these. -/
inductive Received where
  | message (msg : LXMessage)
  | propagated (timestamp : F64) (lxmData : Bytes) (transientId : Hash32)
      (sourceHash : Option Hash16) (countClientReceive : Bool)
  | propagationResource (payload : Bytes) (sourceHash : Option Hash16)
  | request (request : RnsRequest) (sourceHash : Option Hash16)
  | response (response : RnsResponse) (sourceHash : Option Hash16)
  | controlRequest (request : RnsRequest) (sourceHash : Option Hash16)
deriving DecidableEq

section Reception

variable (P : Platform)

/-- The two-element array both propagation decoders start from. -/
def readPropagationArray (payload : Bytes) :
    Except RnsError (List Value) := do
  match ← readRns P payload with
  | .array arr =>
      if arr.length < 2 then throw (.lxmf .invalidPayload) else return arr
  | _ => throw (.lxmf .invalidPayload)

/-- The messages of a resource, of which every one has to be binary. -/
def decodePropagationResourcePayload (payload : Bytes) :
    Except RnsError (List Bytes) := do
  let arr ← readPropagationArray P payload
  match arr.getD 1 .nil with
  | .array messages =>
      messages.mapM fun
        | .binary bytes => .ok bytes
        | _ => .error (.lxmf .invalidPayload)
  | _ => throw (.lxmf .invalidPayload)

/-- One message with the time it came with, which has to be a float. -/
def decodePropagatedPayload (payload : Bytes)
    (sourceHash : Option Hash16) (countClientReceive : Bool) :
    Except RnsError Received := do
  let arr ← readPropagationArray P payload
  match arr.getD 0 .nil, arr.getD 1 .nil with
  | .f64 timestamp, .array [.binary lxmData] =>
      return .propagated timestamp lxmData (fullHash P lxmData) sourceHash
        countClientReceive
  | _, _ => throw (.lxmf .invalidPayload)

/-- An opportunistic packet has left out the address, which is that of the
packet. -/
def decodePacketWithSource (packet : Packet) (mode : DeliveryMode)
    (sourceHash : Option Hash16) : Except RnsError Received :=
  match mode with
  | .opportunistic =>
      (liftLxmf (LXMessage.decode P
        (packet.destination.toList ++ packet.data.bytes))).map .message
  | .direct =>
      (liftLxmf (LXMessage.decode P packet.data.bytes)).map .message
  | .propagated =>
      decodePropagatedPayload P packet.data.bytes sourceHash true
  | .paper => .error (.lxmf .invalidPayload)

/-- From a source that is not known. -/
def decodePacket (packet : Packet) (mode : DeliveryMode) :
    Except RnsError Received :=
  decodePacketWithSource P packet mode none

/-- A decoded request, filed by its path. -/
def fileRequest (request : RnsRequest) (sourceHash : Option Hash16) :
    Received :=
  match requestPathForHash P request.pathHash with
  | some path =>
      if path = controlStatsPath ∨ path = controlSyncPath
          ∨ path = controlUnpeerPath then
        .controlRequest request sourceHash
      else .request request sourceHash
  | none => .request request sourceHash

/-- The `PacketContext::Request` branch. -/
def receivedRequest (destinationHash : Hash16)
    (sourceHash : Option Hash16) (payload : Bytes) : List Received :=
  match decodeRequestBytesForDestination P destinationHash payload with
  | .ok request => [fileRequest P request sourceHash]
  | .error _ => []

/-- The `PacketContext::Response` branch. -/
def receivedResponse (sourceHash : Option Hash16) (payload : Bytes) :
    List Received :=
  match decodeResponseBytes P payload with
  | .ok response => [.response response sourceHash]
  | .error _ => []

/-- The first three readings that link data and a completed resource
share. -/
def receivedContent (sourceHash : Option Hash16)
    (countClientReceive : Bool) (payload : Bytes) : List Received :=
  match LXMessage.decode P payload with
  | .ok msg => [.message msg]
  | .error _ =>
      match decodePropagatedPayload P payload sourceHash
          countClientReceive with
      | .ok received => [received]
      | .error _ =>
          match decodePropagationResourcePayload P payload with
          | .ok _ => [.propagationResource payload sourceHash]
          | .error _ => []

/-- The `PacketContext::None` branch: a message, a propagated message, a
propagation resource, a request, a response, tried in this order. -/
def receivedLinkData (destinationHash : Hash16)
    (sourceHash : Option Hash16) (countClientReceive : Bool)
    (payload : Bytes) : List Received :=
  match receivedContent P sourceHash countClientReceive payload with
  | [] =>
      match receivedRequest P destinationHash sourceHash payload with
      | [] => receivedResponse P sourceHash payload
      | received => received
  | received => received

/-- The branch of a completed resource. -/
def receivedCompletion (requestId : Option Hash16) (isResponse : Bool)
    (sourceHash : Option Hash16) (countClientReceive : Bool)
    (data : Bytes) : List Received :=
  match requestId with
  | some requestId =>
      if isResponse then receivedResponse P sourceHash data
      else
        match decodeRequestBytes P data with
        | .ok request =>
            [fileRequest P { request with requestId := requestId }
              sourceHash]
        | .error _ => []
  | none => receivedContent P sourceHash countClientReceive data

end Reception

end Lxmf
