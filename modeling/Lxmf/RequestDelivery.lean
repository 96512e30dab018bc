/-
How a request leaves (lxmf-rs/src/rns/transport.rs:
`build_request_packet_for_hash`, `send_request_to_hash`,
`send_resource_frames`, `decode_request_packet`) and the advertisement
of the resource it leaves as, when it is too long for a packet
(reticulum-patched/src/resource.rs: `ResourceAdvertisement`).

# Ids

A request has its id from the packet it would travel in. One that
travels as a resource carries its id along in the advertisement, and
keeps the one it has unless that is all zero.

# What is left out

Sending a frame over the links of a destination is the transport's; the
frames sent are the result here, in their order. Each of them arrives as
it was sent, or not at all.
-/
import Lxmf.ResourceExchange

namespace Lxmf

-- ====================================================== advertisements

/-- The flags of an advertisement: the id stands for something. -/
abbrev flagHasRequestId : UInt8 := 0x01

/-- The resource is a response. -/
abbrev flagIsResponse : UInt8 := 0x02

/-- The resource is a request. -/
abbrev flagIsRequest : UInt8 := 0x04

/-- All of an advertisement. -/
abbrev resourceAdvHeaderLen : Nat :=
  1 + 1 + destinationLength + destinationLength + 4 + 4 + 4

namespace ResourceAdvertisement

/-- What the optional fields come to. -/
def flags (advert : ResourceAdvertisement) : UInt8 :=
  (if advert.requestId.isSome then flagHasRequestId else 0)
    ||| (if advert.isResponse then flagIsResponse else 0)
    ||| (if advert.isRequest then flagIsRequest else 0)

/-- Zeros stand for an id that there is not. -/
def encode (advert : ResourceAdvertisement) : Bytes :=
  resourceVersion :: advert.flags :: (advert.resourceId.toList
    ++ ((advert.requestId.getD
        (List.Vector.replicate destinationLength 0)).toList
      ++ (u32ToBeBytes advert.totalLen ++ (u32ToBeBytes advert.totalParts
        ++ u32ToBeBytes advert.partSize))))

/-- The fields of `decode`, past the version and the flags. -/
def decodeFields (flags : UInt8) (buffer : Bytes) :
    Option ResourceAdvertisement := do
  let (resourceId, buffer) ← splitFixed destinationLength buffer
  let (requestId, buffer) ← splitFixed destinationLength buffer
  let (totalLen, buffer) ← splitFixed 4 buffer
  let (totalParts, buffer) ← splitFixed 4 buffer
  let (partSize, _) ← splitFixed 4 buffer
  return {
    resourceId
    requestId :=
      if flags &&& flagHasRequestId ≠ 0 then some requestId else none
    totalLen := u32FromBeBytes totalLen.toList
    partSize := u32FromBeBytes partSize.toList
    totalParts := u32FromBeBytes totalParts.toList
    isResponse := decide (flags &&& flagIsResponse ≠ 0)
    isRequest := decide (flags &&& flagIsRequest ≠ 0) }

/-- What comes after the last field is not read. -/
def decode (buffer : Bytes) :
    Except ReticulumError ResourceAdvertisement :=
  if buffer.length < resourceAdvHeaderLen then .error .outOfMemory
  else
    match buffer with
    | version :: flags :: buffer =>
        if version ≠ resourceVersion then .error .invalidArgument
        else
          match decodeFields flags buffer with
          | some advert => .ok advert
          | none => .error .outOfMemory
    | _ => .error .outOfMemory

end ResourceAdvertisement

/-- The frames of a resource, in the order `send_resource_frames` sends
them. -/
def ResourceSendState.frames (state : ResourceSendState) :
    List ResourceControlAction :=
  ⟨.resourceAdvertisement, state.advert.encode⟩
    :: state.parts.map fun part => ⟨.resource, part.encode⟩

-- ============================================================ requests

section Sending

variable (P : Platform)

/-- `build_request_packet_for_hash`: the id of the request is set. -/
def buildRequestPacketForHash (destinationHash : Hash16)
    (req : RnsRequest) : Except RnsError (Packet × RnsRequest) := do
  let payload ← encodeRequestBytes P req
  let packet ← packetFromPayloadWithContext destinationHash payload
    .single .request
  return (packet, { req with
    requestId := requestIdForDestination P destinationHash payload })

/-- The id is that of the packet and not that of the payload. -/
def decodeRequestPacket (packet : Packet) : Except RnsError RnsRequest := do
  if packet.context ≠ .request then
    throw (.msgpack "packet is not request")
  else
    let req ← decodeRequestBytes P packet.data.bytes
    return { req with requestId := requestIdFromPacket P packet }

/-- `ensure_request_id`: a request without an id gets that of its
payload. -/
def ensureRequestId (req : RnsRequest) (payload : Bytes) : RnsRequest :=
  if req.requestId.toList.all (· == 0) then
    { req with requestId := requestIdFromPayload P payload }
  else req

/-- What a part of a packet-sized frame may hold. -/
abbrev resourceFramePartSize : Nat := packetMdu - resourcePartHeaderLen

/-- `send_resource_frames`: the state that goes to `resource_outgoing`,
whose `frames` are sent. -/
def sendResourceFrames (payload : Bytes) (requestId : Option Hash16)
    (isResponse isRequest : Bool) (now : Nat) :
    Except RnsError ResourceSendState :=
  if resourceFramePartSize = 0 then
    .error (.msgpack "invalid resource payload")
  else
    (ResourceSendState.new P payload resourceFramePartSize requestId
      isResponse isRequest now).mapError
        fun _ => .msgpack "invalid resource payload"

/-- What `send_request_to_hash` sends. -/
inductive SentRequest where
  | packet (packet : Packet)
  | resource (state : ResourceSendState)

/-- A packet has an id of its own; a resource has the one that the request
brings, or else that of its payload. -/
def sendRequestToHash (destinationHash : Hash16) (req : RnsRequest)
    (now : Nat) : Except RnsError (SentRequest × RnsRequest) := do
  let payload ← encodeRequestBytes P req
  if payload.length ≤ packetMdu then
    let (packet, req) ← buildRequestPacketForHash P destinationHash req
    return (.packet packet, req)
  else
    let req := ensureRequestId P req payload
    let state ← sendResourceFrames P payload (some req.requestId) false
      true now
    return (.resource state, req)

end Sending

end Lxmf
