/-
How a receiver asks for the parts it lacks
(reticulum-patched/src/resource.rs: `ResourceRequest`,
`ResourceHashUpdate`, `ResourceSendState`; lxmf-rs/src/rns/transport.rs:
the request and hash-update contexts of `handle_link_event_inner`, the
poll of `RnsNodeRouter`).

# The round

A resource that was idle for long asks for its missing parts by their
map hashes. Where it does not know a hash it says so and names the last
one it knows; the sender answers with the parts asked for and with the
hashes that follow the one named.

# What is left out

Of a sending state only what answers a request is here: the receipt, the
retries and the timeout do not matter for it. A hash update is two
MessagePack values, written and read by the same codec as the rest. Each
frame arrives as it was sent.
-/
import Lxmf.Resource

namespace Lxmf

-- =============================================================== frames

/-- The first byte of a request that knows the hashes of all it asks for.
-/
abbrev resourceHashmapIsNotExhausted : UInt8 := 0x00

/-- The first byte of one that needs further hashes. -/
abbrev resourceHashmapIsExhausted : UInt8 := 0xff

/-- Version and resource. -/
abbrev resourceHashUpdateHeaderLen : Nat := 1 + destinationLength

/-- The parts that a receiver wants, by their hashes. -/
structure ResourceRequest where
  resourceId : Hash16
  hashmapExhausted : Bool
  lastMapHash : Option MapHash
  requestedHashes : List MapHash
deriving DecidableEq

/-- The first `n` bytes, and the rest. -/
def splitFixed (n : Nat) (b : Bytes) : Option (FixedBytes n × Bytes) :=
  (toFixed n (b.take n)).map fun first => (first, b.drop n)

/-- A request that knows no hash names the zero one. -/
def ResourceRequest.encode (request : ResourceRequest) : Bytes :=
  (if request.hashmapExhausted then
    resourceHashmapIsExhausted :: (request.lastMapHash.getD
      (List.Vector.replicate resourceMaphashLen 0)).toList
  else [resourceHashmapIsNotExhausted])
  ++ request.resourceId.toList
  ++ request.requestedHashes.flatMap (·.toList)

/-- The end of `decode`, past the flag and the last hash. -/
def ResourceRequest.decodeHashes (hashmapExhausted : Bool)
    (lastMapHash : Option MapHash) (buffer : Bytes) :
    Except ReticulumError ResourceRequest :=
  match splitFixed destinationLength buffer with
  | none => .error .outOfMemory
  | some (resourceId, hashes) =>
      if hashes.length % resourceMaphashLen ≠ 0 then
        .error .invalidArgument
      else
        .ok {
          resourceId
          hashmapExhausted
          lastMapHash
          requestedHashes := ResourceTracker.mapHashes hashes }

/-- Every first byte but one says that no further hashes are needed. -/
def ResourceRequest.decode (buffer : Bytes) :
    Except ReticulumError ResourceRequest :=
  match buffer with
  | [] => .error .outOfMemory
  | flag :: buffer =>
      if flag = resourceHashmapIsExhausted then
        match splitFixed resourceMaphashLen buffer with
        | none => .error .outOfMemory
        | some (lastMapHash, buffer) =>
            decodeHashes true (some lastMapHash) buffer
      else decodeHashes false none buffer

/-- `u32::to_be_bytes`. -/
def u32ToBeBytes (n : Nat) : Bytes :=
  [UInt8.ofNat (n / 2 ^ 24), UInt8.ofNat (n / 2 ^ 16),
   UInt8.ofNat (n / 2 ^ 8), UInt8.ofNat n]

def ResourcePart.encode (part : ResourcePart) : Bytes :=
  resourceVersion :: part.resourceId.toList ++ u32ToBeBytes part.partIndex
    ++ part.data

namespace ResourceHashUpdate

variable (P : Platform)

/-- Writing into a vector does not fail. -/
def encode (update : ResourceHashUpdate) : Bytes :=
  let msgpack :=
    match P.writeValue (.array [.integer (Integer.ofU64 update.segment),
      .binary update.hashmap]) with
    | .ok msgpack => msgpack
    | .error _ => []
  resourceVersion :: update.resourceId.toList ++ msgpack

def decode (buffer : Bytes) : Except ReticulumError ResourceHashUpdate :=
  match buffer with
  | [] => .error .outOfMemory
  | version :: buffer =>
      match splitFixed destinationLength buffer with
      | none => .error .outOfMemory
      | some (resourceId, msgpack) =>
          if version ≠ resourceVersion then .error .invalidArgument
          else
            match P.readValue msgpack with
            | .ok (.array [.integer segment, .binary hashmap]) =>
                match segment.asU64 with
                | some segment =>
                    if u32Max < segment then .error .invalidArgument
                    else .ok { resourceId, segment, hashmap }
                | none => .error .invalidArgument
            | _ => .error .invalidArgument

end ResourceHashUpdate

-- =========================================================== the sender

/-- A resource on its way. -/
structure ResourceSendState where
  resourceId : Hash16
  advert : ResourceAdvertisement
  parts : List ResourcePart
  lastSent : Nat
deriving DecidableEq

/-- A frame that is sent back. -/
structure ResourceControlAction where
  context : PacketContext
  payload : Bytes
deriving DecidableEq

namespace ResourceSendState

variable (P : Platform)

/-- The resource counts as sent from the start. -/
def new (data : Bytes) (partSize : Nat) (requestId : Option Hash16)
    (isResponse isRequest : Bool) (now : Nat) :
    Except ReticulumError ResourceSendState := do
  let (advert, parts) ← ResourceSender.split P data partSize requestId
    isResponse isRequest
  return { resourceId := advert.resourceId, advert, parts, lastSent := now }

/-- In the order of the resource. Parts with one content go out together.
-/
def handleRequest (state : ResourceSendState) (request : ResourceRequest) :
    List ResourcePart :=
  if request.resourceId ≠ state.resourceId then []
  else if request.requestedHashes.isEmpty then []
  else
    state.parts.filter fun part =>
      decide (computeMapHash P part.data ∈ request.requestedHashes)

/-- The index behind the part a hash names, or the first one. -/
def startIndex (state : ResourceSendState) (lastHash : MapHash) : Nat :=
  match state.parts.findIdx? fun part =>
      computeMapHash P part.data = lastHash with
  | some index => index + 1
  | none => 0

/-- The hashes of the parts behind the one a hash names. -/
def hashmapAfter (state : ResourceSendState) (lastHash : MapHash) : Bytes :=
  (state.parts.drop (state.startIndex P lastHash)).flatMap fun part =>
    (computeMapHash P part.data).toList

/-- The hash update in answer to a request, if it asks for one. -/
def hashUpdate (state : ResourceSendState) (request : ResourceRequest) :
    Option ResourceHashUpdate :=
  if request.hashmapExhausted then
    request.lastMapHash.map fun lastHash => {
      resourceId := request.resourceId
      segment := 0
      hashmap := state.hashmapAfter P lastHash }
  else none

end ResourceSendState

/-- The `PacketContext::ResourceRequest` branch. -/
def receivedResourceRequest (P : Platform)
    (outgoing : HashMap Hash16 ResourceSendState) (payload : Bytes)
    (now : Nat) :
    List ResourceControlAction × HashMap Hash16 ResourceSendState :=
  match ResourceRequest.decode payload with
  | .error _ => ([], outgoing)
  | .ok request =>
      match outgoing.lookup request.resourceId with
      | none => ([], outgoing)
      | some state =>
          let parts := state.handleRequest P request
          let actions := parts.map (fun part =>
              (⟨.resource, part.encode⟩ : ResourceControlAction))
            ++ ((state.hashUpdate P request).map fun update =>
              (⟨.resourceHashUpdate, update.encode P⟩
                : ResourceControlAction)).toList
          (actions,
            if parts.isEmpty then outgoing
            else outgoing.insert request.resourceId
              { state with lastSent := now })

-- ========================================================= the receiver

/-- The request the poll makes of a resource that is still alive. -/
def ResourceTimeout.request (timeout : ResourceTimeout) :
    Option ResourceRequest :=
  if !timeout.failed
      && (!timeout.requestedHashes.isEmpty || timeout.hashmapExhausted) then
    some {
      resourceId := timeout.resourceId
      hashmapExhausted := timeout.hashmapExhausted
      lastMapHash := timeout.lastMapHash
      requestedHashes := timeout.requestedHashes }
  else none

/-- The `PacketContext::ResourceHashUpdate` branch. -/
def receivedHashUpdate (P : Platform) (tracker : ResourceTracker)
    (payload : Bytes) (now : Nat) : ResourceTracker :=
  match ResourceHashUpdate.decode P payload with
  | .error _ => tracker
  | .ok update => (tracker.handleHashUpdate update now).2

end Lxmf
