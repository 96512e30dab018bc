/-
Resources: payloads that travel in parts
(reticulum-patched/src/resource.rs, utils/cache_set.rs, and the
resource context of `handle_link_event_inner` in
lxmf-rs/src/rns/transport.rs).

# Numbers and clocks

The `u32` fields of an advertisement and a part are natural numbers; a
sender reduces to 32 bits where the source casts. An `Instant` is a
count of nanoseconds. The progress of a transfer is the exact ratio the
source rounds to an `f32`.

# What is left out

The sending side keeps a state per resource for retries and proofs; of
it only `ResourceSender::split` is here. The request tracker of a link
is not part of what a link event returns.
-/
import Mathlib.Data.Finset.Card
import Lxmf.Transport
import Lxmf.Library.Assembly

namespace Lxmf

/-- `reticulum::error::RnsError`, the two errors resources raise. -/
inductive ReticulumError where
  | outOfMemory
  | invalidArgument
deriving DecidableEq

-- =========================================================== the cache

/-- `CacheSet`: a bounded set that forgets its oldest member. -/
structure CacheSet (α : Type) where
  capacity : Nat
  set : Finset α
  queue : List α

namespace CacheSet

variable {α : Type} [DecidableEq α]

def new (capacity : Nat) : CacheSet α := ⟨capacity, ∅, []⟩

def contains (c : CacheSet α) (value : α) : Bool := decide (value ∈ c.set)

/-- A full cache makes room. -/
def evict (c : CacheSet α) : CacheSet α :=
  if c.set.card = c.capacity then
    match c.queue with
    | oldest :: queue => { c with set := c.set.erase oldest, queue }
    | [] => c
  else c

/-- A value that is new goes in last, and pushes out the oldest of a full
cache. -/
def insert (c : CacheSet α) (value : α) : Bool × CacheSet α :=
  if c.contains value then (false, c)
  else
    let c := c.evict
    (true, { c with
      set := Insert.insert value c.set
      queue := c.queue ++ [value] })

end CacheSet

-- =============================================================== frames

abbrev resourceVersion : UInt8 := 1
abbrev resourcePartHeaderLen : Nat := 1 + destinationLength + 4
abbrev resourceDefaultMaxRetries : Nat := 3
abbrev resourceProofStatusOk : UInt8 := 0x01

/-- The bytes of a part's hash that stand in a hash map. -/
abbrev resourceMaphashLen : Nat := 4
abbrev resourceCompletedCacheSize : Nat := 256

abbrev MapHash := FixedBytes resourceMaphashLen

/-- What a sender says of a resource before it sends it. -/
structure ResourceAdvertisement where
  resourceId : Hash16
  requestId : Option Hash16
  totalLen : Nat
  partSize : Nat
  totalParts : Nat
  isResponse : Bool
  isRequest : Bool
deriving DecidableEq

/-- What a receiver makes of an advertisement. -/
inductive ResourceAdvertisementResult where
  | accepted
  | alreadyCompleted
deriving DecidableEq

/-- A part, by its place in the resource. -/
structure ResourcePart where
  resourceId : Hash16
  partIndex : Nat
  data : Bytes
deriving DecidableEq

/-- What the receiver returns when all parts are there. -/
structure ResourceProof where
  resourceId : Hash16
  status : UInt8
deriving DecidableEq

/-- The next hashes of the parts to come. -/
structure ResourceHashUpdate where
  resourceId : Hash16
  segment : Nat
  hashmap : Bytes
deriving DecidableEq

/-- `u32::from_be_bytes`. -/
def u32FromBeBytes (b : Bytes) : Nat :=
  b.foldl (fun n x => n * 256 + x.toNat) 0

def ResourcePart.decode (buffer : Bytes) :
    Except ReticulumError ResourcePart :=
  if h : resourcePartHeaderLen ≤ buffer.length then
    if buffer.head? = some resourceVersion then
      .ok {
        resourceId := ⟨(buffer.drop 1).take destinationLength, by
          simp only [resourcePartHeaderLen, destinationLength] at h
          simp only [List.length_take, List.length_drop, destinationLength]
          omega⟩
        partIndex := u32FromBeBytes
          ((buffer.drop (1 + destinationLength)).take 4)
        data := buffer.drop resourcePartHeaderLen }
    else .error .invalidArgument
  else .error .outOfMemory

-- =============================================================== events

/-- A resource that is complete. -/
structure ResourceCompletion where
  resourceId : Hash16
  data : Bytes
  requestId : Option Hash16
  isResponse : Bool
deriving DecidableEq

/-- How many of its parts are there. -/
structure ResourceProgress where
  resourceId : Hash16
  requestId : Option Hash16
  isResponse : Bool
  progress : ℚ
deriving DecidableEq

/-- What a part that came leads to. -/
inductive ResourceEvent where
  | progress (progress : ResourceProgress)
  | complete (completion : ResourceCompletion)
deriving DecidableEq

/-- A resource that was given up. -/
structure ResourceCancelEvent where
  resourceId : Hash16
  requestId : Option Hash16
  isResponse : Bool
deriving DecidableEq

/-- A resource that no part came of for too long. -/
structure ResourceTimeout where
  resourceId : Hash16
  linkId : Hash16
  requestId : Option Hash16
  isResponse : Bool
  requestedHashes : List MapHash
  hashmapExhausted : Bool
  lastMapHash : Option MapHash
  failed : Bool
deriving DecidableEq

-- ============================================================= assembly

/-- A resource that is being received: the parts that are there, and the
hashes of those to come. -/
structure ResourceAssembly where
  resourceId : Hash16
  linkId : Hash16
  requestId : Option Hash16
  isResponse : Bool
  totalLen : Nat
  totalParts : Nat
  partSize : Nat
  received : List (Option Bytes)
  receivedCount : Nat
  hashmap : List (Option MapHash)
  lastActivity : Nat
  retries : Nat
  maxRetries : Nat
deriving DecidableEq

/-- The first bytes of a part's hash. -/
def computeMapHash (P : Platform) (data : Bytes) : MapHash :=
  ⟨(P.sha256 data).toList.take resourceMaphashLen, by
    simp [resourceMaphashLen, hashLength]⟩

namespace ResourceAssembly

/-- An assembly without any part. -/
def ofAdvertisement (advert : ResourceAdvertisement) (linkId : Hash16)
    (now : Nat) : ResourceAssembly where
  resourceId := advert.resourceId
  linkId := linkId
  requestId := advert.requestId
  isResponse := advert.isResponse
  totalLen := advert.totalLen
  totalParts := advert.totalParts
  partSize := advert.partSize
  received := List.replicate advert.totalParts none
  receivedCount := 0
  hashmap := List.replicate advert.totalParts none
  lastActivity := now
  retries := 0
  maxRetries := resourceDefaultMaxRetries

/-- A part goes to its slot unless the slot is taken. -/
def store (a : ResourceAssembly) (index : Nat) (data : Bytes) :
    ResourceAssembly :=
  match a.received.getD index none with
  | some _ => a
  | none =>
      { a with
        received := a.received.set index (some data)
        receivedCount := a.receivedCount + 1 }

/-- The map hash of a slot is the hash of what is in it, unless it is
known. -/
def hashSlot (P : Platform) (a : ResourceAssembly) (index : Nat) :
    ResourceAssembly :=
  match a.hashmap.getD index none, a.received.getD index none with
  | none, some data =>
      { a with
        hashmap := a.hashmap.set index (some (computeMapHash P data)) }
  | _, _ => a

/-- What `handle_part` does to the assembly of a part. The clock is read
after the part is stored. -/
def accept (P : Platform) (a : ResourceAssembly) (part : ResourcePart)
    (now : Nat) : ResourceAssembly :=
  { (a.store part.partIndex part.data).hashSlot P part.partIndex with
    lastActivity := now }

/-- The received chunks in order, cut to the advertised length. -/
def data (a : ResourceAssembly) : Bytes :=
  (a.received.filterMap id).flatten.take a.totalLen

def completion (a : ResourceAssembly) : ResourceCompletion where
  resourceId := a.resourceId
  data := a.data
  requestId := a.requestId
  isResponse := a.isResponse

def progress (a : ResourceAssembly) : ResourceProgress where
  resourceId := a.resourceId
  requestId := a.requestId
  isResponse := a.isResponse
  progress := a.receivedCount / a.totalParts

/-- The loop of `handle_hash_update`: the hashes from `index` on, as
many as there are slots. -/
def fillHashes (hashmap : List (Option MapHash)) :
    Nat → List MapHash → List (Option MapHash)
  | _, [] => hashmap
  | index, hash :: hashes =>
      if hashmap.length ≤ index then hashmap
      else fillHashes (hashmap.set index (some hash)) (index + 1) hashes

/-- The slots without a chunk: their hashes, as far as they are known,
and whether one is not. -/
def missing (a : ResourceAssembly) : List MapHash × Bool :=
  let hashes := (List.range a.received.length).filterMap fun index =>
    match a.received.getD index none with
    | some _ => none
    | none => some (a.hashmap.getD index none)
  (hashes.filterMap id, hashes.any Option.isNone)

/-- The last hash that is known. -/
def lastMapHash (a : ResourceAssembly) : Option MapHash :=
  (a.hashmap.filterMap id).getLast?

def timeout (a : ResourceAssembly) (failed : Bool) : ResourceTimeout where
  resourceId := a.resourceId
  linkId := a.linkId
  requestId := a.requestId
  isResponse := a.isResponse
  requestedHashes := a.missing.1
  hashmapExhausted := a.missing.2
  lastMapHash := a.lastMapHash
  failed := failed

end ResourceAssembly

-- ========================================================== the tracker

/-- The resources that are being received, by id, and those that were
completed lately. -/
structure ResourceTracker where
  incoming : HashMap Hash16 ResourceAssembly
  timeout : Nat
  completed : CacheSet Hash16

namespace ResourceTracker

def new (timeout : Nat) : ResourceTracker :=
  ⟨∅, timeout, .new resourceCompletedCacheSize⟩

/-- `handle_advertisement`: a resource in progress starts again. -/
def handleAdvertisement (t : ResourceTracker)
    (advert : ResourceAdvertisement) (linkId : Hash16) (now : Nat) :
    Except ReticulumError ResourceAdvertisementResult × ResourceTracker :=
  if t.completed.contains advert.resourceId then
    (.ok .alreadyCompleted, t)
  else if advert.totalParts = 0 then (.error .invalidArgument, t)
  else
    (.ok .accepted, { t with
      incoming := t.incoming.insert advert.resourceId
        (.ofAdvertisement advert linkId now) })

/-- A resource leaves the tracker for the cache. -/
def conclude (t : ResourceTracker) (resourceId : Hash16) :
    ResourceTracker :=
  { t with
    incoming := t.incoming.erase resourceId
    completed := (t.completed.insert resourceId).2 }

/-- `handle_part`: a part whose hash is known fills its place, unless
another is there. -/
def handlePart (P : Platform) (t : ResourceTracker) (part : ResourcePart)
    (now : Nat) :
    Except ReticulumError (Option ResourceEvent) × ResourceTracker :=
  match t.incoming.lookup part.resourceId with
  | none => (.ok none, t)
  | some assembly =>
      if assembly.partSize < part.data.length then (.error .outOfMemory, t)
      else if assembly.received.length ≤ part.partIndex then
        (.error .invalidArgument, t)
      else
        let assembly := assembly.accept P part now
        if assembly.receivedCount = assembly.totalParts then
          (.ok (some (.complete assembly.completion)),
            t.conclude assembly.resourceId)
        else
          (.ok (some (.progress assembly.progress)), { t with
            incoming := t.incoming.insert part.resourceId assembly })

/-- The hashes of an update, four bytes each. -/
def mapHashes : Bytes → List MapHash
  | a :: b :: c :: d :: rest => ⟨[a, b, c, d], rfl⟩ :: mapHashes rest
  | _ => []

/-- `handle_hash_update`. -/
def handleHashUpdate (t : ResourceTracker) (update : ResourceHashUpdate)
    (now : Nat) : Bool × ResourceTracker :=
  match t.incoming.lookup update.resourceId with
  | none => (false, t)
  | some assembly =>
      if update.hashmap.length % resourceMaphashLen ≠ 0 then (false, t)
      else
        let hashes := mapHashes update.hashmap
        let hashmap := ResourceAssembly.fillHashes assembly.hashmap
          (update.segment * hashes.length) hashes
        (true, { t with
          incoming := t.incoming.insert update.resourceId
            { assembly with hashmap, lastActivity := now } })

/-- `handle_cancel`: a cancelled resource counts as completed. -/
def handleCancel (t : ResourceTracker) (resourceId : Hash16) :
    Option ResourceCancelEvent × ResourceTracker :=
  match t.incoming.lookup resourceId with
  | none => (none, t)
  | some assembly =>
      (some ⟨resourceId, assembly.requestId, assembly.isResponse⟩,
        t.conclude resourceId)

/-- The loop of `poll_timeouts` on one resource. -/
def pollResource (now : Nat) (acc : List ResourceTimeout × ResourceTracker)
    (resourceId : Hash16) : List ResourceTimeout × ResourceTracker :=
  let (expired, t) := acc
  match t.incoming.lookup resourceId with
  | none => (expired, t)
  | some assembly =>
      if now - assembly.lastActivity < t.timeout then (expired, t)
      else if assembly.maxRetries ≤ assembly.retries then
        (expired ++ [assembly.timeout true],
          { t with incoming := t.incoming.erase resourceId })
      else
        let assembly := { assembly with
          retries := assembly.retries + 1
          lastActivity := now }
        (expired ++ [assembly.timeout false],
          { t with incoming := t.incoming.insert resourceId assembly })

/-- `poll_timeouts`. -/
def pollTimeouts (t : ResourceTracker) (now : Nat) :
    List ResourceTimeout × ResourceTracker :=
  t.incoming.keys.foldl (pollResource now) ([], t)

end ResourceTracker

-- =========================================================== the sender

/-- `ResourceSender::split`. -/
def ResourceSender.split (P : Platform) (data : Bytes) (partSize : Nat)
    (requestId : Option Hash16) (isResponse isRequest : Bool) :
    Except ReticulumError (ResourceAdvertisement × List ResourcePart) :=
  if partSize = 0 then .error .invalidArgument
  else
    let resourceId := truncateSha256Bytes P data
    let chunks := Assembly.pieceCount partSize data.length
    .ok ({
        resourceId
        requestId
        totalLen := data.length % 2 ^ 32
        partSize := partSize % 2 ^ 32
        totalParts := chunks % 2 ^ 32
        isResponse
        isRequest },
      (List.range chunks).map fun index => {
        resourceId
        partIndex := index % 2 ^ 32
        data := Assembly.piece partSize data index })

-- ====================================================== the link branch

/-- What a link event yields: what the router receives, the proof sent
back, and the tracker. -/
structure LinkOutcome where
  received : List Received
  proof : Option ResourceProof
  tracker : ResourceTracker

/-- The end of the `PacketContext::Resource` branch: a payload that is
no part of a resource may be a propagation resource of its own. -/
def receivedBareResource (P : Platform) (sourceHash : Option Hash16)
    (payload : Bytes) : List Received :=
  match decodePropagationResourcePayload P payload with
  | .ok _ => [.propagationResource payload sourceHash]
  | .error _ => []

/-- The `PacketContext::Resource` branch. -/
def receivedResourcePacket (P : Platform) (tracker : ResourceTracker)
    (sourceHash : Option Hash16) (countClientReceive : Bool)
    (payload : Bytes) (now : Nat) : LinkOutcome :=
  match ResourcePart.decode payload with
  | .error _ => ⟨receivedBareResource P sourceHash payload, none, tracker⟩
  | .ok part =>
      match tracker.handlePart P part now with
      | (.ok (some (.complete completion)), tracker) =>
          ⟨receivedCompletion P completion.requestId completion.isResponse
              sourceHash countClientReceive completion.data,
            some ⟨completion.resourceId, resourceProofStatusOk⟩, tracker⟩
      | (.ok (some (.progress _)), tracker) => ⟨[], none, tracker⟩
      | (_, tracker) =>
          ⟨receivedBareResource P sourceHash payload, none, tracker⟩

end Lxmf
