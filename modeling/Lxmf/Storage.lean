/-
The propagation store and what is written below the storage root
(lxmf-rs/src/rns/storage.rs).

# The disk

The storage root is a map from a path, relative to the root, to the
bytes of that file. The source ignores the outcome of every write and
of every removal; here they all succeed. Directories are implied by the
paths of their files.

# The order of a map

A `HashMap` is serialised in its iteration order. The readers put the
entries back into a map, so the order of a file's entries is not
meaningful.
-/
import Lxmf.Transport

namespace Lxmf

-- ================================================= propagation entries

/-- A propagated message as a node stores it. -/
structure PropagationEntry where
  transientId : Hash32
  lxmData : Bytes
  timestamp : F64
  destinationHash : Option Hash16
  filepath : Option String
  msgSize : Option Nat
deriving DecidableEq

/-- The first `DESTINATION_LENGTH` bytes of propagated data. -/
def destinationPrefix (lxmData : Bytes) : Option Hash16 :=
  toFixed destinationLength (lxmData.take destinationLength)

def hexDigit (n : Nat) : Char := "0123456789abcdef".toList.getD n '0'

/-- `hex::encode`. -/
def hexEncode (b : Bytes) : String :=
  String.ofList (b.flatMap fun x =>
    [hexDigit (x.toNat / 16), hexDigit (x.toNat % 16)])

/-- The name of a file: the id, the time and the value of the stamp. -/
def propagationEntryFilename (transientId : Hash32) (timestamp : F64)
    (stampValue : Nat) : String :=
  hexEncode transientId.toList ++ "_" ++ timestamp.display ++ "_"
    ++ toString stampValue

namespace PropagationEntry

variable (P : Platform)

/-- The value an entry's own stamp has, at no cost. -/
def stampValue (entry : PropagationEntry) : Nat :=
  match validatePnStamp P entry.lxmData 0 with
  | some (_, _, value, _) => value
  | none => 0

/-- The name `entry` is filed under. -/
def filename (entry : PropagationEntry) : String :=
  propagationEntryFilename entry.transientId entry.timestamp
    (entry.stampValue P)

/-- `propagation_entry_to_value`. -/
def toValue (entry : PropagationEntry) : Value :=
  .array
    [.binary entry.transientId.toList,
     .binary entry.lxmData,
     .f64 entry.timestamp,
     match entry.destinationHash with
       | some destHash => .binary destHash.toList
       | none => .nil,
     match entry.filepath with
       | some path => .str path
       | none => .nil,
     match entry.msgSize with
       | some size => .ofNat size
       | none => .nil]

/-- `propagation_entry_to_bytes`. -/
def toBytes (entry : PropagationEntry) : Except RnsError Bytes :=
  writeRns P entry.toValue

/-- `propagation_entry_from_bytes`. The last three fields are optional:
a missing one is read as `Nil`, and so is one of the wrong type. -/
def fromBytes (bytes : Bytes) : Except RnsError PropagationEntry := do
  let arr ← readFields P "propagation entry" 3 bytes
  let transientId ← orMsgpack "invalid transient id"
    (valueToFixedBytes hashLength (arr.getD 0 .nil))
  let lxmData ← orMsgpack "invalid lxm data"
    (valueToBytes (arr.getD 1 .nil))
  let timestamp ← orMsgpack "invalid timestamp"
    (valueToF64 (arr.getD 2 .nil))
  let destinationHash := valueToFixedBytes destinationLength
    (arr.getD 3 .nil)
  let filepath := valueToOptString (arr.getD 4 .nil)
  let msgSize := valueToOptU64 (arr.getD 5 .nil)
  return {
    transientId
    lxmData
    timestamp
    destinationHash := destinationHash <|> destinationPrefix lxmData
    filepath
    msgSize := msgSize <|> some lxmData.length }

end PropagationEntry

-- ================================================ the propagation store

/-- The entries by id, what their stamps are worth, the files they are in,
and the peers that have them or are to be offered them. -/
structure PropagationStore where
  entries : HashMap Hash32 PropagationEntry
  stampValues : HashMap Hash32 Nat
  filenames : HashMap Hash32 String
  handledPeers : HashMap Hash32 (Finset Hash16)
  unhandledPeers : HashMap Hash32 (Finset Hash16)

namespace PropagationStore

def new : PropagationStore := ⟨∅, ∅, ∅, ∅, ∅⟩

/-- An entry takes the place of one of its id; who has that one is kept. -/
def insertWithStampValueAndFilename (s : PropagationStore)
    (entry : PropagationEntry) (stampValue : Nat) (filename : String) :
    PropagationStore :=
  { s with
    stampValues := s.stampValues.insert entry.transientId stampValue
    filenames := s.filenames.insert entry.transientId filename
    entries := s.entries.insert entry.transientId entry }

/-- The same, under the name that the entry gives its file. -/
def insertWithStampValue (s : PropagationStore) (entry : PropagationEntry)
    (stampValue : Nat) : PropagationStore :=
  s.insertWithStampValueAndFilename entry stampValue
    (propagationEntryFilename entry.transientId entry.timestamp stampValue)

def insert (P : Platform) (s : PropagationStore)
    (entry : PropagationEntry) : PropagationStore :=
  s.insertWithStampValue entry (entry.stampValue P)

def has (s : PropagationStore) (transientId : Hash32) : Bool :=
  decide (transientId ∈ s.entries)

def get (s : PropagationStore) (transientId : Hash32) :
    Option PropagationEntry :=
  s.entries.lookup transientId

/-- `remove`: the peer sets of the id stay. -/
def remove (s : PropagationStore) (transientId : Hash32) :
    PropagationStore :=
  { s with
    stampValues := s.stampValues.erase transientId
    filenames := s.filenames.erase transientId
    entries := s.entries.erase transientId }

/-- The ids in the order of the map. -/
def listIds (s : PropagationStore) : List Hash32 := s.entries.keys

def stampValue (s : PropagationStore) (transientId : Hash32) :
    Option Nat :=
  s.stampValues.lookup transientId

def filename (s : PropagationStore) (transientId : Hash32) :
    Option String :=
  s.filenames.lookup transientId

/-- The bytes of all entries. -/
def totalSizeBytes (s : PropagationStore) : Nat :=
  (s.entries.entries.map fun e => e.2.lxmData.length).sum

/-- One removal of `remove_older_than`. -/
def forget (s : PropagationStore) (transientId : Hash32) :
    PropagationStore :=
  { s.remove transientId with
    handledPeers := s.handledPeers.erase transientId
    unhandledPeers := s.unhandledPeers.erase transientId }

/-- `remove_older_than`, with the ids that went. -/
def removeOlderThan (s : PropagationStore) (nowMs maxAgeMs : Nat) :
    Nat × PropagationStore :=
  let cutoff := nowMs - maxAgeMs
  let remove := (s.entries.entries.filter fun e =>
    ((e.2.timestamp.max (.fin 0)).mul (.fin 1000)).toU64 ≤ cutoff).map
      (·.1)
  (remove.length, remove.foldl forget s)

-- ------------------------------------------------------ the peer sets

/-- The peers noted for an id, none when it has no set. -/
def peersOf (sets : HashMap Hash32 (Finset Hash16))
    (transientId : Hash32) : Finset Hash16 :=
  (sets.lookup transientId).getD ∅

/-- The body `add_handled_peer` and `add_unhandled_peer` share: the set
of a stored id grows, and the result says whether it did. -/
def addPeer (s : PropagationStore) (sets : HashMap Hash32 (Finset Hash16))
    (transientId : Hash32) (peerId : Hash16) :
    Bool × HashMap Hash32 (Finset Hash16) :=
  if s.has transientId then
    let peers := peersOf sets transientId
    (decide (peerId ∉ peers),
      sets.insert transientId (Insert.insert peerId peers))
  else (false, sets)

/-- The body of the two removals: an emptied set goes. -/
def removePeer (s : PropagationStore)
    (sets : HashMap Hash32 (Finset Hash16)) (transientId : Hash32)
    (peerId : Hash16) : HashMap Hash32 (Finset Hash16) :=
  if s.has transientId then
    match sets.lookup transientId with
    | some peers =>
        if peers.erase peerId = ∅ then sets.erase transientId
        else sets.insert transientId (peers.erase peerId)
    | none => sets
  else sets

/-- A peer has the message; whether that was new. -/
def addHandledPeer (s : PropagationStore) (transientId : Hash32)
    (peerId : Hash16) : Bool × PropagationStore :=
  let (new, sets) := s.addPeer s.handledPeers transientId peerId
  (new, { s with handledPeers := sets })

def removeHandledPeer (s : PropagationStore) (transientId : Hash32)
    (peerId : Hash16) : PropagationStore :=
  { s with
    handledPeers := s.removePeer s.handledPeers transientId peerId }

/-- A peer is to be offered the message; whether that was new. -/
def addUnhandledPeer (s : PropagationStore) (transientId : Hash32)
    (peerId : Hash16) : Bool × PropagationStore :=
  let (new, sets) := s.addPeer s.unhandledPeers transientId peerId
  (new, { s with unhandledPeers := sets })

def removeUnhandledPeer (s : PropagationStore) (transientId : Hash32)
    (peerId : Hash16) : PropagationStore :=
  { s with
    unhandledPeers := s.removePeer s.unhandledPeers transientId peerId }

def isPeerHandled (s : PropagationStore) (transientId : Hash32)
    (peerId : Hash16) : Bool :=
  (s.handledPeers.lookup transientId).any fun peers =>
    decide (peerId ∈ peers)

def isPeerUnhandled (s : PropagationStore) (transientId : Hash32)
    (peerId : Hash16) : Bool :=
  (s.unhandledPeers.lookup transientId).any fun peers =>
    decide (peerId ∈ peers)

/-- The ids whose peer set, in `sets`, has this peer. -/
def messagesForPeer (sets : HashMap Hash32 (Finset Hash16))
    (peerId : Hash16) : List Hash32 :=
  (sets.entries.filter fun e => decide (peerId ∈ e.2)).map (·.1)

/-- The messages that a peer has. -/
def handledMessagesForPeer (s : PropagationStore) (peerId : Hash16) :
    List Hash32 :=
  messagesForPeer s.handledPeers peerId

/-- The messages that a peer is to be offered. -/
def unhandledMessagesForPeer (s : PropagationStore) (peerId : Hash16) :
    List Hash32 :=
  messagesForPeer s.unhandledPeers peerId

end PropagationStore

-- ============================================================= the disk

/-- The storage root: path to bytes. -/
abbrev Disk := HashMap String Bytes

/-- What a node counts. -/
structure NodeStats where
  clientPropagationMessagesReceived : Nat := 0
  clientPropagationMessagesServed : Nat := 0
  unpeeredPropagationIncoming : Nat := 0
  unpeeredPropagationRxBytes : Nat := 0
deriving DecidableEq

/-- `TicketStoreSnapshot`. -/
structure TicketStoreSnapshot where
  outbound : HashMap Hash16 (F64 × Bytes)
  inbound : HashMap Hash16 (HashMap Bytes F64)
  lastDeliveries : HashMap Hash16 F64

/-- The tables as they are written: maps from a hash to what is kept of it.
-/
def ticketsOutboundToValue (outbound : HashMap Hash16 (F64 × Bytes)) :
    Value :=
  .map (outbound.entries.map fun e =>
    (.binary e.1.toList, .array [.f64 e.2.1, .binary e.2.2]))

def ticketsInboundToValue
    (inbound : HashMap Hash16 (HashMap Bytes F64)) : Value :=
  .map (inbound.entries.map fun e =>
    (.binary e.1.toList, .map (e.2.entries.map fun t =>
      (.binary t.1, .array [.f64 t.2]))))

def ticketsLastDeliveriesToValue (lastDeliveries : HashMap Hash16 F64) :
    Value :=
  .map (lastDeliveries.entries.map fun e =>
    (.binary e.1.toList, .f64 e.2))

def stampCostsToValue (entries : HashMap Hash16 (F64 × Nat)) : Value :=
  .map (entries.entries.map fun e =>
    (.binary e.1.toList, .array [.f64 e.2.1, .ofNat e.2.2]))

def transientCacheToValue (cache : HashMap Hash32 F64) : Value :=
  .map (cache.entries.map fun e => (.binary e.1.toList, .f64 e.2))

/-- `clean_transient_cache`. -/
def cleanTransientCache (cache : HashMap Hash32 F64) (nowS : F64) :
    Nat × HashMap Hash32 F64 :=
  let expiry : F64 := .fin (messageExpiry * 6)
  let kept := HashMap.retain cache fun _ ts => nowS.le (ts.add expiry)
  (cache.keys.length - kept.keys.length, kept)

namespace Disk

variable (P : Platform)

/-- A value written to one file; nothing on an encoding error. -/
def saveValue (path : String) (value : Value) (disk : Disk) : Disk :=
  match P.writeValue value with
  | .ok buf => disk.insert path buf
  | .error _ => disk

/-- The file of an entry below the root. -/
def propagationPath (filename : String) : String :=
  "propagation/" ++ filename

/-- `save_propagation_entry`. -/
def savePropagationEntry (entry : PropagationEntry) (disk : Disk) : Disk :=
  disk.insert (propagationPath (entry.filename P)) entry.lxmData

/-- `remove_propagation_entry`: every file of the id goes. -/
def removePropagationEntry (transientId : Hash32) (disk : Disk) : Disk :=
  let start := propagationPath (hexEncode transientId.toList ++ "_")
  (disk.keys.filter fun path => start.toList.isPrefixOf path.toList).foldl
    (fun d path => d.erase path) disk

/-- The file of that name goes. -/
def removePropagationEntryNamed (filename : String) (disk : Disk) : Disk :=
  disk.erase (propagationPath filename)

/-- The file of a peer below the root. -/
def peerPath (id : Hash16) : String :=
  "peers/" ++ String.ofList (base64UrlNoPad id.toList)

def removePeer (id : Hash16) (disk : Disk) : Disk :=
  disk.erase (peerPath id)

/-- A table is written whole, into the file of its name. -/
def saveLocalDeliveries (entries : HashMap Hash32 F64) (disk : Disk) :
    Disk :=
  saveValue P "local_deliveries" (transientCacheToValue entries) disk

def saveLocallyProcessed (entries : HashMap Hash32 F64) (disk : Disk) :
    Disk :=
  saveValue P "locally_processed" (transientCacheToValue entries) disk

def saveAvailableTickets (snapshot : TicketStoreSnapshot) (disk : Disk) :
    Disk :=
  saveValue P "available_tickets"
    (.map
      [(.str "outbound", ticketsOutboundToValue snapshot.outbound),
       (.str "inbound", ticketsInboundToValue snapshot.inbound),
       (.str "last_deliveries",
          ticketsLastDeliveriesToValue snapshot.lastDeliveries)]) disk

def saveOutboundStampCosts (costs : HashMap Hash16 (F64 × Nat))
    (disk : Disk) : Disk :=
  saveValue P "outbound_stamp_costs" (stampCostsToValue costs) disk

end Disk

-- ============================================== the store, op by op

namespace PropagationStore

@[simp] theorem insert_entries (P : Platform) (s : PropagationStore)
    (entry : PropagationEntry) :
    (s.insert P entry).entries
      = s.entries.insert entry.transientId entry := rfl

@[simp] theorem remove_entries (s : PropagationStore) (id : Hash32) :
    (s.remove id).entries = s.entries.erase id := rfl

theorem has_iff {s : PropagationStore} {id : Hash32} :
    s.has id = true ↔ id ∈ s.entries := by
  simp [has]

@[simp] theorem has_insert (P : Platform) (s : PropagationStore)
    (entry : PropagationEntry) (id : Hash32) :
    (s.insert P entry).has id = true
      ↔ id = entry.transientId ∨ s.has id = true := by
  rw [has_iff, has_iff, insert_entries, AList.mem_insert]

@[simp] theorem has_remove (s : PropagationStore) (id t : Hash32) :
    (s.remove id).has t = true ↔ t ≠ id ∧ s.has t = true := by
  rw [has_iff, has_iff, remove_entries, AList.mem_erase]

theorem mem_listIds {s : PropagationStore} {id : Hash32} :
    id ∈ s.listIds ↔ s.has id = true := by
  rw [has_iff]
  exact AList.mem_keys.symm

end PropagationStore

end Lxmf
