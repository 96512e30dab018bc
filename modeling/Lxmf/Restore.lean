/-
What is read back from below the storage root
(lxmf-rs/src/rns/storage.rs).

# Reading a directory

`read_dir` yields the files of a directory in no particular order; here
it is the order of the map. Every name in the propagation directory is
text and every file can be read.

# Reading a number

A file name holds a time and a count in decimal. `f64::from_str` takes
the double nearest to what is written, and the names of the values that
are no number; `u32::from_str` takes a sign too.
-/
import Lxmf.Peer

namespace Lxmf

-- ================================================ numbers from their text

namespace F64

/-- The double nearest to `digits / 10 ^ places`, infinite when it is too
large. -/
def ofDecimal (digits : Nat) (places : Int) : F64 :=
  let d := nearest (digits / exp10 places)
  if exp2 1024 ≤ d then .inf false else .fin d

/-- The exponent at the end of a number. -/
def readExponent : List Char → Option Int
  | [] => some 0
  | mark :: rest =>
      if mark = 'e' ∨ mark = 'E' then
        let (negative, digits) :=
          match rest with
          | '-' :: digits => (true, digits)
          | '+' :: digits => (false, digits)
          | digits => (false, digits)
        if digits ≠ [] ∧ digits.all Char.isDigit then
          let n : Int := Nat.ofDigitChars 10 digits 0
          some (if negative then -n else n)
        else none
      else none

/-- The digits after a point, if there is one, and what follows. -/
def splitFraction : List Char → List Char × List Char
  | '.' :: rest =>
      (rest.takeWhile Char.isDigit, rest.dropWhile Char.isDigit)
  | rest => ([], rest)

/-- `parse_number`: digits around at most one point, then an exponent. -/
def readNumber (text : List Char) : Option F64 :=
  let whole := text.takeWhile Char.isDigit
  let (fraction, rest) := splitFraction (text.dropWhile Char.isDigit)
  if whole = [] ∧ fraction = [] then none
  else
    match readExponent rest with
    | some e => some (ofDecimal (Nat.ofDigitChars 10 (whole ++ fraction) 0)
        (fraction.length - e))
    | none => none

/-- `parse_inf_nan`. -/
def readSpecial (text : List Char) : Option F64 :=
  let text := text.map Char.toLower
  if text = "nan".toList then some .nan
  else if text = "inf".toList ∨ text = "infinity".toList then
    some (.inf false)
  else none

def readUnsigned (text : List Char) : Option F64 :=
  match readNumber text with
  | some v => some v
  | none => readSpecial text

/-- `f64::from_str`. -/
def fromStr : List Char → Option F64
  | '-' :: text => (readUnsigned text).map neg
  | '+' :: text => readUnsigned text
  | text => readUnsigned text

end F64

def withoutPlus : List Char → List Char
  | '+' :: digits => digits
  | digits => digits

/-- `u32::from_str`. -/
def u32FromStr (text : List Char) : Option Nat :=
  let digits := withoutPlus text
  if digits ≠ [] ∧ digits.all Char.isDigit then
    let n := Nat.ofDigitChars 10 digits 0
    if n ≤ u32Max then some n else none
  else none

/-- The value of a digit, of either case. -/
def hexValue (c : Char) : Option Nat :=
  if '0' ≤ c ∧ c ≤ '9' then some (c.toNat - '0'.toNat)
  else if 'a' ≤ c ∧ c ≤ 'f' then some (c.toNat - 'a'.toNat + 10)
  else if 'A' ≤ c ∧ c ≤ 'F' then some (c.toNat - 'A'.toNat + 10)
  else none

/-- `hex::decode`. -/
def hexDecode : List Char → Option Bytes
  | [] => some []
  | [_] => none
  | high :: low :: rest => do
      let high ← hexValue high
      let low ← hexValue low
      let bytes ← hexDecode rest
      return UInt8.ofNat (16 * high + low) :: bytes

-- ============================================= the propagation directory

/-- `str::len`. -/
def strLen (text : List Char) : Nat := (text.map Char.utf8Size).sum

/-- The id at the start of a file name. -/
def parseTransientId (text : List Char) : Option Hash32 :=
  if strLen text = 64 then do
    let bytes ← hexDecode text
    toFixed hashLength bytes
  else none

def parsePropagationEntryFilename (filename : String) :
    Option (Hash32 × F64 × Nat) :=
  match filename.toList.splitOn '_' with
  | [id, time, value] => do
      let transientId ← parseTransientId id
      let timestamp ← F64.fromStr time
      if !timestamp.isFinite || timestamp.le (.fin 0) then none
      else
        let stampValue ← u32FromStr value
        return (transientId, timestamp, stampValue)
  | _ => none

namespace Disk

variable (P : Platform)

/-- The body of the loop of `load_propagation_store`: the entry of one
file and its stamp value, if the name and the data agree. -/
def loadPropagationEntry (filename : String) (data : Bytes) :
    Option (PropagationEntry × Nat) :=
  match parsePropagationEntryFilename filename with
  | none => none
  | some (transientId, timestamp, stampValue) =>
      let computed :=
        match validatePnStamp P data 0 with
        | some (_, _, value, _) => value
        | none => 0
      if computed = stampValue then
        some ({
          transientId
          lxmData := data
          timestamp
          destinationHash := destinationPrefix data
          filepath := some filename
          msgSize := some data.length }, stampValue)
      else none

/-- The files of the propagation directory. -/
def propagationFiles (disk : Disk) : List (String × Bytes) :=
  disk.entries.filterMap fun file =>
    if (propagationPath "").toList.isPrefixOf file.1.toList then
      some (String.ofList (file.1.toList.drop
        (propagationPath "").toList.length), file.2)
    else none

/-- One turn of the loop: a file that makes no entry is deleted. -/
def loadPropagationFile (acc : PropagationStore × Disk)
    (file : String × Bytes) : PropagationStore × Disk :=
  match loadPropagationEntry P file.1 file.2 with
  | some (entry, stampValue) =>
      (acc.1.insertWithStampValueAndFilename entry stampValue file.1, acc.2)
  | none => (acc.1, removePropagationEntryNamed file.1 acc.2)

def loadPropagationStore (disk : Disk) : PropagationStore × Disk :=
  disk.propagationFiles.foldl (loadPropagationFile P) (.new, disk)

end Disk

-- ======================================================= maps from values

/-- The entries of a map; a value that is no map has none. -/
def mapEntries : Value → List (Value × Value)
  | .map entries => entries
  | _ => []

/-- The values under a string key, in order. -/
def fieldValues (entries : List (Value × Value)) (key : String) :
    List Value :=
  (entries.filter fun e => valueToOptString e.1 == some key).map (·.2)

/-- A field every entry assigns: the last one decides. -/
def assignedField {α : Type} (entries : List (Value × Value))
    (key : String) (read : Value → Option α) : Option α :=
  (fieldValues entries key).getLast?.bind read

/-- A field only a readable entry assigns. -/
def readableField {α : Type} (entries : List (Value × Value))
    (key : String) (read : Value → Option α) : Option α :=
  ((fieldValues entries key).filterMap read).getLast?

/-- The loop that reads a map: an entry that does not read is skipped. -/
def readEntries {K V : Type} [DecidableEq K]
    (read : Value × Value → Option (K × V))
    (entries : List (Value × Value)) : HashMap K V :=
  (entries.filterMap read).foldl (fun m e => m.insert e.1 e.2) ∅

/-- `rns::value_to_opt_u32`: the cast keeps the low bits. -/
def valueToOptU32 (v : Value) : Option Nat :=
  v.asI64.map fun i => (BitVec.ofInt 32 i).toNat

def valueToF64Seconds (value : Value) : Option F64 :=
  match value.asI64 with
  | some v => if 0 ≤ v then some (F64.ofI64 v) else none
  | none => do
      let v ← valueToF64 value
      if v.lt (.fin 0) then none else return v

def ticketsOutboundFromValue (value : Value) :
    HashMap Hash16 (F64 × Bytes) :=
  readEntries (fun e => do
    let dest ← valueToFixedBytes destinationLength e.1
    match e.2 with
    | .array (expires :: .binary ticket :: _) =>
        let expiresAt ← valueToF64Seconds expires
        return (dest, expiresAt, ticket)
    | _ => none) (mapEntries value)

/-- One ticket of `tickets_inbound_from_value`: its expiry alone, or first
in an array. -/
def readInboundTicket (e : Value × Value) : Option (Bytes × F64) := do
  let ticket ← valueToBytes e.1
  let expiresAt ←
    match e.2 with
    | .array (expires :: _) => valueToF64Seconds expires
    | expires => valueToF64Seconds expires
  return (ticket, expiresAt)

def ticketsInboundFromValue (value : Value) :
    HashMap Hash16 (HashMap Bytes F64) :=
  readEntries (fun e => do
    let dest ← valueToFixedBytes destinationLength e.1
    match e.2 with
    | .map tickets => return (dest, readEntries readInboundTicket tickets)
    | _ => none) (mapEntries value)

def ticketsLastDeliveriesFromValue (value : Value) : HashMap Hash16 F64 :=
  readEntries (fun e => do
    let dest ← valueToFixedBytes destinationLength e.1
    let ts ← valueToF64Seconds e.2
    return (dest, ts)) (mapEntries value)

def stampCostsFromValue (value : Value) : HashMap Hash16 (F64 × Nat) :=
  readEntries (fun e => do
    let dest ← valueToFixedBytes destinationLength e.1
    match e.2 with
    | .array (updated :: cost :: _) =>
        let updatedAt ← valueToF64Seconds updated
        let cost ← valueToOptU32 cost
        return (dest, updatedAt, cost)
    | _ => none) (mapEntries value)

/-- `transient_cache_from_value`: only positive times are kept. -/
def transientCacheFromValue (value : Value) : HashMap Hash32 F64 :=
  readEntries (fun e => do
    let id ← valueToFixedBytes hashLength e.1
    let timestamp := (valueToF64 e.2).getD (.fin 0)
    if (F64.fin 0).lt timestamp then return (id, timestamp) else none)
    (mapEntries value)

def peerStateFromU8 : Nat → Option PeerState
  | 0 => some .idle
  | 1 => some .offerSent
  | 2 => some .awaitingPayload
  | 3 => some .backoff
  | _ => none

/-- The state under `state`: the last integer decides. -/
def readPeerState (entries : List (Value × Value)) : Option PeerState :=
  (readableField entries "state" fun
    | .integer i => some i
    | _ => none).bind fun i => i.asU64.bind peerStateFromU8

def peerFromValue (value : Value) : Except RnsError Peer :=
  match value with
  | .map entries => do
      let id ← orMsgpack "peer missing id"
        (readableField entries "id" (valueToFixedBytes destinationLength))
      let count (key : String) : Nat :=
        (assignedField entries key valueToOptU64).getD 0
      let failures := (assignedField entries "failures" valueToOptU64).bind
        fun v => if v ≤ u32Max then some v else none
      return { Peer.new id 0 with
        state := (readPeerState entries).getD .idle
        lastSyncMs := count "last_sync_ms"
        lastAttemptMs := count "last_attempt_ms"
        nextSyncMs := count "next_sync_ms"
        backoffMs := count "backoff_ms"
        failures := failures.getD 0
        lastHeardMs := count "last_heard_ms"
        rxBytes := count "rx_bytes"
        txBytes := count "tx_bytes"
        messagesOffered := count "messages_offered"
        messagesOutgoing := count "messages_outgoing"
        messagesIncoming := count "messages_incoming"
        messagesUnhandled := count "messages_unhandled"
        peeringKey := assignedField entries "peering_key" valueToBytes }
  | _ => throw (.msgpack "peer must be map")

def PeerState.toNat : PeerState → Nat
  | .idle => 0
  | .offerSent => 1
  | .awaitingPayload => 2
  | .backoff => 3

/-- The record `save_peer` writes. -/
def Peer.toValue (peer : Peer) : Value :=
  .map
    [(.str "id", .binary peer.id.toList),
     (.str "state", .ofNat peer.state.toNat),
     (.str "last_sync_ms", .ofNat peer.lastSyncMs),
     (.str "last_attempt_ms", .ofNat peer.lastAttemptMs),
     (.str "next_sync_ms", .ofNat peer.nextSyncMs),
     (.str "backoff_ms", .ofNat peer.backoffMs),
     (.str "failures", .ofNat peer.failures),
     (.str "last_heard_ms", .ofNat peer.lastHeardMs),
     (.str "rx_bytes", .ofNat peer.rxBytes),
     (.str "tx_bytes", .ofNat peer.txBytes),
     (.str "messages_offered", .ofNat peer.messagesOffered),
     (.str "messages_outgoing", .ofNat peer.messagesOutgoing),
     (.str "messages_incoming", .ofNat peer.messagesIncoming),
     (.str "messages_unhandled", .ofNat peer.messagesUnhandled),
     (.str "peering_key",
        match peer.peeringKey with
        | some key => .binary key
        | none => .nil)]

-- ========================================================= the other files

namespace Disk

variable (P : Platform)

/-- The value in a file, if there is one. -/
def loadValue (path : String) (disk : Disk) : Option Value := do
  let data ← disk.lookup path
  (P.readValue data).toOption

def savePeer (peer : Peer) (disk : Disk) : Disk :=
  saveValue P (peerPath peer.id) peer.toValue disk

/-- `load_peers`: a file that is no peer is skipped. -/
def loadPeers (disk : Disk) : PeerTable :=
  (disk.entries.filterMap fun file =>
    if "peers/".toList.isPrefixOf file.1.toList then
      match P.readValue file.2 with
      | .ok value => (peerFromValue value).toOption
      | .error _ => none
    else none).foldl (fun t peer => t.insert peer.id peer) ∅

def loadTransientCache (path : String) (disk : Disk) :
    HashMap Hash32 F64 :=
  ((disk.loadValue P path).map transientCacheFromValue).getD ∅

def loadLocalDeliveries (disk : Disk) : HashMap Hash32 F64 :=
  disk.loadTransientCache P "local_deliveries"

def loadLocallyProcessed (disk : Disk) : HashMap Hash32 F64 :=
  disk.loadTransientCache P "locally_processed"

def loadAvailableTickets (disk : Disk) : TicketStoreSnapshot :=
  let entries := ((disk.loadValue P "available_tickets").map
    mapEntries).getD []
  let table {α : Type} (key : String) (read : Value → α) (empty : α) : α :=
    (assignedField entries key fun v => some (read v)).getD empty
  { outbound := table "outbound" ticketsOutboundFromValue ∅
    inbound := table "inbound" ticketsInboundFromValue ∅
    lastDeliveries :=
      table "last_deliveries" ticketsLastDeliveriesFromValue ∅ }

def loadOutboundStampCosts (disk : Disk) : HashMap Hash16 (F64 × Nat) :=
  ((disk.loadValue P "outbound_stamp_costs").map stampCostsFromValue).getD
    ∅

def loadNodeStats (disk : Disk) : NodeStats :=
  let entries := ((disk.loadValue P "node_stats").map mapEntries).getD []
  let count (key : String) : Nat :=
    (readableField entries key valueToOptU64).getD 0
  { clientPropagationMessagesReceived :=
      count "client_propagation_messages_received"
    clientPropagationMessagesServed :=
      count "client_propagation_messages_served"
    unpeeredPropagationIncoming := count "unpeered_propagation_incoming"
    unpeeredPropagationRxBytes := count "unpeered_propagation_rx_bytes" }

end Disk

end Lxmf
