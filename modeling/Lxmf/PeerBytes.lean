/-
A peer as bytes of its own, beside the record below the storage root
(lxmf-rs/src/rns/peer.rs, to_bytes and from_bytes).

# Two codecs

The storage keeps the state of the synchronisation and leaves out what a
peer announced (`Peer.toValue`). Here it is the other way round: of the
state only the liveness is written, and what may be absent is written
where it is there. The reader takes the first entry under a key.
-/
import Lxmf.FileStore

namespace Lxmf

/-- The closure `get_value` of `from_bytes`. -/
def getValue (dict : List (Value × Value)) (key : String) :
    Option Value :=
  (dict.find? fun e => decide (e.1 = .str key)).map (·.2)

/-- An entry pushed where the field is there. -/
def optionalEntry {α : Type} (key : String) (write : α → Value)
    (field : Option α) : List (Value × Value) :=
  (field.map fun a => (.str key, write a)).toList

namespace Peer

variable (P : Platform)

def metadataToValue (metadata : HashMap String Bytes) : Value :=
  .map (metadata.entries.map fun e => (.str e.1, .binary e.2))

/-- An entry that is not a string with a binary is skipped. -/
def metadataFromValue : Value → Option (HashMap String Bytes)
  | .map entries => some (readEntries (fun e => do
      let key ← valueToOptString e.1
      let bytes ← valueToBytes e.2
      return (key, bytes)) entries)
  | _ => none

/-- The map `to_bytes` writes; the two id lists are always empty. -/
def dict (p : Peer) : List (Value × Value) :=
  [(.str "destination_hash", .binary p.id.toList),
    (.str "peering_timebase", .ofNat p.peeringTimebase),
    (.str "alive", .boolean p.isAlive),
    (.str "last_heard", .ofNat p.lastHeardMs),
    (.str "sync_strategy", .ofNat p.syncStrategy.toNat)]
  ++ optionalEntry "peering_key" .binary p.peeringKey
  ++ optionalEntry "peering_key_value" .ofNat p.peeringKeyValue
  ++ optionalEntry "peering_cost" .ofNat p.peeringCost
  ++ optionalEntry "metadata" metadataToValue p.metadata
  ++ [(.str "link_establishment_rate", .f64 p.linkEstablishmentRate),
    (.str "sync_transfer_rate", .f64 p.syncTransferRate)]
  ++ optionalEntry "propagation_transfer_limit" .f64
    p.propagationTransferLimit
  ++ optionalEntry "propagation_sync_limit" .ofNat p.propagationSyncLimit
  ++ optionalEntry "propagation_stamp_cost" .ofNat p.propagationStampCost
  ++ optionalEntry "propagation_stamp_cost_flexibility" .ofNat
    p.propagationStampCostFlexibility
  ++ [(.str "offered", .ofNat p.messagesOffered),
    (.str "outgoing", .ofNat p.messagesOutgoing),
    (.str "incoming", .ofNat p.messagesIncoming),
    (.str "rx_bytes", .ofNat p.rxBytes),
    (.str "tx_bytes", .ofNat p.txBytes),
    (.str "last_sync_attempt", .ofNat p.lastAttemptMs),
    (.str "handled_ids", .array []),
    (.str "unhandled_ids", .array [])]

def toBytes (p : Peer) : Except RnsError Bytes := writeRns P (.map p.dict)

/-- The body of `from_bytes` once the map is there. -/
def fromDict (dict : List (Value × Value)) (nowMs : Nat) :
    Except RnsError Peer := do
  let hash ← orMsgpack "missing destination_hash"
    (getValue dict "destination_hash")
  let id ← orMsgpack "invalid destination_hash"
    (valueToFixedBytes destinationLength hash)
  let u64 (key : String) : Option Nat :=
    (getValue dict key).bind fun v => v.asI64.map i64AsU64
  let u32 (key : String) : Option Nat :=
    (getValue dict key).bind valueToOptU32
  let rate (key : String) : F64 :=
    ((getValue dict key).bind valueToF64).getD (.fin 0)
  let alive := ((getValue dict "alive").bind valueToOptBool).getD false
  let transferLimit :=
    (getValue dict "propagation_transfer_limit").bind valueToF64
  return { (Peer.new id nowMs).setAlive alive with
    peeringTimebase := (u64 "peering_timebase").getD 0
    lastHeardMs := (u64 "last_heard").getD 0
    syncStrategy :=
      ((getValue dict "sync_strategy").bind valueToOptU8).getD
        defaultSyncStrategy
    linkEstablishmentRate := rate "link_establishment_rate"
    syncTransferRate := rate "sync_transfer_rate"
    propagationTransferLimit := transferLimit
    -- absent or no integer: the transfer limit, cut to a whole number
    propagationSyncLimit := (u64 "propagation_sync_limit").or
      (transferLimit.map F64.toU64)
    propagationStampCost := u32 "propagation_stamp_cost"
    propagationStampCostFlexibility :=
      u32 "propagation_stamp_cost_flexibility"
    peeringCost := u32 "peering_cost"
    peeringKey := (getValue dict "peering_key").bind valueToBytes
    peeringKeyValue := u32 "peering_key_value"
    metadata := (getValue dict "metadata").bind metadataFromValue
    messagesOffered := (u64 "offered").getD 0
    messagesOutgoing := (u64 "outgoing").getD 0
    messagesIncoming := (u64 "incoming").getD 0
    rxBytes := (u64 "rx_bytes").getD 0
    txBytes := (u64 "tx_bytes").getD 0
    lastAttemptMs := (u64 "last_sync_attempt").getD 0 }

def fromBytes (bytes : Bytes) (nowMs : Nat) : Except RnsError Peer := do
  match ← readRns P bytes with
  | .map dict => fromDict dict nowMs
  | _ => throw (.msgpack "peer data must be a map")

end Peer

end Lxmf
