/-
The message store that keeps one file a record
(lxmf-rs/src/rns/storage.rs: `FileMessageStore` as a `MessageStore`).

# Records

A queued message is a map of five named fields, one of them the message,
which is a map of its own. A reader goes through the entries of a map in
order: most fields take what the last entry of their name reads as, a
few keep an earlier value when a later one does not read.

# Files

Writing and removing a file succeeds, as does reading one. The order in
which a directory lists its files is the order of the map.
-/
import Lxmf.Restore
import Lxmf.RnsRouter

namespace Lxmf

-- ========================================================= conversions

/-- `rns::value_to_opt_u8`: the cast keeps the low bits. -/
def valueToOptU8 (v : Value) : Option UInt8 :=
  v.asI64.map fun i => UInt8.ofBitVec (BitVec.ofInt 8 i)

/-- `rns::value_to_opt_bool`. -/
def valueToOptBool : Value → Option Bool
  | .boolean b => some b
  | _ => none

/-- What is absent is written as `Nil`, here and in the four below. -/
def optionBytesToValue (value : Option Bytes) : Value :=
  (value.map Value.binary).getD .nil

def optionU32ToValue (value : Option Nat) : Value :=
  (value.map Value.ofNat).getD .nil

def optionU8ToValue (value : Option UInt8) : Value :=
  (value.map fun v => Value.ofNat v.toNat).getD .nil

def optionBoolToValue (value : Option Bool) : Value :=
  (value.map Value.boolean).getD .nil

def optionStringToValue (value : Option String) : Value :=
  (value.map Value.str).getD .nil

/-- `delivery_mode_to_i64`. -/
def deliveryModeToI64 : DeliveryMode → Nat
  | .opportunistic => 0
  | .direct => 1
  | .propagated => 2
  | .paper => 3

/-- `delivery_mode_from_i64`. -/
def deliveryModeFromI64 (value : Int) : Except RnsError DeliveryMode :=
  if value = 0 then .ok .opportunistic
  else if value = 1 then .ok .direct
  else if value = 2 then .ok .propagated
  else if value = 3 then .ok .paper
  else .error (.msgpack "invalid delivery mode")

-- ============================================================= messages

/-- `encode_message`, before it is written: a map of named fields. -/
def encodeMessageValue (message : LXMessage) : Value :=
  .map
    [(.str "dest", .binary message.destinationHash.toList),
     (.str "src", .binary message.sourceHash.toList),
     (.str "timestamp", .f64 message.timestamp),
     (.str "title", .binary message.title),
     (.str "content", .binary message.content),
     (.str "fields", message.fields),
     (.str "stamp", optionBytesToValue message.stamp),
     (.str "stamp_cost", optionU32ToValue message.stampCost),
     (.str "stamp_value", optionU32ToValue message.stampValue),
     (.str "stamp_valid", .boolean message.stampValid),
     (.str "stamp_checked", .boolean message.stampChecked),
     (.str "outbound_ticket", optionBytesToValue message.outboundTicket),
     (.str "include_ticket", .boolean message.includeTicket),
     (.str "defer_stamp", .boolean message.deferStamp),
     (.str "state", .ofNat message.state.toNat),
     (.str "method", optionU8ToValue message.method),
     (.str "representation", .ofNat message.representation.toNat),
     (.str "transport_encrypted",
        optionBoolToValue message.transportEncrypted),
     (.str "transport_encryption",
        optionStringToValue message.transportEncryption),
     (.str "signature",
        optionBytesToValue (message.signature.map (·.toList))),
     (.str "message_id",
        optionBytesToValue (message.messageId.map (·.toList)))]

/-- `decode_message`, on the value read. Of a name that is there twice the
last entry counts; what does not read has its default, except the two
hashes. -/
def decodeMessageValue (value : Value) : Except RnsError LXMessage :=
  match value with
  | .map entries => do
      let field {α : Type} (key : String) (read : Value → Option α) :
          Option α :=
        assignedField entries key read
      let dest ← orMsgpack "missing dest"
        (field "dest" (valueToFixedBytes destinationLength))
      let src ← orMsgpack "missing src"
        (field "src" (valueToFixedBytes destinationLength))
      let message := LXMessage.new dest src
      return { message with
        timestamp := (field "timestamp" valueToF64).getD (.fin 0)
        title := (field "title" valueToBytes).getD []
        content := (field "content" valueToBytes).getD []
        fields := (field "fields" some).getD (.map [])
        stamp := field "stamp" valueToBytes
        stampCost := field "stamp_cost" valueToOptU32
        stampValue := field "stamp_value" valueToOptU32
        stampValid := (field "stamp_valid" valueToOptBool).getD false
        stampChecked := (field "stamp_checked" valueToOptBool).getD false
        outboundTicket := field "outbound_ticket" valueToBytes
        includeTicket := (field "include_ticket" valueToOptBool).getD false
        deferStamp := (field "defer_stamp" valueToOptBool).getD false
        state := (field "state" valueToOptU8).getD message.state
        method := field "method" valueToOptU8
        representation := (field "representation" valueToOptU8).getD
          message.representation
        transportEncrypted := field "transport_encrypted" valueToOptBool
        transportEncryption :=
          field "transport_encryption" valueToOptString
        signature := field "signature" (valueToFixedBytes signatureLength)
        messageId := field "message_id" (valueToFixedBytes hashLength) }
  | _ => throw (.msgpack "expected message map")

-- ============================================================== records

/-- `v as u64` of an `i64`. -/
def i64AsU64 (v : Int) : Nat := (BitVec.ofInt 64 v).toNat

/-- `v as u32` of an `i64`. -/
def i64AsU32 (v : Int) : Nat := (BitVec.ofInt 32 v).toNat

/-- `encode_outbound`, before it is written. -/
def encodeOutboundValue (item : QueuedMessage) : Value :=
  .map
    [(.str "id", .ofNat item.id),
     (.str "mode", .ofNat (deliveryModeToI64 item.mode)),
     (.str "attempts", .ofNat item.attempts),
     (.str "next_attempt_ms", .ofNat item.nextAttemptAtMs),
     (.str "message", encodeMessageValue item.message)]

/-- `decode_outbound` on the value read: a mode that is none ends the
loop, and so comes before every missing field. -/
def decodeOutboundValue (value : Value) : Except RnsError QueuedMessage :=
  match value with
  | .map entries => do
      let modes ← ((fieldValues entries "mode").filterMap Value.asI64).mapM
        deliveryModeFromI64
      let id ← orMsgpack "missing id"
        (readableField entries "id" Value.asI64)
      let mode ← orMsgpack "missing mode" modes.getLast?
      let attempts ← orMsgpack "missing attempts"
        (readableField entries "attempts" Value.asI64)
      let nextAttemptMs ← orMsgpack "missing next_attempt_ms"
        (readableField entries "next_attempt_ms" Value.asI64)
      let messageValue ← orMsgpack "missing message"
        (assignedField entries "message" some)
      let message ← decodeMessageValue messageValue
      return {
        id := i64AsU64 id
        message
        mode
        attempts := i64AsU32 attempts
        nextAttemptAtMs := i64AsU64 nextAttemptMs }
  | _ => throw (.msgpack "expected map")

/-- What `save_failed` writes. -/
def encodeFailedValue (item : FailedDelivery) : Value :=
  .map
    [(.str "id", .ofNat item.id),
     (.str "attempts", .ofNat item.attempts),
     (.str "error", .str item.error),
     (.str "message", encodeMessageValue item.message)]

-- =============================================================== files

/-- The file of a queued message. -/
def outboundPath (id : Nat) : String := "outbound/" ++ toString id ++ ".mpk"

/-- The file of a failed delivery. -/
def failedPath (id : Nat) : String := "failed/" ++ toString id ++ ".mpk"

/-- A message without an id is filed under a hash of what it says. -/
def inboundPath (P : Platform) (message : LXMessage) : String :=
  let name :=
    match message.messageId with
    | some id => id.toList
    | none =>
        (fullHash P (message.destinationHash.toList
          ++ message.sourceHash.toList ++ message.title
          ++ message.content)).toList
  "inbound/" ++ String.ofList (base64UrlNoPad name) ++ ".mpk"

/-- `FileMessageStore`. -/
structure FileMessageStore (P : Platform) where
  root : Disk := ∅

namespace FileMessageStore

variable {P : Platform}

/-- `encode_outbound`. -/
def encodeOutbound (P : Platform) (item : QueuedMessage) :
    Except RnsError Bytes :=
  writeRns P (encodeOutboundValue item)

/-- `decode_outbound`. -/
def decodeOutbound (P : Platform) (bytes : Bytes) :
    Except RnsError QueuedMessage := do
  decodeOutboundValue (← readRns P bytes)

/-- `save_outbound`: in place of the record of that id, if there is one. -/
def saveOutbound (item : QueuedMessage) (s : FileMessageStore P) :
    FileMessageStore P :=
  match encodeOutbound P item with
  | .ok data => ⟨s.root.insert (outboundPath item.id) data⟩
  | .error _ => s

/-- `remove_outbound`. -/
def removeOutbound (id : Nat) (s : FileMessageStore P) :
    FileMessageStore P :=
  ⟨s.root.erase (outboundPath id)⟩

/-- `load_outbound`: a file that is no record is skipped. -/
def loadOutbound (s : FileMessageStore P) : List QueuedMessage :=
  s.root.entries.filterMap fun file =>
    if "outbound/".toList.isPrefixOf file.1.toList then
      (decodeOutbound P file.2).toOption
    else none

/-- `save_inbound`. -/
def saveInbound (message : LXMessage) (s : FileMessageStore P) :
    FileMessageStore P :=
  match P.writeValue (encodeMessageValue message) with
  | .ok buf => ⟨s.root.insert (inboundPath P message) buf⟩
  | .error _ => s

/-- `save_failed`. -/
def saveFailed (item : FailedDelivery) (s : FileMessageStore P) :
    FileMessageStore P :=
  match P.writeValue (encodeFailedValue item) with
  | .ok buf => ⟨s.root.insert (failedPath item.id) buf⟩
  | .error _ => s

end FileMessageStore

instance {P : Platform} : MessageStore (FileMessageStore P) where
  saveOutbound := FileMessageStore.saveOutbound
  removeOutbound := FileMessageStore.removeOutbound
  loadOutbound := FileMessageStore.loadOutbound
  saveInbound := FileMessageStore.saveInbound
  saveFailed := FileMessageStore.saveFailed

end Lxmf
