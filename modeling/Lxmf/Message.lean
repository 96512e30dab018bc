/-
The LXMF message: its codec, its identity, its stamps and its container
(lxmf-rs/src/message.rs).

# State passing

A method taking `&mut self` and returning a `Result` becomes a function
to a pair: the result and the message afterwards, whether the call
failed or not. `encode_with_signature` and `packed_container` take
`&mut self` without writing through it and return the result alone.

# The proof of work

A stamp is tried against a workblock of `expand_rounds` HKDF outputs.
`generate_stamp` draws until a draw is valid or `max_rounds` draws have
failed; the loop recurses on the draws that are left.
-/
import Lxmf.Platform

namespace Lxmf

/-- `LXMFError`. The foreign errors are carried as their text. -/
inductive LXMFError where
  | invalidLength
  | invalidPayload
  | invalidBytes
  | invalidTimestamp
  | missingSignature
  | msgpackDecode (e : String)
  | msgpackEncode (e : String)
  | io (e : String)
deriving DecidableEq

/-- The `#[error]` texts. -/
def LXMFError.text : LXMFError → String
  | .invalidLength => "invalid LXMF message length"
  | .invalidPayload => "invalid payload structure"
  | .invalidBytes => "invalid bytes field"
  | .invalidTimestamp => "invalid timestamp"
  | .missingSignature => "missing signature"
  | .msgpackDecode e => "msgpack decode error: " ++ e
  | .msgpackEncode e => "msgpack encode error: " ++ e
  | .io e => "io error: " ++ e

/-- A message, with what is known of its stamp and of its delivery. -/
structure LXMessage where
  destinationHash : Hash16
  sourceHash : Hash16
  timestamp : F64
  title : Bytes
  content : Bytes
  fields : Value
  stamp : Option Bytes
  stampCost : Option Nat
  stampValue : Option Nat
  stampValid : Bool
  stampChecked : Bool
  outboundTicket : Option Bytes
  includeTicket : Bool
  deferStamp : Bool
  state : UInt8
  method : Option UInt8
  representation : UInt8
  transportEncrypted : Option Bool
  transportEncryption : Option String
  signature : Option (FixedBytes signatureLength)
  messageId : Option Hash32
deriving DecidableEq

-- ======================================================= constructors

/-- `LXMessage::with_strings`, on the strings' bytes. -/
def LXMessage.withBytes (destinationHash sourceHash : Hash16)
    (timestamp : F64) (title content : Bytes) (fields : Value) :
    LXMessage where
  destinationHash := destinationHash
  sourceHash := sourceHash
  timestamp := timestamp
  title := title
  content := content
  fields := fields
  stamp := none
  stampCost := none
  stampValue := none
  stampValid := false
  stampChecked := false
  outboundTicket := none
  includeTicket := false
  deferStamp := true
  state := stateGenerating
  method := none
  representation := reprUnknown
  transportEncrypted := none
  transportEncryption := none
  signature := none
  messageId := none

/-- `LXMessage::with_strings`. -/
def LXMessage.withStrings (destinationHash sourceHash : Hash16)
    (timestamp : F64) (title content : String) (fields : Value) :
    LXMessage :=
  .withBytes destinationHash sourceHash timestamp (strBytes title)
    (strBytes content) fields

/-- `LXMessage::new`. -/
def LXMessage.new (destinationHash sourceHash : Hash16) : LXMessage :=
  .withBytes destinationHash sourceHash (.fin 0) [] [] (.map [])

-- ============================================= the codec's conversions

/-- `message::value_to_bytes`: a UTF-8 string counts as bytes. -/
def Value.toMessageBytes : Value → Except LXMFError Bytes
  | .binary data => .ok data
  | .string s =>
      match s.asStr with
      | some v => .ok (strBytes v)
      | none => .error .invalidBytes
  | _ => .error .invalidBytes

/-- `message::value_to_f64`. -/
def Value.toMessageF64 : Value → Except LXMFError F64
  | .f64 v => .ok v
  | .f32 v => .ok v
  | .integer i =>
      match i.asI64 with
      | some v => .ok (F64.ofI64 v)
      | none => .error .invalidTimestamp
  | _ => .error .invalidTimestamp

-- ===================================================== hashes, payload

section Hashes

variable (P : Platform)

/-- `write_value` with its error lifted into `LXMFError`. -/
def writeMsgpack (v : Value) : Except LXMFError Bytes :=
  (P.writeValue v).mapError .msgpackEncode

/-- `read_value` with its error lifted into `LXMFError`. -/
def readMsgpack (b : Bytes) : Except LXMFError Value :=
  (P.readValue b).mapError .msgpackDecode

/-- A payload is a list. -/
def packPayloadValues (values : List Value) : Except LXMFError Bytes :=
  writeMsgpack P (.array values)

/-- The bytes `compute_message_id` feeds the hasher. -/
def messageIdPreimage (destinationHash sourceHash : Hash16)
    (packedPayload : Bytes) : Bytes :=
  destinationHash.toList ++ sourceHash.toList ++ packedPayload

/-- The id of a message is that of its payload without a stamp. -/
def computeMessageId (destinationHash sourceHash : Hash16)
    (packedPayload : Bytes) : Hash32 :=
  P.sha256 (messageIdPreimage destinationHash sourceHash packedPayload)

/-- The hash of ids and workblocks. -/
def fullHash (data : Bytes) : Hash32 := P.sha256 data

/-- As long as a ticket. -/
def truncatedHash (data : Bytes) : FixedBytes ticketLength :=
  ⟨(fullHash P data).toList.take ticketLength, by
    simp [ticketLength, hashLength]⟩

/-- The id is signed along with what it is made of. -/
def buildSignedPart (destinationHash sourceHash : Hash16)
    (packedPayload : Bytes) (messageId : Hash32) : Bytes :=
  destinationHash.toList ++ sourceHash.toList ++ packedPayload
    ++ messageId.toList

/-- The stamp comes last, and is no part of what is signed. -/
def LXMessage.packPayload (m : LXMessage) (includeStamp : Bool) :
    Except LXMFError Bytes :=
  let values : List Value :=
    [.f64 m.timestamp, .binary m.title, .binary m.content, m.fields]
  let stamp : List Value :=
    match includeStamp, m.stamp with
    | true, some stamp => [.binary stamp]
    | _, _ => []
  packPayloadValues P (values ++ stamp)

-- ============================================================= stamps

/-- The counter of a workblock. -/
def packU64Msgpack (value : Nat) : Except LXMFError Bytes :=
  writeMsgpack P (.integer (Integer.ofU64 value))

/-- Each round adds a block that is derived under a salt of its own. -/
def stampWorkblock (material : Bytes) (expandRounds : Nat) :
    Except LXMFError Bytes :=
  (List.range expandRounds).foldlM (fun workblock n => do
    let counter ← packU64Msgpack P n
    let salt := fullHash P (material ++ counter)
    match P.hkdf salt.toList material with
    | some out => pure (workblock ++ out.toList)
    | none => throw .invalidPayload) []

/-- `u8::leading_zeros` of a non-zero byte. -/
def leadingZeros (b : UInt8) : Nat := 7 - b.toNat.log2

/-- The counting loop of `stamp_value`. -/
def countZeroBits : Bytes → Nat
  | [] => 0
  | b :: rest =>
      if b = 0 then 8 + countZeroBits rest else leadingZeros b

/-- The bits that are zero at the start of the hash. -/
def stampValue (workblock stamp : Bytes) : Nat :=
  countZeroBits (fullHash P (workblock ++ stamp)).toList

/-- The comparison loop of `stamp_valid`. -/
def atMostTarget : Bytes → Bytes → Bool
  | h :: hs, t :: ts =>
      if h < t then true
      else if t < h then false
      else atMostTarget hs ts
  | _, _ => true

/-- The 32-byte target with the single bit `shift` set. -/
def stampTarget (shift : Nat) : Bytes :=
  (List.replicate hashLength (0 : UInt8)).set
    ((hashLength - 1) - shift / 8) (UInt8.ofNat (2 ^ (shift % 8)))

/-- Without a cost every stamp is valid, and none at a cost over 256. -/
def stampValid (workblock stamp : Bytes) (targetCost : Nat) : Bool :=
  if targetCost = 0 then true
  else if 256 < targetCost then false
  else
    let hash := fullHash P (workblock ++ stamp)
    let shift := 256 - targetCost
    if 256 ≤ shift then true
    else atMostTarget hash.toList (stampTarget shift)

/-- `max_rounds` of `generate_stamp`. -/
def maxRounds (stampCost : Nat) : Nat :=
  if stampCost ≤ 15 then u32Max
  else if stampCost ≤ 20 then 10000000
  else 1000000

/-- The drawing loop of `generate_stamp`: draw number `k`, with `left`
draws to go. -/
def generateStampLoop (rng : OsRng) (workblock : Bytes)
    (stampCost k : Nat) : Nat → Option (FixedBytes stampSize) × Nat
  | 0 => (none, 0)
  | left + 1 =>
      let stamp := rng.fillBytes stampSize k
      if stampValid P workblock stamp.toList stampCost then
        (some stamp, stampValue P workblock stamp.toList)
      else generateStampLoop rng workblock stampCost (k + 1) left

/-- The first valid one that is drawn, in a number of rounds that depends
on the cost. -/
def generateStamp (rng : OsRng) (messageId : Hash32)
    (stampCost expandRounds : Nat) :
    Option (FixedBytes stampSize) × Nat :=
  match stampWorkblock P messageId.toList expandRounds with
  | .error _ => (none, 0)
  | .ok workblock =>
      generateStampLoop P rng workblock stampCost 0 (maxRounds stampCost)

/-- A key is a stamp on two identities. -/
def validatePeeringKey (peeringId peeringKey : Bytes) (targetCost : Nat) :
    Bool :=
  match stampWorkblock P peeringId workblockExpandRoundsPeering with
  | .error _ => false
  | .ok workblock => stampValid P workblock peeringKey targetCost

/-- It is drawn like a stamp. -/
def generatePeeringKey (rng : OsRng) (peeringId : Hash32)
    (targetCost : Nat) : Option Bytes :=
  (generateStamp P rng peeringId targetCost
    workblockExpandRoundsPeering).1.map (·.toList)

/-- `validate_pn_stamp`: the transient id, the data without its stamp,
the stamp's value and the stamp. -/
def validatePnStamp (transientData : Bytes) (targetCost : Nat) :
    Option (Hash32 × Bytes × Nat × Bytes) :=
  if transientData.length ≤ lxmfOverhead + stampSize then none
  else
    let splitAt := transientData.length - stampSize
    let lxmData := transientData.take splitAt
    let stamp := transientData.drop splitAt
    let transientId := fullHash P lxmData
    match stampWorkblock P transientId.toList workblockExpandRoundsPn with
    | .error _ => none
    | .ok workblock =>
        if stampValid P workblock stamp targetCost then
          some (transientId, lxmData, stampValue P workblock stamp, stamp)
        else none

end Hashes

-- ============================================================ encoding

section Codec

variable (P : Platform)

namespace LXMessage

/-- The stamp a ticket stands for. -/
def ticketStamp (ticket : Bytes) (messageId : Hash32) :
    FixedBytes ticketLength :=
  truncatedHash P (ticket ++ messageId.toList)

/-- The message with a stamp in place, as `ensure_stamp` leaves it. -/
def setStamp (m : LXMessage) (stamp : Bytes) (value : Nat) : LXMessage :=
  { m with
    stamp := some stamp
    stampValue := some value
    stampValid := true
    stampChecked := true }

/-- The second half of `ensure_stamp`: no ticket of the right length, so
a stamp is drawn if a cost is set. -/
def ensureDrawnStamp (m : LXMessage) (rng : OsRng) (messageId : Hash32) :
    LXMessage :=
  match m.stampCost with
  | some cost =>
      match generateStamp P rng messageId cost workblockExpandRounds with
      | (some stamp, value) => m.setStamp stamp.toList value
      | (none, _) => m
  | none => m

/-- A stamp that is there stays as it is. -/
def ensureStamp (m : LXMessage) (rng : OsRng) :
    Except LXMFError Unit × LXMessage :=
  if m.stamp.isSome then (.ok (), m)
  else
    match m.messageId with
    | none => (.error .missingSignature, m)
    | some messageId =>
        match m.outboundTicket with
        | some ticket =>
            if ticket.length = ticketLength then
              (.ok (), m.setStamp (ticketStamp P ticket messageId).toList
                costTicket)
            else (.ok (), m.ensureDrawnStamp P rng messageId)
        | none => (.ok (), m.ensureDrawnStamp P rng messageId)

/-- The stamping step of `encode_signed`, skipped while deferred. -/
def ensureStampUnlessDeferred (m : LXMessage) (rng : OsRng) :
    Except LXMFError Unit × LXMessage :=
  if !m.deferStamp then m.ensureStamp P rng else (.ok (), m)

/-- The message as it is sent. -/
def encodeWithSignature (m : LXMessage) : Except LXMFError Bytes := do
  let some signature := m.signature
    | throw .missingSignature
  let payloadWithStamp ← m.packPayload P m.stamp.isSome
  return m.destinationHash.toList ++ m.sourceHash.toList
    ++ signature.toList ++ payloadWithStamp

/-- The stamp is made of the id and before the signature, which does not
cover it. -/
def encodeSigned (m : LXMessage) (signingKey : FixedBytes 32)
    (rng : OsRng) : Except LXMFError Bytes × LXMessage :=
  match m.packPayload P false with
  | .error e => (.error e, m)
  | .ok payloadWithoutStamp =>
      let messageId := computeMessageId P m.destinationHash m.sourceHash
        payloadWithoutStamp
      let signedPart := buildSignedPart m.destinationHash m.sourceHash
        payloadWithoutStamp messageId
      let m := { m with messageId := some messageId }
      match m.ensureStampUnlessDeferred P rng with
      | (.error e, m) => (.error e, m)
      | (.ok _, m) =>
          let m := { m with signature := some (P.sign signingKey signedPart) }
          (m.encodeWithSignature P, m)

-- ============================================================ decoding

/-- The fifth element of the payload array, when there is one. -/
def decodeStamp : List Value → Except LXMFError (Option Bytes)
  | v4 :: _ => v4.toMessageBytes.map some
  | [] => .ok none

/-- The payload array of `decode`, with its conversions. -/
def decodePayload (destinationHash sourceHash : Hash16)
    (signature : FixedBytes signatureLength) (payloadArray : List Value) :
    Except LXMFError LXMessage :=
  match payloadArray with
  | v0 :: v1 :: v2 :: fields :: rest => do
      let timestamp ← v0.toMessageF64
      let title ← v1.toMessageBytes
      let content ← v2.toMessageBytes
      let stamp ← decodeStamp rest
      let payloadWithoutStamp ← packPayloadValues P [v0, v1, v2, fields]
      let messageId := computeMessageId P destinationHash sourceHash
        payloadWithoutStamp
      return { LXMessage.withBytes destinationHash sourceHash timestamp
                title content fields with
              stamp := stamp
              signature := some signature
              messageId := some messageId }
  | _ => throw .invalidPayload

/-- The signature is not checked. -/
def decode (bytes : Bytes) : Except LXMFError LXMessage := do
  let minLen := destinationLength * 2 + signatureLength + 1
  if bytes.length < minLen then
    throw .invalidLength
  let some destinationHash :=
      toFixed destinationLength (bytes.take destinationLength)
    | throw .invalidLength
  let some sourceHash := toFixed destinationLength
      ((bytes.drop destinationLength).take destinationLength)
    | throw .invalidLength
  let some signature := toFixed signatureLength
      ((bytes.drop (destinationLength * 2)).take signatureLength)
    | throw .invalidLength
  let packedPayload := bytes.drop (destinationLength * 2 + signatureLength)
  match ← readMsgpack P packedPayload with
  | .array payloadArray =>
      decodePayload P destinationHash sourceHash signature payloadArray
  | _ => throw .invalidPayload

/-- The identity `verify` and `validate_stamp` rebuild from the fields. -/
def recomputedId (m : LXMessage) : Except LXMFError Hash32 := do
  let payloadWithoutStamp ← m.packPayload P false
  return computeMessageId P m.destinationHash m.sourceHash
    payloadWithoutStamp

/-- The payload is packed again, so that it is the fields that are verified
and not the bytes that came. -/
def verify (m : LXMessage) (verifyingKey : FixedBytes 32) :
    Except LXMFError Bool := do
  let some signature := m.signature
    | throw .missingSignature
  let payloadWithoutStamp ← m.packPayload P false
  let messageId := computeMessageId P m.destinationHash m.sourceHash
    payloadWithoutStamp
  let signedPart := buildSignedPart m.destinationHash m.sourceHash
    payloadWithoutStamp messageId
  return P.verify verifyingKey signedPart signature

-- ==================================================== stamp validation

/-- The ticket branch of `validate_stamp`. -/
def ticketMatches (ticket : Option Bytes) (stamp : Bytes)
    (messageId : Hash32) : Bool :=
  match ticket with
  | some ticket =>
      decide (ticket.length = ticketLength)
        && decide (stamp.length = ticketLength)
        && decide ((ticketStamp P ticket messageId).toList = stamp)
  | none => false

/-- The end of `validate_stamp` on a stamp that passed. -/
def acceptStamp (m : LXMessage) (value : Nat) :
    Except LXMFError Bool × LXMessage :=
  (.ok true, { m with stampValue := some value, stampValid := true })

/-- The end of `validate_stamp` on a stamp that did not. -/
def rejectStamp (m : LXMessage) : Except LXMFError Bool × LXMessage :=
  (.ok false, { m with stampValid := false })

/-- The proof-of-work branch of `validate_stamp`. -/
def validateDrawnStamp (m : LXMessage) (stampCost : Option Nat)
    (stamp : Bytes) (messageId : Hash32) :
    Except LXMFError Bool × LXMessage :=
  match stampCost with
  | some cost =>
      match stampWorkblock P messageId.toList workblockExpandRounds with
      | .error e => (.error e, m)
      | .ok workblock =>
          if Lxmf.stampValid P workblock stamp cost then
            m.acceptStamp (Lxmf.stampValue P workblock stamp)
          else m.rejectStamp
  | none => m.rejectStamp

/-- The message keeps what was found. -/
def validateStamp (m : LXMessage) (stampCost : Option Nat)
    (ticket : Option Bytes) : Except LXMFError Bool × LXMessage :=
  let m := { m with stampChecked := true }
  match m.stamp with
  | none => m.rejectStamp
  | some stamp =>
      match m.recomputedId P with
      | .error e => (.error e, m)
      | .ok messageId =>
          let m := { m with messageId := some messageId }
          if ticketMatches P ticket stamp messageId then
            m.acceptStamp costTicket
          else m.validateDrawnStamp P stampCost stamp messageId

-- ================================================ propagation and paper

/-- The address is not encrypted. -/
def paperPackedFromEncrypted (m : LXMessage) (encryptedPayload : Bytes) :
    Bytes :=
  m.destinationHash.toList ++ encryptedPayload

/-- One message, in a list with the time. -/
def propagationPackedFromEncrypted (m : LXMessage)
    (encryptedPayload : Bytes) (timestamp : F64)
    (propagationStamp : Option Bytes) : Except LXMFError Bytes :=
  let lxmData := m.destinationHash.toList ++ encryptedPayload
    ++ propagationStamp.getD []
  writeMsgpack P (.array [.f64 timestamp, .array [.binary lxmData]])

/-- The id by which propagation nodes know the message; the stamp is no
part of it. -/
def transientIdFromEncrypted (m : LXMessage) (encryptedPayload : Bytes) :
    Hash32 :=
  fullHash P (m.destinationHash.toList ++ encryptedPayload)

/-- A stamp on the transient id. -/
def generatePropagationStamp (m : LXMessage) (rng : OsRng)
    (encryptedPayload : Bytes) (targetCost : Nat) :
    Except LXMFError (Hash32 × FixedBytes stampSize × Nat) :=
  let transientId := m.transientIdFromEncrypted P encryptedPayload
  match generateStamp P rng transientId targetCost
      workblockExpandRoundsPn with
  | (some stamp, value) => .ok (transientId, stamp, value)
  | (none, _) => .error .invalidPayload

-- =========================================================== container

/-- The entries `packed_container` writes. -/
def containerEntries (m : LXMessage) (lxmfBytes : Bytes) :
    List (Value × Value) :=
  [(.str "lxmf_bytes", .binary lxmfBytes),
   (.str "state", .integer (Integer.ofU8 m.state))]
  ++ (m.method.map fun method =>
        (Value.str "method", Value.integer (Integer.ofU8 method))).toList
  ++ (m.transportEncrypted.map fun flag =>
        (Value.str "transport_encrypted", Value.boolean flag)).toList
  ++ (m.transportEncryption.map fun enc =>
        (Value.str "transport_encryption", Value.str enc)).toList

/-- The form of a message in a file. -/
def packedContainer (m : LXMessage) : Except LXMFError Bytes := do
  let lxmfBytes ← m.encodeWithSignature P
  writeMsgpack P (.map (m.containerEntries lxmfBytes))

/-- The locals of `unpack_from_container`'s loop. -/
structure Container where
  lxmfBytes : Option Bytes := none
  state : Option UInt8 := none
  method : Option UInt8 := none
  transportEncrypted : Option Bool := none
  transportEncryption : Option String := none

/-- `i.as_u64().and_then(|v| u8::try_from(v).ok())`. -/
def integerToU8 (i : Integer) : Option UInt8 := do
  let v ← i.asU64
  if v < 256 then some (UInt8.ofNat v) else none

/-- One turn of the loop: an unknown key, or a known key with a value of
another type, leaves the locals alone. -/
def Container.read (c : Container) : Value × Value → Container
  | (.string key, val) =>
      match key.asStr, val with
      | some "lxmf_bytes", .binary b => { c with lxmfBytes := some b }
      | some "state", .integer i => { c with state := integerToU8 i }
      | some "method", .integer i => { c with method := integerToU8 i }
      | some "transport_encrypted", .boolean b =>
          { c with transportEncrypted := some b }
      | some "transport_encryption", .string s =>
          { c with transportEncryption := s.asStr }
      | _, _ => c
  | _ => c

/-- Of several entries with one key the last counts. -/
def unpackFromContainer (bytes : Bytes) : Except LXMFError LXMessage := do
  match ← readMsgpack P bytes with
  | .map entries =>
      let c := entries.foldl Container.read {}
      let some lxmfBytes := c.lxmfBytes
        | throw .invalidPayload
      let msg ← decode P lxmfBytes
      return { msg with
        state := c.state.getD stateGenerating
        method := c.method
        transportEncrypted := c.transportEncrypted
        transportEncryption := c.transportEncryption }
  | _ => throw .invalidPayload

end LXMessage

end Codec

end Lxmf
