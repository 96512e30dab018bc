/-
The Python implementation that this one is a port of (LXMF/LXMessage.py,
LXMF/LXStamper.py, LXMF/LXMF.py, LXMF/LXMRouter.py).

# Objects

What `umsgpack` reads or writes is written as a `Value`: `None`, `bool`,
`int`, `float`, `str`, `bytes`, `list` and `dict`. A function that raises
is none.

# What is a parameter

`umsgpack` itself, which is part of RNS, and with it what its functions do
to an object. Hashes, key derivation and signatures are those of the
platform: both implementations use SHA-256, HKDF and Ed25519. `int(..)` of
text is a parameter too. What a search for a stamp finds is an argument of
`pack`.
-/
import Lxmf.Message

namespace Lxmf.Python

/-- `RNS.vendor.umsgpack`. -/
structure Umsgpack where
  packb : Value → Option Bytes
  unpackb : Bytes → Option Value

-- =================================================== what both can hold

/-- A key that is equal to no key of another type. -/
def isKey : Value → Bool
  | .integer _ => true
  | .binary _ => true
  | .string (.valid _) => true
  | _ => false

mutual

/-- A value that is an object of Python as well: no single precision, no
extension, no broken text, and no key twice in a `dict`. -/
def plain : Value → Bool
  | .f32 _ => false
  | .ext _ _ => false
  | .string (.invalid _) => false
  | .array vs => plainList vs
  | .map es => plainPairs es && decide (es.map (·.1)).Nodup
  | _ => true

def plainList : List Value → Bool
  | [] => true
  | v :: vs => plain v && plainList vs

def plainPairs : List (Value × Value) → Bool
  | [] => true
  | (k, v) :: es => isKey k && plain v && plainPairs es

end

/-- Both codecs write MessagePack in its shortest form, so that what both
can hold they write alike, and `umsgpack` reads what `rmpv` wrote. -/
structure Umsgpack.Agrees (P : Platform) (u : Umsgpack) : Prop where
  packb : ∀ v, plain v = true → u.packb v = (P.writeValue v).toOption
  unpackb : ∀ v b, plain v = true → P.writeValue v = .ok b →
    u.unpackb b = some v

-- ============================================================== objects

/-- `x == n`, for a small `n`. -/
def equalsInt : Value → Nat → Bool
  | .integer i, n => decide (i.val = n)
  | .boolean b, n => decide (b.toNat = n)
  | .f64 x, n => decide (x = .fin n)
  | _, _ => false

/-- `len(x)`. -/
def len : Value → Option Nat
  | .array vs => some vs.length
  | .map es => some es.length
  | .binary b => some b.length
  | .string (.valid s) => some s.length
  | _ => none

/-- `x[n]`. -/
def item : Value → Nat → Option Value
  | .array vs, n => vs[n]?
  | .map es, n => (es.find? fun e => equalsInt e.1 n).map (·.2)
  | .binary b, n => b[n]?.map fun x => .integer (.ofU8 x)
  | .string (.valid s), n => s.toList[n]?.map fun c =>
      .str (String.singleton c)
  | _, _ => none

/-- `int.from_bytes(x, byteorder="big")`. -/
def intFromBytes (b : Bytes) : Nat :=
  b.foldl (fun n x => n * 256 + x.toNat) 0

-- =============================================================== stamps

section LXStamper

variable (P : Platform) (u : Umsgpack)

def stampWorkblock (material : Bytes) (expandRounds : Nat) :
    Option Bytes :=
  (List.range expandRounds).foldlM (fun workblock n => do
    let counter ← u.packb (.integer (.ofU64 n))
    let salt := fullHash P (material ++ counter)
    let out ← P.hkdf salt.toList material
    return workblock ++ out.toList) []

/-- The loop of `stamp_value`. The number it shifts has 256 bits, so that
it ends before the 256th time around or never. -/
def stampValueLoop : Nat → Nat → Nat → Option Nat
  | 0, _, _ => none
  | left + 1, i, value =>
      if i.testBit 255 then some value
      else stampValueLoop left (2 * i) (value + 1)

def stampValue (workblock stamp : Bytes) : Option Nat :=
  stampValueLoop 256
    (intFromBytes (fullHash P (workblock ++ stamp)).toList) 0

/-- `stamp_valid`. To shift by a negative number raises. -/
def stampValid (stamp : Bytes) (targetCost : Nat) (workblock : Bytes) :
    Option Bool :=
  if 256 < targetCost then none
  else
    let target := 1 <<< (256 - targetCost)
    let result := fullHash P (workblock ++ stamp)
    some (!decide (target < intFromBytes result.toList))

def validatePeeringKey (peeringId peeringKey : Bytes)
    (targetCost : Nat) : Option Bool := do
  let workblock ← stampWorkblock P u peeringId workblockExpandRoundsPeering
  stampValid P peeringKey targetCost workblock

/-- `validate_pn_stamp`: nothing stands for four times `None`. -/
def validatePnStamp (transientData : Bytes) (targetCost : Nat) :
    Option (Option (Hash32 × Bytes × Nat × Bytes)) :=
  if transientData.length ≤ lxmfOverhead + stampSize then some none
  else do
    let lxmData := transientData.take (transientData.length - stampSize)
    let stamp := transientData.drop (transientData.length - stampSize)
    let transientId := fullHash P lxmData
    let workblock ← stampWorkblock P u transientId.toList
      workblockExpandRoundsPn
    if ← stampValid P stamp targetCost workblock then
      let value ← stampValue P workblock stamp
      return some (transientId, lxmData, value, stamp)
    else return none

end LXStamper

-- ============================================================= messages

/-- `RNS.Identity`, of what is recalled: its verifying key, and the hash of
the destination `lxmf.delivery` that is made of it. -/
structure RecalledIdentity where
  verifyingKey : FixedBytes 32
  deliveryHash : Bytes

/-- `LXMessage`: what `pack` and `unpack_from_bytes` read and set. `None`
is `nil` where other objects can stand. -/
structure LXMessage where
  destinationHash : Bytes
  sourceHash : Bytes
  timestamp : Value
  title : Value
  content : Value
  fields : Value
  signature : Option Bytes
  hash : Option Hash32
  /-- `message_id`, which is no attribute before the first of the two. -/
  messageId : Option Hash32
  packed : Option Bytes
  stamp : Value
  stampCost : Option Nat
  stampValue : Option Nat
  stampValid : Bool
  deferStamp : Bool
  outboundTicket : Value
  incoming : Bool
  signatureValidated : Bool
  unverifiedReason : Option Nat
deriving DecidableEq

namespace LXMessage

abbrev sourceUnknown : Nat := 0x01
abbrev signatureInvalid : Nat := 0x02

/-- `set_fields`: a `dict`, or `None` for an empty one. -/
def setFields : Value → Option Value
  | .map es => some (.map es)
  | .nil => some (.map [])
  | _ => none

def new (destinationHash sourceHash : Bytes) (title content : Value)
    (fields : Value) : Option LXMessage := do
  let fields ← setFields fields
  return {
    destinationHash
    sourceHash
    timestamp := .nil
    title
    content
    fields
    signature := none
    hash := none
    messageId := none
    packed := none
    stamp := .nil
    stampCost := none
    stampValue := none
    stampValid := false
    deferStamp := true
    outboundTicket := .nil
    incoming := false
    signatureValidated := false
    unverifiedReason := none }

variable (P : Platform) (u : Umsgpack)

/-- The ticket that `get_stamp` uses. -/
def usableTicket : Value → Option Bytes
  | .binary ticket =>
      if ticket.length = ticketLength then some ticket else none
  | _ => none

/-- `get_stamp`: the stamp, and the message with what it notes of it. To
ask for the id of a message that has none raises. -/
def getStamp (m : LXMessage)
    (generateStamp : Hash32 → Nat → Option Bytes × Nat) :
    Option (Value × LXMessage) :=
  match usableTicket m.outboundTicket with
  | some ticket => do
      let messageId ← m.messageId
      return (.binary (truncatedHash P (ticket ++ messageId.toList)).toList,
        { m with stampValue := some costTicket })
  | none =>
      match m.stampCost with
      | none => some (.nil, { m with stampValue := none })
      | some cost =>
          if m.stamp ≠ .nil then some (m.stamp, m)
          else do
            match generateStamp (← m.messageId) cost with
            | (some stamp, value) =>
                return (.binary stamp,
                  { m with stampValue := some value, stampValid := true })
            | (none, _) => return (.nil, m)

/-- The stamping step of `pack`. -/
def stampUnlessDeferred (m : LXMessage)
    (generateStamp : Hash32 → Nat → Option Bytes × Nat) :
    Option LXMessage :=
  if m.deferStamp then some m
  else do
    let (stamp, m) ← m.getStamp P generateStamp
    return { m with stamp }

/-- The elements of the payload, with the stamp that is appended. -/
def payload (m : LXMessage) : List Value :=
  [m.timestamp, m.title, m.content, m.fields]
    ++ if m.deferStamp || m.stamp = .nil then [] else [m.stamp]

/-- `pack`, up to the choice of a delivery method. -/
def pack (m : LXMessage) (sign : Bytes → Bytes)
    (generateStamp : Hash32 → Nat → Option Bytes × Nat) (now : F64) :
    Option LXMessage := do
  if m.packed.isSome then failure
  let m := if m.timestamp = .nil then { m with timestamp := .f64 now } else m
  let payload ← u.packb
    (.array [m.timestamp, m.title, m.content, m.fields])
  let hashedPart := m.destinationHash ++ m.sourceHash ++ payload
  let hash := fullHash P hashedPart
  let m := { m with hash := some hash, messageId := some hash }
  let m ← m.stampUnlessDeferred P generateStamp
  let signature := sign (hashedPart ++ hash.toList)
  let packedPayload ← u.packb (.array m.payload)
  return { m with
    signature := some signature
    signatureValidated := true
    packed := some (m.destinationHash ++ m.sourceHash ++ signature
      ++ packedPayload) }

/-- The payload and the stamp that `unpack_from_bytes` reads: a payload of
more than four elements is written again without the rest. -/
def splitPayload (packedPayload : Bytes) (payload : Value) :
    Option (Bytes × Value × Value) := do
  if 4 < (← len payload) then
    match payload with
    | .array vs => do
        let stamp ← vs[4]?
        let packedPayload ← u.packb (.array (vs.take 4))
        return (packedPayload, .array (vs.take 4), stamp)
    | _ => failure
  else return (packedPayload, payload, .nil)

/-- What the signature of a source that is known comes to. -/
def checkSignature (m : LXMessage) (key : Option (FixedBytes 32))
    (signature signedPart : Bytes) : LXMessage :=
  match key with
  | some key =>
      let valid := match toFixed signatureLength signature with
        | some signature => P.verify key signedPart signature
        | none => false
      if valid then { m with signatureValidated := true }
      else { m with
        signatureValidated := false
        unverifiedReason := some signatureInvalid }
  | none => { m with unverifiedReason := some sourceUnknown }

/-- The hash that `__init__` keeps: that of a destination that could be
made, else the bytes. -/
def knownHash (identity : Option RecalledIdentity) (hash : Bytes) :
    Bytes :=
  (identity.map (·.deliveryHash)).getD hash

/-- `unpack_from_bytes`. `identityRecall` is `RNS.Identity.recall`. -/
def unpackFromBytes (identityRecall : Bytes → Option RecalledIdentity)
    (lxmfBytes : Bytes) : Option LXMessage := do
  let destinationHash := lxmfBytes.take destinationLength
  let sourceHash := (lxmfBytes.drop destinationLength).take destinationLength
  let signature :=
    (lxmfBytes.drop (destinationLength * 2)).take signatureLength
  let packedPayload :=
    lxmfBytes.drop (destinationLength * 2 + signatureLength)
  let (packedPayload, payload, stamp) ← splitPayload u packedPayload
    (← u.unpackb packedPayload)
  let hashedPart := destinationHash ++ sourceHash ++ packedPayload
  let messageHash := fullHash P hashedPart
  let timestamp ← item payload 0
  let title ← item payload 1
  let content ← item payload 2
  let fields ← item payload 3
  let source := identityRecall sourceHash
  let m ← new (knownHash (identityRecall destinationHash) destinationHash)
    (knownHash source sourceHash) title content fields
  let m := { m with
    hash := some messageHash
    messageId := some messageHash
    signature := some signature
    stamp
    incoming := true
    timestamp
    packed := some lxmfBytes }
  return m.checkSignature P (source.map (·.verifyingKey)) signature
    (hashedPart ++ messageHash.toList)

/-- The ticket loop of `validate_stamp`, which catches that a message has
no id. -/
def ticketMatches (m : LXMessage) (tickets : List Bytes) : Bool :=
  tickets.any fun ticket => m.messageId.any fun messageId =>
    decide (m.stamp
      = .binary (truncatedHash P (ticket ++ messageId.toList)).toList)

/-- `validate_stamp`. A stamp that is no `bytes` cannot be appended to the
workblock. -/
def validateStamp (m : LXMessage) (targetCost : Nat)
    (tickets : List Bytes) : Option (Bool × LXMessage) :=
  if m.ticketMatches P tickets then
    some (true, { m with stampValue := some costTicket })
  else
    match m.stamp with
    | .nil => some (false, m)
    | .binary stamp => do
        let messageId ← m.messageId
        let workblock ← stampWorkblock P u messageId.toList
          workblockExpandRounds
        if ← Python.stampValid P stamp targetCost workblock then
          let value ← Python.stampValue P workblock stamp
          return (true, { m with stampValue := some value })
        else return (false, m)
    | _ => none

end LXMessage

-- ================================================= propagation and paper

/-- A limit of a router: an `int` by default, a `float` when it was
configured. -/
inductive Number where
  | int (i : Integer)
  | float (x : F64)
deriving DecidableEq

def Number.toValue : Number → Value
  | .int i => .integer i
  | .float x => .f64 x

def Number.isInt : Number → Bool
  | .int _ => true
  | .float _ => false

/-- What a propagation node announces of itself. -/
structure PropagationNode where
  /-- Nothing when there is no name or an empty one. -/
  name : Option String
  propagationNode : Bool
  fromStaticOnly : Bool
  propagationPerTransferLimit : Number
  propagationPerSyncLimit : Number
  propagationStampCost : Nat
  propagationStampCostFlexibility : Nat
  peeringCost : Nat

/-- `PN_META_NAME`, as a key. -/
def metaName : Value := .integer (.ofU8 0x01)

def PropagationNode.announceMetadata (node : PropagationNode) :
    List (Value × Value) :=
  match node.name with
  | some name => [(metaName, .binary (strBytes name))]
  | none => []

/-- An `int` that `umsgpack` writes: beyond 64 bits it raises. -/
def packedInt (n : Nat) : Option Value :=
  if n < 2 ^ 64 then some (.integer (.ofU64 n)) else none

/-- `announce_data`, at a time in seconds, if all of it can be written. -/
def PropagationNode.announceData (node : PropagationNode) (now : Nat) :
    Option Value := do
  let timebase ← packedInt now
  let cost ← packedInt node.propagationStampCost
  let flexibility ← packedInt node.propagationStampCostFlexibility
  let peering ← packedInt node.peeringCost
  return .array [.boolean false, timebase,
    .boolean (node.propagationNode && !node.fromStaticOnly),
    node.propagationPerTransferLimit.toValue,
    node.propagationPerSyncLimit.toValue,
    .array [cost, flexibility, peering], .map node.announceMetadata]

/-- `get_propagation_node_app_data`. -/
def PropagationNode.appData (u : Umsgpack) (node : PropagationNode)
    (now : Nat) : Option Bytes := do
  u.packb (← node.announceData now)

/-- `int(x)` does not raise. -/
def readsAsInt (ofText : Bytes → Bool) : Value → Bool
  | .integer _ => true
  | .boolean _ => true
  | .f64 (.fin _) => true
  | .string (.valid s) => ofText (strBytes s)
  | .binary b => ofText b
  | _ => false

/-- `x == True or x == False`. -/
def isTruth (x : Value) : Bool := equalsInt x 0 || equalsInt x 1

def pnAnnounceDataIsValid (u : Umsgpack) (ofText : Bytes → Bool)
    (appData : Bytes) : Bool :=
  let checks : Option Bool := do
    let data ← u.unpackb appData
    if (← len data) < 7 then return false
    let costs ← item data 5
    return readsAsInt ofText (← item data 1) && isTruth (← item data 2)
      && readsAsInt ofText (← item data 3)
      && readsAsInt ofText (← item data 4)
      && (match costs with | .array _ => true | _ => false)
      && readsAsInt ofText (← item costs 0)
      && readsAsInt ofText (← item costs 1)
      && readsAsInt ofText (← item costs 2)
      && (match ← item data 6 with | .map _ => true | _ => false)
  checks.getD false

def pnStampCostFromAppData (u : Umsgpack) (ofText : Bytes → Bool)
    (appData : Bytes) : Option Value :=
  if pnAnnounceDataIsValid u ofText appData then do
    let data ← u.unpackb appData
    item (← item data 5) 0
  else none

/-- `pn_name_from_app_data`: a name that is `bytes` and UTF-8. -/
def pnNameFromAppData (u : Umsgpack) (ofText : Bytes → Bool)
    (appData : Bytes) : Option String :=
  if pnAnnounceDataIsValid u ofText appData then do
    let data ← u.unpackb appData
    match ← item (← item data 6) 1 with
    | .binary b => String.fromUTF8? ⟨b.toArray⟩
    | _ => none
  else none

end Lxmf.Python
