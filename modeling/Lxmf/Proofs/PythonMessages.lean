/-
The two implementations and one message.

# What is packed

Both hash the payload without a stamp, sign what they hashed and put the
stamp, if there is one, behind the other four elements. They differ in
which stamp that is only for a message that had one before it was packed
(`StampedAlike`): the one keeps it, whatever is asked for, the other may
leave it out or put that of a ticket in its place.

# What is read

Either reads what either packed as the same message with the same id, and
judges the signature alike (`unpack_packed`). It is a frame whose payload is
written as both write it, so that hashing the payload as it came and
hashing it as it is written again is the same.
-/
import Lxmf.Python
import Lxmf.Proofs.Message

namespace Lxmf.Python

variable {P : Platform} {u : Umsgpack}

-- ============================================================== objects

/-- Bytes that may be missing, as an object. -/
def object : Option Bytes → Value
  | some b => .binary b
  | none => .nil

/-- The message as the other implementation has it before it is packed. -/
def counterpart (m : Lxmf.LXMessage) : LXMessage where
  destinationHash := m.destinationHash.toList
  sourceHash := m.sourceHash.toList
  timestamp := .f64 m.timestamp
  title := .binary m.title
  content := .binary m.content
  fields := m.fields
  signature := none
  hash := none
  messageId := none
  packed := none
  stamp := object m.stamp
  stampCost := m.stampCost
  stampValue := m.stampValue
  stampValid := m.stampValid
  deferStamp := m.deferStamp
  outboundTicket := object m.outboundTicket
  incoming := false
  signatureValidated := false
  unverifiedReason := none

/-- What the drawing loop finds, as the search that `pack` calls. -/
def draws (P : Platform) (rng : OsRng) (id : Hash32) (cost : Nat) :
    Option Bytes × Nat :=
  let (stamp, value) := generateStamp P rng id cost workblockExpandRounds
  (stamp.map (·.toList), value)

theorem usableTicket_object (ticket : Option Bytes) :
    LXMessage.usableTicket (object ticket)
      = ticket.filter fun t => t.length = ticketLength := by
  cases ticket with
  | none => rfl
  | some ticket => simp [object, LXMessage.usableTicket, Option.filter]

-- ============================================================== payloads

/-- The elements of a payload. -/
def elements (timestamp : F64) (title content : Bytes) (fields : Value)
    (stamp : Option Bytes) : List Value :=
  [.f64 timestamp, .binary title, .binary content, fields]
    ++ (stamp.map Value.binary).toList

theorem plain_elements {fields : Value} (h : plain fields = true)
    (timestamp : F64) (title content : Bytes) (stamp : Option Bytes) :
    plain (.array (elements timestamp title content fields stamp))
      = true := by
  cases stamp <;> simp [elements, plain, plainList, h]

theorem packPayload_elements (m : Lxmf.LXMessage) :
    m.packPayload P false = packPayloadValues P
        (elements m.timestamp m.title m.content m.fields none)
      ∧ m.packPayload P m.stamp.isSome = packPayloadValues P
        (elements m.timestamp m.title m.content m.fields m.stamp) := by
  constructor
  · simp [Lxmf.LXMessage.packPayload, elements]
  · cases hstamp : m.stamp with
    | none => simp [Lxmf.LXMessage.packPayload, elements]
    | some stamp => simp [Lxmf.LXMessage.packPayload, elements, hstamp]

/-- Different stamps make different payloads. -/
theorem elements_stamp_inj (timestamp : F64) (title content : Bytes)
    (fields : Value) {a b : Option Bytes} :
    elements timestamp title content fields a
        = elements timestamp title content fields b ↔ a = b := by
  cases a <;> cases b <;> simp [elements]

-- =============================================================== stamps

/-- The stamp that a message was packed with. -/
def sentStamp (m : LXMessage) : Value :=
  if m.deferStamp then .nil else m.stamp

/-- The stamp that a message is packed with. -/
def packedStamp (P : Platform) (m : LXMessage)
    (generateStamp : Hash32 → Nat → Option Bytes × Nat) : Option Value :=
  if m.deferStamp then some .nil
  else (m.getStamp P generateStamp).map (·.1)

/-- What `get_stamp` notes of a stamp is its value and that it is valid. -/
theorem getStamp_frame {m : LXMessage} {id : Hash32}
    (hid : m.messageId = some id)
    (gen : Hash32 → Nat → Option Bytes × Nat) :
    ∃ stamp value valid, m.getStamp P gen
      = some (stamp, { m with stampValue := value, stampValid := valid }) := by
  unfold LXMessage.getStamp
  rw [hid]
  split
  · exact ⟨_, _, _, rfl⟩
  · split
    · exact ⟨_, _, _, rfl⟩
    · split
      · exact ⟨m.stamp, m.stampValue, m.stampValid, by rw [← hid]⟩
      · simp only [Option.bind_eq_bind, Option.bind_some]
        split
        · exact ⟨_, _, _, rfl⟩
        · exact ⟨.nil, m.stampValue, m.stampValid, by rw [← hid]; rfl⟩

theorem payload_eq (m : LXMessage) :
    m.payload = [m.timestamp, m.title, m.content, m.fields]
      ++ if sentStamp m = .nil then [] else [sentStamp m] := by
  unfold LXMessage.payload sentStamp
  cases m.deferStamp <;> simp

theorem stampUnlessDeferred_frame {m : LXMessage} {id : Hash32}
    (hid : m.messageId = some id)
    (gen : Hash32 → Nat → Option Bytes × Nat) :
    ∃ stamp value valid, m.stampUnlessDeferred P gen
        = some { m with stamp, stampValue := value, stampValid := valid }
      ∧ packedStamp P m gen = some (sentStamp { m with
          stamp, stampValue := value, stampValid := valid }) := by
  unfold LXMessage.stampUnlessDeferred packedStamp
  by_cases hdefer : m.deferStamp = true
  · refine ⟨m.stamp, m.stampValue, m.stampValid, if_pos hdefer, ?_⟩
    rw [if_pos hdefer]
    exact congrArg some (if_pos hdefer).symm
  · obtain ⟨stamp, value, valid, h⟩ := getStamp_frame (P := P) hid gen
    refine ⟨stamp, value, valid, ?_, ?_⟩
    · rw [if_neg hdefer, h]
      rfl
    · rw [if_neg hdefer, h]
      exact congrArg some (if_neg hdefer).symm

/-- The stamp that the other implementation packs. -/
def stampToPack (P : Platform) (m : Lxmf.LXMessage) (id : Hash32)
    (generateStamp : Hash32 → Nat → Option Bytes × Nat) : Option Bytes :=
  if m.deferStamp then none
  else
    match m.outboundTicket.filter (·.length = ticketLength) with
    | some ticket => some (Lxmf.LXMessage.ticketStamp P ticket id).toList
    | none =>
        m.stampCost.bind fun cost => m.stamp.or (generateStamp id cost).1

theorem packedStamp_counterpart (m : Lxmf.LXMessage) (id : Hash32)
    (gen : Hash32 → Nat → Option Bytes × Nat) :
    packedStamp P { counterpart m with
        hash := some id, messageId := some id } gen
      = some (object (stampToPack P m id gen)) := by
  unfold packedStamp stampToPack
  have hticket := usableTicket_object m.outboundTicket
  cases hdefer : m.deferStamp with
  | true => simp [counterpart, hdefer, object]
  | false =>
      unfold LXMessage.getStamp
      simp only [counterpart, hdefer, hticket, Bool.false_eq_true, if_false]
      cases m.outboundTicket.filter (·.length = ticketLength) with
      | some ticket => rfl
      | none =>
          cases m.stampCost with
          | none => rfl
          | some cost =>
              cases m.stamp with
              | some stamp => rfl
              | none =>
                  rcases hdraw : gen id cost with ⟨_ | stamp, value⟩
                  · simp [hdraw, object]
                  · simp [hdraw, object]

/-- The stamp that this one packs. -/
def keptStamp (P : Platform) (m : Lxmf.LXMessage) (id : Hash32)
    (rng : OsRng) : Option Bytes :=
  (Lxmf.LXMessage.ensureStampUnlessDeferred P
    { m with messageId := some id } rng).2.stamp

/-- What `encode_signed` makes of a message. -/
theorem encodeSigned_frame (hP : RmpvCodec P) (m : Lxmf.LXMessage)
    (key : FixedBytes 32) (rng : OsRng) :
    ∃ payload body m' id,
      P.writeValue (.array (elements m.timestamp m.title m.content m.fields
          none)) = .ok payload
        ∧ id = computeMessageId P m.destinationHash m.sourceHash payload
        ∧ P.writeValue (.array (elements m.timestamp m.title m.content
          m.fields (keptStamp P m id rng))) = .ok body
        ∧ m.encodeSigned P key rng
          = (.ok (frame m.destinationHash m.sourceHash (P.sign key
            (buildSignedPart m.destinationHash m.sourceHash payload id))
              body), m')
        ∧ m'.messageId = some id
        ∧ m'.destinationHash = m.destinationHash
        ∧ m'.signature = some (P.sign key (buildSignedPart m.destinationHash
            m.sourceHash payload id))
        ∧ m'.stamp = keptStamp P m id rng := by
  obtain ⟨payload, hpayload⟩ := hP.packPayload_ok m false
  have hwrite := (packPayload_elements m).1.symm.trans hpayload
  generalize hid : computeMessageId P m.destinationHash m.sourceHash payload
    = id
  obtain ⟨m₁, hst, hre⟩ := ensureStampUnlessDeferred_spec (P := P)
    { m with messageId := some id } rng rfl
  have hkept : keptStamp P m id rng = m₁.stamp := by
    unfold keptStamp
    rw [hst]
  have hd : m₁.destinationHash = m.destinationHash := by rw [hre]
  have hs : m₁.sourceHash = m.sourceHash := by rw [hre]
  have hmid : m₁.messageId = some id := by rw [hre]
  obtain ⟨body, hbody⟩ := hP.write_ok (.array (elements m.timestamp m.title
    m.content m.fields m₁.stamp))
  have hpacked : m₁.packPayload P m₁.stamp.isSome = .ok body := by
    have ht : m₁.timestamp = m.timestamp := by rw [hre]
    have hi : m₁.title = m.title := by rw [hre]
    have hc : m₁.content = m.content := by rw [hre]
    have hf : m₁.fields = m.fields := by rw [hre]
    rw [(packPayload_elements m₁).2, ht, hi, hc, hf]
    exact writeMsgpack_eq_ok.mpr hbody
  generalize hg : P.sign key (buildSignedPart m.destinationHash
    m.sourceHash payload id) = g
  have hsigned : Lxmf.LXMessage.packPayload P
      { m₁ with signature := some g } m₁.stamp.isSome = .ok body := hpacked
  refine ⟨payload, body, { m₁ with signature := some g }, id,
    writeMsgpack_eq_ok.mp hwrite, hid.symm, ?_, ?_, hmid, hd,
    congrArg some hg.symm, hkept.symm⟩
  · rw [hkept]
    exact hbody
  · rw [hg]
    unfold Lxmf.LXMessage.encodeSigned
    simp only [hpayload, hid, hg, hst]
    congr 1
    unfold Lxmf.LXMessage.encodeWithSignature
    simp only [hsigned, Except.ok_bind]
    rw [hd, hs]
    rfl

/-- What `pack` makes of it. -/
theorem pack_frame (hu : u.Agrees P) (hP : RmpvCodec P)
    {m : Lxmf.LXMessage} (hfields : plain m.fields = true)
    (key : FixedBytes 32) (gen : Hash32 → Nat → Option Bytes × Nat)
    (now : F64) :
    ∃ payload body p id,
      P.writeValue (.array (elements m.timestamp m.title m.content m.fields
          none)) = .ok payload
        ∧ id = computeMessageId P m.destinationHash m.sourceHash payload
        ∧ P.writeValue (.array (elements m.timestamp m.title m.content
          m.fields (stampToPack P m id gen))) = .ok body
        ∧ (counterpart m).pack P u (fun b => (P.sign key b).toList) gen now
          = some p
        ∧ p.packed = some (frame m.destinationHash m.sourceHash (P.sign key
            (buildSignedPart m.destinationHash m.sourceHash payload id))
              body)
        ∧ p.hash = some id
        ∧ p.signature = some (P.sign key (buildSignedPart m.destinationHash
            m.sourceHash payload id)).toList
        ∧ sentStamp p = object (stampToPack P m id gen) := by
  obtain ⟨payload, hpayload⟩ := hP.write_ok (.array (elements m.timestamp
    m.title m.content m.fields none))
  generalize hid : computeMessageId P m.destinationHash m.sourceHash payload
    = id
  obtain ⟨body, hbody⟩ := hP.write_ok (.array (elements m.timestamp
    m.title m.content m.fields (stampToPack P m id gen)))
  have hpack : ∀ stamp b, P.writeValue (.array (elements m.timestamp
      m.title m.content m.fields stamp)) = .ok b →
      u.packb (.array (elements m.timestamp m.title m.content m.fields
        stamp)) = some b := by
    intro stamp b h
    rw [hu.packb _ (plain_elements hfields _ _ _ _), h]
    rfl
  obtain ⟨stamp, value, valid, hstamped, hsent⟩ :=
    stampUnlessDeferred_frame (P := P) (m := { counterpart m with
      hash := some id, messageId := some id }) rfl gen
  rw [packedStamp_counterpart] at hsent
  have hsplit := payload_eq { counterpart m with
    hash := some id, messageId := some id
    stamp, stampValue := value, stampValid := valid }
  rw [← Option.some.inj hsent] at hsplit
  have hpayloads : [(counterpart m).timestamp, (counterpart m).title,
        (counterpart m).content, (counterpart m).fields]
      ++ (if object (stampToPack P m id gen) = .nil then []
        else [object (stampToPack P m id gen)])
      = elements m.timestamp m.title m.content m.fields
        (stampToPack P m id gen) := by
    cases stampToPack P m id gen <;> simp [object, elements, counterpart]
  rw [hpayloads] at hsplit
  refine ⟨payload, body, { counterpart m with
      hash := some id
      messageId := some id
      stamp
      stampValue := value
      stampValid := valid
      signature := some (P.sign key (buildSignedPart m.destinationHash
        m.sourceHash payload id)).toList
      signatureValidated := true
      packed := some (frame m.destinationHash m.sourceHash (P.sign key
        (buildSignedPart m.destinationHash m.sourceHash payload id))
          body) }, id, hpayload, hid.symm, hbody, ?_, rfl, rfl, rfl,
    (Option.some.inj hsent).symm⟩
  have hfull : fullHash P ((counterpart m).destinationHash
      ++ (counterpart m).sourceHash ++ payload) = id := hid
  have hfour : u.packb (.array [(counterpart m).timestamp,
      (counterpart m).title, (counterpart m).content,
      (counterpart m).fields]) = some payload := hpack none _ hpayload
  have hnone : (counterpart m).packed.isSome = false := rfl
  have htime : (counterpart m).timestamp ≠ .nil := by simp [counterpart]
  unfold LXMessage.pack
  simp only [hnone, htime, if_false, hfour, hfull, hstamped, hsplit,
    hpack _ _ hbody, Option.bind_eq_bind, Option.bind_some,
    Bool.false_eq_true, Option.pure_def]
  rfl

theorem frame_inj {d s : Hash16} {g : FixedBytes signatureLength}
    {a b : Bytes} : frame d s g a = frame d s g b ↔ a = b := by
  unfold frame
  exact List.append_right_inj _

section PackedInstance

open Reference

/-- A codec that writes as the platform does. -/
noncomputable def docUmsgpack : Umsgpack where
  packb v := some (writeValue v)
  unpackb b := (readValue b).toOption

theorem docUmsgpack_agrees : docUmsgpack.Agrees platform where
  packb _ _ := rfl
  unpackb v b _ h := by
    injection h with h
    show (readValue b).toOption = some v
    rw [← h, readValue_writeValue]
    rfl

end PackedInstance

-- ============================================================== reading

/-- What the two read is one message. -/
structure Received (q : LXMessage) (d : Lxmf.LXMessage) : Prop where
  destinationHash : q.destinationHash = d.destinationHash.toList
  sourceHash : q.sourceHash = d.sourceHash.toList
  timestamp : q.timestamp = .f64 d.timestamp
  title : q.title = .binary d.title
  content : q.content = .binary d.content
  fields : q.fields = d.fields
  stamp : q.stamp = object d.stamp
  signature : q.signature = d.signature.map (·.toList)
  hash : q.hash = d.messageId
  messageId : q.messageId = d.messageId

/-- The payload is taken apart into what was hashed and a stamp. -/
theorem splitPayload_elements (hu : u.Agrees P) {timestamp : F64}
    {title content payload body : Bytes} {fields : Value}
    (hfields : plain fields = true) {stamp : Option Bytes}
    (hpayload : P.writeValue (.array (elements timestamp title content
      fields none)) = .ok payload)
    (hbody : P.writeValue (.array (elements timestamp title content fields
      stamp)) = .ok body) :
    LXMessage.splitPayload u body
        (.array (elements timestamp title content fields stamp))
      = some (payload, .array (elements timestamp title content fields
        none), object stamp) := by
  unfold LXMessage.splitPayload
  cases stamp with
  | none =>
      rw [hpayload] at hbody
      injection hbody with h
      simp [elements, len, h, object]
  | some stamp =>
      have hpack := hu.packb _
        (plain_elements hfields timestamp title content none)
      rw [hpayload] at hpack
      simp only [elements, Option.map_none, Option.toList_none,
        List.append_nil] at hpack
      simp [elements, len, hpack, object, Except.toOption]

/-- The message of a frame. -/
def framed (d s : Hash16) (g : FixedBytes signatureLength)
    (timestamp : F64) (title content : Bytes) (fields : Value)
    (stamp : Option Bytes) (id : Hash32) : Lxmf.LXMessage :=
  { Lxmf.LXMessage.withBytes d s timestamp title content fields with
    stamp
    signature := some g
    messageId := some id }

theorem packPayload_framed (d s : Hash16)
    (g : FixedBytes signatureLength) {timestamp : F64}
    {title content payload : Bytes} {fields : Value}
    (stamp : Option Bytes) (id : Hash32)
    (hpayload : P.writeValue (.array (elements timestamp title content
      fields none)) = .ok payload) :
    (framed d s g timestamp title content fields stamp id).packPayload P
      false = .ok payload := by
  rw [(packPayload_elements _).1]
  exact writeMsgpack_eq_ok.mpr hpayload

theorem decode_packed (hP : RmpvCodec P) (d s : Hash16)
    (g : FixedBytes signatureLength) {timestamp : F64}
    {title content payload body : Bytes} {fields : Value}
    {stamp : Option Bytes}
    (hpayload : P.writeValue (.array (elements timestamp title content
      fields none)) = .ok payload)
    (hbody : P.writeValue (.array (elements timestamp title content fields
      stamp)) = .ok body) :
    Lxmf.LXMessage.decode P (frame d s g body)
      = .ok (framed d s g timestamp title content fields stamp
        (computeMessageId P d s payload)) := by
  have hread := readMsgpack_eq_ok.mpr (hP.read_write _ _ hbody)
  rw [decode_frame _ _ _ (hP.write_ne_nil _ _ hbody), decodeBody, hread]
  exact decodePayload_packed _ d s g (packPayload_framed d s g stamp
    (computeMessageId P d s payload) hpayload)

theorem verify_framed (d s : Hash16) (g : FixedBytes signatureLength)
    {timestamp : F64} {title content payload : Bytes} {fields : Value}
    (stamp : Option Bytes) (id : Hash32)
    (hpayload : P.writeValue (.array (elements timestamp title content
      fields none)) = .ok payload) (k : FixedBytes 32) :
    (framed d s g timestamp title content fields stamp id).verify P k
      = .ok (P.verify k (buildSignedPart d s payload
        (computeMessageId P d s payload)) g) := by
  have hpacked := packPayload_framed d s g stamp id hpayload
  unfold Lxmf.LXMessage.verify
  simp only [hpacked, Except.ok_bind]
  rfl

/-- What a signature comes to. -/
theorem checkSignature_spec (m : LXMessage) (key : Option (FixedBytes 32))
    (g : FixedBytes signatureLength) (signedPart : Bytes) :
    (∃ valid reason, m.checkSignature P key g.toList signedPart
        = { m with
          signatureValidated := valid
          unverifiedReason := reason })
      ∧ (∀ k, key = some k →
          (m.checkSignature P key g.toList signedPart).signatureValidated
            = P.verify k signedPart g)
      ∧ (key = none →
          (m.checkSignature P key g.toList signedPart).signatureValidated
              = m.signatureValidated
            ∧ (m.checkSignature P key g.toList signedPart).unverifiedReason
              = some LXMessage.sourceUnknown) := by
  unfold LXMessage.checkSignature
  rw [toFixed_toList]
  cases key with
  | none =>
      refine ⟨⟨m.signatureValidated, _, rfl⟩, ?_, fun _ => ⟨rfl, rfl⟩⟩
      intro k hk
      cases hk
  | some key =>
      refine ⟨?_, ?_, ?_⟩
      · dsimp only
        split
        · exact ⟨true, m.unverifiedReason, rfl⟩
        · exact ⟨_, _, rfl⟩
      · intro k hk
        injection hk with hk
        dsimp only
        rw [hk]
        cases P.verify k signedPart g <;> rfl
      · intro hk
        cases hk

/-- What is known under a hash is the destination of that hash. -/
def Recalls (identityRecall : Bytes → Option RecalledIdentity)
    (hash : Bytes) : Prop :=
  ∀ identity, identityRecall hash = some identity →
    identity.deliveryHash = hash

theorem knownHash_eq {identityRecall : Bytes → Option RecalledIdentity}
    {hash : Bytes} (h : Recalls identityRecall hash) :
    LXMessage.knownHash (identityRecall hash) hash = hash := by
  unfold LXMessage.knownHash
  cases hidentity : identityRecall hash with
  | none => rfl
  | some identity => exact h identity hidentity

/-- Both read a frame as its message, under the id that the payload has
without its stamp, and judge its signature alike. -/
theorem unpack_packed (hu : u.Agrees P) (d s : Hash16)
    (g : FixedBytes signatureLength) {timestamp : F64}
    {title content payload body : Bytes} {es : List (Value × Value)}
    (hfields : plain (.map es) = true) {stamp : Option Bytes}
    (hpayload : P.writeValue (.array (elements timestamp title content
      (.map es) none)) = .ok payload)
    (hbody : P.writeValue (.array (elements timestamp title content
      (.map es) stamp)) = .ok body)
    {identityRecall : Bytes → Option RecalledIdentity}
    (hdest : Recalls identityRecall d.toList)
    (hsource : Recalls identityRecall s.toList) :
    ∃ q, LXMessage.unpackFromBytes P u identityRecall (frame d s g body)
        = some q
      ∧ Received q (framed d s g timestamp title content (.map es) stamp
        (computeMessageId P d s payload))
      ∧ q.incoming = true
      ∧ (∀ i, identityRecall s.toList = some i →
          q.signatureValidated = P.verify i.verifyingKey (buildSignedPart d
            s payload (computeMessageId P d s payload)) g)
      ∧ (identityRecall s.toList = none → q.signatureValidated = false
          ∧ q.unverifiedReason = some LXMessage.sourceUnknown) := by
  have hread := hu.unpackb _ _
    (plain_elements hfields timestamp title content stamp) hbody
  have hsplit := splitPayload_elements hu hfields hpayload hbody
  have htime : item (.array (elements timestamp title content (.map es)
      none)) 0 = some (.f64 timestamp) := rfl
  have htitle : item (.array (elements timestamp title content (.map es)
      none)) 1 = some (.binary title) := rfl
  have hcontent : item (.array (elements timestamp title content (.map es)
      none)) 2 = some (.binary content) := rfl
  have hfield : item (.array (elements timestamp title content (.map es)
      none)) 3 = some (.map es) := rfl
  unfold LXMessage.unpackFromBytes
  rw [frame_destination, frame_source, frame_signature, frame_payload]
  simp only [hread, hsplit, htime, htitle, hcontent, hfield,
    Option.bind_eq_bind, Option.bind_some, LXMessage.new,
    LXMessage.setFields, Option.pure_def, knownHash_eq hdest,
    knownHash_eq hsource]
  generalize hread : LXMessage.mk _ _ _ _ _ _ _ _ _ _ _ _ _ _ _ _ _ _ _
    = m
  obtain ⟨⟨valid, reason, hm⟩, hknown, hunknown⟩ := checkSignature_spec
    (P := P) m ((identityRecall s.toList).map (·.verifyingKey)) g (d.toList
      ++ s.toList ++ payload
      ++ (fullHash P (d.toList ++ s.toList ++ payload)).toList)
  refine ⟨_, rfl, ?_, ?_, ?_, ?_⟩
  · rw [hm, ← hread]
    exact ⟨rfl, rfl, rfl, rfl, rfl, rfl, rfl, rfl, rfl, rfl⟩
  · rw [hm, ← hread]
  · intro identity h
    exact hknown _ (by rw [h]; rfl)
  · intro h
    obtain ⟨hvalid, hreason⟩ := hunknown (by rw [h]; rfl)
    refine ⟨hvalid.trans ?_, hreason⟩
    rw [← hread]

-- ============================================================== sending

section Sending

variable {m : Lxmf.LXMessage} {es : List (Value × Value)}
variable {key : FixedBytes 32} {rng : OsRng}
variable {gen : Hash32 → Nat → Option Bytes × Nat} {now : F64}
variable {b : Bytes}

/-- The other implementation packs the message as these bytes. -/
def PacksAs (P : Platform) (u : Umsgpack) (m : Lxmf.LXMessage)
    (key : FixedBytes 32) (gen : Hash32 → Nat → Option Bytes × Nat)
    (now : F64) (b : Bytes) (p : LXMessage) : Prop :=
  (counterpart m).pack P u (fun x => (P.sign key x).toList) gen now = some p
    ∧ p.packed = some b

/-- What is sent by either: a frame of the message, with a stamp that its
sender has noted. -/
theorem sent_frame (hu : u.Agrees P) (hP : RmpvCodec P)
    (hfields : plain m.fields = true)
    (h : (m.encodeSigned P key rng).1 = .ok b
      ∨ ∃ p, PacksAs P u m key gen now b p) :
    ∃ payload body stamp id g,
      P.writeValue (.array (elements m.timestamp m.title m.content m.fields
          none)) = .ok payload
        ∧ P.writeValue (.array (elements m.timestamp m.title m.content
          m.fields stamp)) = .ok body
        ∧ id = computeMessageId P m.destinationHash m.sourceHash payload
        ∧ g = P.sign key (buildSignedPart m.destinationHash m.sourceHash
          payload id)
        ∧ b = frame m.destinationHash m.sourceHash g body
        ∧ (m.encodeSigned P key rng).2.messageId = some id
        ∧ (m.encodeSigned P key rng).2.signature = some g
        ∧ ((m.encodeSigned P key rng).1 = .ok b →
          stamp = (m.encodeSigned P key rng).2.stamp)
        ∧ ∀ p, PacksAs P u m key gen now b p →
          object stamp = sentStamp p := by
  obtain ⟨payload, body₁, m', id, hpayload, hid, hbody₁, hencode, hmid, -,
    hmsig, hkept⟩ := encodeSigned_frame hP m key rng
  obtain ⟨payload₂, body₂, p₂, id₂, hpayload₂, hid₂, hbody₂, hpack, hpacked,
    -, -, hsent⟩ := pack_frame hu hP hfields key gen now
  obtain rfl : payload₂ = payload :=
    Except.ok.inj (hpayload₂.symm.trans hpayload)
  obtain rfl : id₂ = id := hid₂.trans hid.symm
  have hhere : (m.encodeSigned P key rng).1 = .ok b →
      b = frame m.destinationHash m.sourceHash (P.sign key
        (buildSignedPart m.destinationHash m.sourceHash payload₂ id₂))
          body₁ := by
    intro h
    rw [hencode] at h
    injection h with h
    exact h.symm
  have hthere : ∀ p, PacksAs P u m key gen now b p →
      p = p₂ ∧ b = frame m.destinationHash m.sourceHash (P.sign key
        (buildSignedPart m.destinationHash m.sourceHash payload₂ id₂))
          body₂ := by
    rintro p ⟨hp, hpb⟩
    obtain rfl : p₂ = p := Option.some.inj (hpack.symm.trans hp)
    exact ⟨rfl, Option.some.inj (hpb.symm.trans hpacked)⟩
  -- one payload has one stamp in it
  have hstamp : ∀ {body₃ body₄ stamp₃ stamp₄},
      P.writeValue (.array (elements m.timestamp m.title m.content m.fields
        stamp₃)) = .ok body₃ →
      P.writeValue (.array (elements m.timestamp m.title m.content m.fields
        stamp₄)) = .ok body₄ → body₃ = body₄ → stamp₃ = stamp₄ := by
    rintro body₃ _ stamp₃ stamp₄ h₃ h₄ rfl
    exact (elements_stamp_inj ..).mp
      (Value.array.inj (hP.write_inj (h₃.trans h₄.symm)))
  rw [hencode] at hhere ⊢
  rcases h with h | ⟨p, hp⟩
  · rw [hencode] at h
    have hb := hhere h
    refine ⟨payload₂, body₁, _, id₂, _, hpayload, hbody₁, hid, rfl, hb, hmid,
      hmsig, fun _ => hkept.symm, fun p hp => ?_⟩
    obtain ⟨rfl, hb₂⟩ := hthere p hp
    rw [hsent, hstamp hbody₁ hbody₂ (frame_inj.mp (hb.symm.trans hb₂))]
  · obtain ⟨rfl, hb⟩ := hthere p hp
    refine ⟨payload₂, body₂, _, id₂, _, hpayload, hbody₂, hid, rfl, hb, hmid,
      hmsig, fun h => ?_, fun p' hp' => ?_⟩
    · exact (hstamp hbody₂ hbody₁
        (frame_inj.mp (hb.symm.trans (hhere h)))).trans hkept.symm
    · obtain ⟨rfl, -⟩ := hthere p' hp'
      exact hsent.symm

/-- Whatever either implementation packs of a message, both read as that
message under the id that its sender gave it and with the stamp that its
sender put in. This one verifies it under its sender's key; the other
comes to this one's verdict under the key it knows the sender by. -/
theorem messages_cross (hu : u.Agrees P) (hP : RmpvCodec P)
    (hS : SignsHonestly P) {m : Lxmf.LXMessage}
    {es : List (Value × Value)} (hm : m.fields = .map es)
    (hfields : plain (.map es) = true) (key : FixedBytes 32) (rng : OsRng)
    (gen : Hash32 → Nat → Option Bytes × Nat) (now : F64)
    (identityRecall : Bytes → Option RecalledIdentity)
    (hdest : Recalls identityRecall m.destinationHash.toList)
    (hsource : Recalls identityRecall m.sourceHash.toList) {b : Bytes}
    (h : (m.encodeSigned P key rng).1 = .ok b
      ∨ ∃ p, PacksAs P u m key gen now b p) :
    ∃ d q, Lxmf.LXMessage.decode P b = .ok d
      ∧ LXMessage.unpackFromBytes P u identityRecall b = some q
      ∧ Received q d
      ∧ d = { Lxmf.LXMessage.withBytes m.destinationHash m.sourceHash
            m.timestamp m.title m.content m.fields with
          stamp := d.stamp
          signature := (m.encodeSigned P key rng).2.signature
          messageId := (m.encodeSigned P key rng).2.messageId }
      ∧ ((m.encodeSigned P key rng).1 = .ok b →
          d.stamp = (m.encodeSigned P key rng).2.stamp)
      ∧ (∀ p, PacksAs P u m key gen now b p → q.stamp = sentStamp p)
      ∧ d.verify P (P.verifyingKey key) = .ok true
      ∧ (∀ i, identityRecall m.sourceHash.toList = some i →
          d.verify P i.verifyingKey = .ok q.signatureValidated)
      ∧ (identityRecall m.sourceHash.toList = none →
          q.signatureValidated = false
          ∧ q.unverifiedReason = some LXMessage.sourceUnknown) := by
  obtain ⟨payload, body, stamp, id, g, hpayload, hbody, hid, hg, rfl, hmid,
    hmsig, hhere, hthere⟩ := sent_frame hu hP (hm ▸ hfields) h
  have hdecode := decode_packed hP m.destinationHash m.sourceHash g hpayload
    hbody
  have hverify := verify_framed m.destinationHash m.sourceHash g stamp id
    hpayload
  rw [← hid] at hdecode hverify
  rw [hm] at hpayload hbody
  obtain ⟨q, hunpack, hreceived, -, hknown, hunknown⟩ := unpack_packed hu
    m.destinationHash m.sourceHash g hfields hpayload hbody hdest hsource
  rw [← hid, ← hm] at hreceived
  rw [← hid] at hknown
  refine ⟨_, q, hdecode, hunpack, hreceived, ?_, hhere, fun p hp => ?_, ?_,
    ?_, hunknown⟩
  · rw [hmsig, hmid]
    rfl
  · rw [hreceived.stamp, ← hthere p hp]
    rfl
  · rw [hverify, hg, hS]
  · intro i hi
    rw [hverify, hknown i hi]

end Sending

section CrossInstance

open Reference

/-- What the other implementation knows of the sender of the example. -/
def docRecall (hash : Bytes) : Option RecalledIdentity :=
  if hash = docMessage.sourceHash.toList then some ⟨docPublic, hash⟩
  else none

theorem docRecall_recalls (hash : Bytes) : Recalls docRecall hash := by
  intro identity h
  unfold docRecall at h
  split at h
  · injection h with h
    rw [← h]
  · cases h

/-- The other implementation reads the example, with the stamp it was sent
with, and finds it signed. -/
theorem messages_cross_doc :
    ∃ q, LXMessage.unpackFromBytes platform docUmsgpack docRecall docFrame
        = some q
      ∧ q.content = .binary docMessage.content
      ∧ q.stamp = object (docMessage.encodeSigned platform docKey
        fun _ => 0).2.stamp
      ∧ q.signatureValidated = true := by
  have hsent : (docMessage.encodeSigned platform docKey fun _ => 0).1
      = .ok docFrame := by
    rw [docMessage_encodeSigned]
  obtain ⟨d, q, -, hunpack, hreceived, hd, hstamp, -, hverify, hknown, -⟩ :=
    messages_cross docUmsgpack_agrees platform_rmpvCodec
      platform_signsHonestly (m := docMessage) rfl (by decide) docKey
      (fun _ => 0) (fun _ _ => (none, 0)) (.fin 0) docRecall
      (docRecall_recalls _) (docRecall_recalls _) (.inl hsent)
  have hkey : platform.verifyingKey docKey = docPublic :=
    Equiv.swap_apply_left docKey docPublic
  rw [hkey, hknown ⟨docPublic, _⟩ (if_pos rfl)] at hverify
  injection hverify with hverify
  refine ⟨q, hunpack, ?_, ?_, hverify⟩
  · rw [hreceived.content, hd]
    rfl
  · rw [hreceived.stamp, hstamp hsent]

end CrossInstance

end Lxmf.Python
