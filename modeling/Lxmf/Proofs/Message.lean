/-
The message codec round trip, and the two identities of a message.

# Round trip

`encode_signed` writes destination, source, signature and payload at
fixed offsets. `decode_frame` reads such a frame back for any payload,
and `decodePayload_packed` reads back the array `pack_payload` wrote, so
the round trip is the two in a row. The container wraps the same bytes
in a map and restores the flags that the wire does not carry.

# Two identities

`decode` hashes the decoded values as they came, `verify` and
`validate_stamp` hash a payload rebuilt from the converted fields. The
two agree exactly on a payload whose timestamp is a double and whose
title and content are binaries (`canonicalPayload`).
-/
import Lxmf.Library.Except
import Lxmf.Message
import Lxmf.Reference

namespace Lxmf

open LXMessage

-- ==================================================== codec primitives

section Primitives

variable {P : Platform}

@[simp] theorem writeMsgpack_eq_ok {v : Value} {b : Bytes} :
    writeMsgpack P v = .ok b ↔ P.writeValue v = .ok b :=
  Except.mapError_eq_ok

@[simp] theorem readMsgpack_eq_ok {v : Value} {b : Bytes} :
    readMsgpack P b = .ok v ↔ P.readValue b = .ok v :=
  Except.mapError_eq_ok

/-- Packing never fails on a platform whose writer does not. -/
theorem RmpvCodec.packPayload_ok (hP : RmpvCodec P) (m : LXMessage)
    (includeStamp : Bool) :
    ∃ b, m.packPayload P includeStamp = .ok b := by
  unfold packPayload packPayloadValues
  simp only [writeMsgpack_eq_ok]
  exact hP.write_ok _

/-- A payload without its stamp reads four fields only. -/
theorem packPayload_false_congr {m m' : LXMessage}
    (ht : m.timestamp = m'.timestamp) (hi : m.title = m'.title)
    (hc : m.content = m'.content) (hf : m.fields = m'.fields) :
    m.packPayload P false = m'.packPayload P false := by
  simp [packPayload, ht, hi, hc, hf]

end Primitives

-- ============================================================= framing

section Framing

variable {P : Platform}

/-- The frame: two hashes, a signature, a payload. -/
def frame (d s : Hash16) (g : FixedBytes signatureLength)
    (payload : Bytes) : Bytes :=
  d.toList ++ s.toList ++ g.toList ++ payload

/-- What `decode` does past the fixed offsets. -/
def decodeBody (P : Platform) (d s : Hash16)
    (g : FixedBytes signatureLength) (payload : Bytes) :
    Except LXMFError LXMessage := do
  match ← readMsgpack P payload with
  | .array payloadArray => decodePayload P d s g payloadArray
  | _ => throw .invalidPayload

theorem frame_destination (d s : Hash16) (g : FixedBytes signatureLength)
    (payload : Bytes) :
    (frame d s g payload).take destinationLength = d.toList := by
  have hd := d.toList_length
  simp only [frame, List.append_assoc]
  exact List.take_left' hd

theorem frame_source (d s : Hash16) (g : FixedBytes signatureLength)
    (payload : Bytes) :
    ((frame d s g payload).drop destinationLength).take destinationLength
      = s.toList := by
  have hd := d.toList_length
  have hs := s.toList_length
  simp only [frame, List.append_assoc]
  rw [List.drop_left' hd]
  exact List.take_left' hs

theorem frame_signature (d s : Hash16) (g : FixedBytes signatureLength)
    (payload : Bytes) :
    ((frame d s g payload).drop (destinationLength * 2)).take
      signatureLength = g.toList := by
  have hg := g.toList_length
  have hds : (d.toList ++ s.toList).length = destinationLength * 2 := by
    simp [destinationLength]
  rw [frame, List.append_assoc, List.drop_left' hds]
  exact List.take_left' hg

theorem frame_payload (d s : Hash16) (g : FixedBytes signatureLength)
    (payload : Bytes) :
    (frame d s g payload).drop (destinationLength * 2 + signatureLength)
      = payload := by
  have h : (d.toList ++ s.toList ++ g.toList).length
      = destinationLength * 2 + signatureLength := by
    simp [destinationLength, signatureLength]
  exact List.drop_left' h

/-- `decode` splits a frame where it was put together. -/
theorem decode_frame (d s : Hash16) (g : FixedBytes signatureLength)
    {payload : Bytes} (h : payload ≠ []) :
    decode P (frame d s g payload) = decodeBody P d s g payload := by
  have hlen : ¬ (frame d s g payload).length
      < destinationLength * 2 + signatureLength + 1 := by
    have := List.length_pos_iff.mpr h
    simp [frame, destinationLength, signatureLength]
    omega
  unfold decode
  rw [frame_destination, frame_source, frame_signature, frame_payload]
  simp only [toFixed_toList, if_neg hlen]
  rfl

/-- Everything `decode` accepts is a frame. -/
theorem decode_cases {bytes : Bytes} {m : LXMessage}
    (h : decode P bytes = .ok m) :
    ∃ d s g payload, payload ≠ [] ∧ bytes = frame d s g payload
      ∧ decodeBody P d s g payload = .ok m := by
  have hlen : destinationLength * 2 + signatureLength + 1
      ≤ bytes.length := by
    by_contra hlt
    unfold decode at h
    simp [not_le.mp hlt] at h
  simp only [destinationLength, signatureLength] at hlen
  let d : Hash16 := ⟨bytes.take destinationLength, by
    simp [destinationLength]; omega⟩
  let s : Hash16 :=
    ⟨(bytes.drop destinationLength).take destinationLength, by
      simp [destinationLength]; omega⟩
  let g : FixedBytes signatureLength :=
    ⟨(bytes.drop (destinationLength * 2)).take signatureLength, by
      simp [destinationLength, signatureLength]; omega⟩
  let payload := bytes.drop (destinationLength * 2 + signatureLength)
  have hne : payload ≠ [] := by
    apply List.ne_nil_of_length_pos
    simp [payload, destinationLength, signatureLength]
    omega
  have hframe : bytes = frame d s g payload := by
    have h₁ : bytes = d.toList ++ bytes.drop destinationLength :=
      (List.take_append_drop _ _).symm
    have h₂ : bytes.drop destinationLength
        = s.toList ++ bytes.drop (destinationLength * 2) := by
      have := List.take_append_drop destinationLength
        (bytes.drop destinationLength)
      rw [List.drop_drop] at this
      exact this.symm
    have h₃ : bytes.drop (destinationLength * 2)
        = g.toList ++ payload := by
      have := List.take_append_drop signatureLength
        (bytes.drop (destinationLength * 2))
      rw [List.drop_drop] at this
      exact this.symm
    rw [frame, List.append_assoc, List.append_assoc, ← h₃, ← h₂, ← h₁]
  refine ⟨d, s, g, payload, hne, hframe, ?_⟩
  rw [← decode_frame d s g hne, ← hframe]
  exact h

/-- An accepted body is an array of at least four values, each of which
converts; the identity is the hash of the first four as they came. -/
theorem decodeBody_cases {d s : Hash16} {g : FixedBytes signatureLength}
    {payload : Bytes} {m : LXMessage}
    (h : decodeBody P d s g payload = .ok m) :
    ∃ v0 v1 v2 fields rest timestamp title content stamp packed,
      P.readValue payload = .ok (.array (v0 :: v1 :: v2 :: fields :: rest))
      ∧ v0.toMessageF64 = .ok timestamp
      ∧ v1.toMessageBytes = .ok title
      ∧ v2.toMessageBytes = .ok content
      ∧ P.writeValue (.array [v0, v1, v2, fields]) = .ok packed
      ∧ (stamp = none ↔ rest = [])
      ∧ m = { LXMessage.withBytes d s timestamp title content fields with
              stamp := stamp
              signature := some g
              messageId := some (computeMessageId P d s packed) } := by
  unfold decodeBody at h
  obtain ⟨v, hr, h⟩ := Except.bind_eq_ok.mp h
  rw [readMsgpack_eq_ok] at hr
  split at h
  case h_2 => cases h
  case h_1 payloadArray =>
    unfold decodePayload at h
    split at h
    case h_2 => cases h
    case h_1 v0 v1 v2 fields rest =>
      obtain ⟨timestamp, ht, h⟩ := Except.bind_eq_ok.mp h
      obtain ⟨title, hi, h⟩ := Except.bind_eq_ok.mp h
      obtain ⟨content, hc, h⟩ := Except.bind_eq_ok.mp h
      obtain ⟨stamp, hs, h⟩ := Except.bind_eq_ok.mp h
      obtain ⟨packed, hp, h⟩ := Except.bind_eq_ok.mp h
      have hst : stamp = none ↔ rest = [] := by
        cases rest with
        | nil =>
            cases hs
            simp
        | cons v4 rest =>
            simp only [decodeStamp] at hs
            cases hb : v4.toMessageBytes with
            | error e =>
                rw [hb] at hs
                cases hs
            | ok b =>
                rw [hb] at hs
                cases hs
                simp
      cases h
      exact ⟨v0, v1, v2, fields, rest, timestamp, title, content, stamp,
        packed, hr, ht, hi, hc, writeMsgpack_eq_ok.mp hp, hst, rfl⟩

end Framing

-- ========================================================== round trip

section RoundTrip

variable {P : Platform}

/-- Two messages agree on everything the wire carries, identity and
signature included. -/
structure SameMessage (a b : LXMessage) : Prop where
  destinationHash : a.destinationHash = b.destinationHash
  sourceHash : a.sourceHash = b.sourceHash
  timestamp : a.timestamp = b.timestamp
  title : a.title = b.title
  content : a.content = b.content
  fields : a.fields = b.fields
  stamp : a.stamp = b.stamp
  signature : a.signature = b.signature
  messageId : a.messageId = b.messageId

/-- `m'` is `m` up to the four stamp fields. -/
def Restamped (m m' : LXMessage) : Prop :=
  m' = { m with
    stamp := m'.stamp
    stampValue := m'.stampValue
    stampValid := m'.stampValid
    stampChecked := m'.stampChecked }

/-- Signing afterwards or before is the same. -/
theorem Restamped.sign {m m' : LXMessage} (h : Restamped m m')
    (g : Option (FixedBytes signatureLength)) :
    Restamped { m with signature := g } { m' with signature := g } := by
  cases m
  cases m'
  simp only [Restamped, LXMessage.mk.injEq, true_and] at h ⊢
  tauto

theorem ensureDrawnStamp_restamped (m : LXMessage) (rng : OsRng)
    (id : Hash32) : Restamped m (m.ensureDrawnStamp P rng id) := by
  unfold ensureDrawnStamp
  split
  · split
    · rfl
    · rfl
  · rfl

/-- Stamping writes the four stamp fields only, and fails only without
an identity. -/
theorem ensureStamp_spec (m : LXMessage) (rng : OsRng) {id : Hash32}
    (h : m.messageId = some id) :
    ∃ m', m.ensureStamp P rng = (.ok (), m') ∧ Restamped m m' := by
  unfold ensureStamp
  split
  case isTrue => exact ⟨m, rfl, rfl⟩
  case isFalse =>
    simp only [h]
    split
    case h_1 ticket _ =>
      split
      case isTrue => exact ⟨_, rfl, rfl⟩
      case isFalse =>
        exact ⟨_, rfl, ensureDrawnStamp_restamped m rng id⟩
    case h_2 => exact ⟨_, rfl, ensureDrawnStamp_restamped m rng id⟩

theorem ensureStampUnlessDeferred_spec (m : LXMessage) (rng : OsRng)
    {id : Hash32} (h : m.messageId = some id) :
    ∃ m', m.ensureStampUnlessDeferred P rng = (.ok (), m')
      ∧ Restamped m m' := by
  unfold ensureStampUnlessDeferred
  split
  case isTrue => exact ensureStamp_spec m rng h
  case isFalse => exact ⟨m, rfl, rfl⟩

/-- What `encode_signed` leaves behind, once the payload packs: the
identity, the signature over it, and a stamp or not. -/
theorem encodeSigned_spec (m : LXMessage) (key : FixedBytes 32)
    (rng : OsRng) {payload : Bytes}
    (h : m.packPayload P false = .ok payload) :
    ∃ m', m.encodeSigned P key rng = (m'.encodeWithSignature P, m')
      ∧ Restamped
        { m with
          messageId := some (computeMessageId P m.destinationHash
            m.sourceHash payload)
          signature := some (P.sign key (buildSignedPart m.destinationHash
            m.sourceHash payload (computeMessageId P m.destinationHash
              m.sourceHash payload))) } m' := by
  unfold encodeSigned
  simp only [h]
  generalize computeMessageId P m.destinationHash m.sourceHash payload = id
  obtain ⟨m₁, hst, hre⟩ := ensureStampUnlessDeferred_spec (P := P)
    { m with messageId := some id } rng rfl
  simp only [hst]
  exact ⟨_, rfl, hre.sign _⟩

/-- A signed message with a packed payload is a frame. -/
theorem encodeWithSignature_eq_ok {m : LXMessage} {bytes : Bytes}
    (h : m.encodeWithSignature P = .ok bytes) :
    ∃ g payload, m.signature = some g
      ∧ m.packPayload P m.stamp.isSome = .ok payload
      ∧ bytes = frame m.destinationHash m.sourceHash g payload := by
  unfold encodeWithSignature at h
  split at h
  case h_2 => cases h
  case h_1 g hg =>
    obtain ⟨payload, hp, h⟩ := Except.bind_eq_ok.mp h
    cases h
    exact ⟨g, payload, hg, hp, rfl⟩

/-- Encoding never fails on a platform whose writer does not. -/
theorem RmpvCodec.encodeSigned_ok (hP : RmpvCodec P) (m : LXMessage)
    (key : FixedBytes 32) (rng : OsRng) :
    ∃ bytes m', m.encodeSigned P key rng = (.ok bytes, m') := by
  obtain ⟨payload, hp⟩ := hP.packPayload_ok m false
  obtain ⟨m', henc, hre⟩ := encodeSigned_spec m key rng hp
  obtain ⟨body, hbody⟩ := hP.packPayload_ok m' m'.stamp.isSome
  obtain ⟨g, hg⟩ : ∃ g, m'.signature = some g := by
    rw [hre]
    exact ⟨_, rfl⟩
  have hbytes : m'.encodeWithSignature P
      = .ok (frame m'.destinationHash m'.sourceHash g body) := by
    unfold encodeWithSignature
    simp only [hg, hbody]
    rfl
  exact ⟨_, m', by rw [henc, hbytes]⟩

/-- The decoder reads back the array `pack_payload` writes. -/
theorem decodePayload_packed (m : LXMessage) (d s : Hash16)
    (g : FixedBytes signatureLength) {packed : Bytes}
    (h : m.packPayload P false = .ok packed) :
    decodePayload P d s g
        ([.f64 m.timestamp, .binary m.title, .binary m.content, m.fields]
          ++ (m.stamp.map Value.binary).toList)
      = .ok { LXMessage.withBytes d s m.timestamp m.title m.content
                m.fields with
              stamp := m.stamp
              signature := some g
              messageId := some (computeMessageId P d s packed) } := by
  have hpack : packPayloadValues P
      [.f64 m.timestamp, .binary m.title, .binary m.content, m.fields]
      = .ok packed := by
    simpa [packPayload] using h
  have hstamp : decodeStamp (m.stamp.map Value.binary).toList
      = .ok m.stamp := by
    cases m.stamp with
    | none => rfl
    | some stamp => rfl
  simp only [decodePayload, List.cons_append, List.nil_append,
    Value.toMessageF64, Value.toMessageBytes, Except.ok_bind, hstamp,
    hpack]
  rfl

/-- `decode` undoes `encode_with_signature`. -/
theorem decode_encodeWithSignature (hP : RmpvCodec P) {m : LXMessage}
    {bytes packed : Bytes}
    (h : m.encodeWithSignature P = .ok bytes)
    (hpack : m.packPayload P false = .ok packed) :
    decode P bytes
      = .ok { LXMessage.withBytes m.destinationHash m.sourceHash
                m.timestamp m.title m.content m.fields with
              stamp := m.stamp
              signature := m.signature
              messageId := some (computeMessageId P m.destinationHash
                m.sourceHash packed) } := by
  obtain ⟨g, payload, hg, hp, rfl⟩ := encodeWithSignature_eq_ok h
  have hwrite : P.writeValue (.array
      ([.f64 m.timestamp, .binary m.title, .binary m.content, m.fields]
        ++ (m.stamp.map Value.binary).toList)) = .ok payload := by
    rw [← writeMsgpack_eq_ok, ← hp]
    cases hstamp : m.stamp with
    | none => simp [packPayload, packPayloadValues, hstamp]
    | some stamp => simp [packPayload, packPayloadValues, hstamp]
  have hread := hP.read_write _ _ hwrite
  rw [decode_frame _ _ _ (hP.write_ne_nil _ _ hwrite), decodeBody,
    readMsgpack_eq_ok.mpr hread, hg]
  exact decodePayload_packed m _ _ g hpack

/-- The container's loop recovers what the container was built from. -/
theorem containerEntries_read (m : LXMessage) (lxmfBytes : Bytes) :
    (m.containerEntries lxmfBytes).foldl Container.read {} =
      { lxmfBytes := some lxmfBytes
        state := some m.state
        method := m.method
        transportEncrypted := m.transportEncrypted
        transportEncryption := m.transportEncryption } := by
  have hu8 : ∀ n : UInt8, integerToU8 (Integer.ofU8 n) = some n := by
    intro n
    have := n.toNat_lt
    simp [integerToU8, this]
  unfold containerEntries
  cases m.method <;> cases m.transportEncrypted
    <;> cases m.transportEncryption
    <;> simp [Container.read, Value.str, Utf8String.asStr, hu8]

/-- The container of a message whose wire bytes decode to `d` unpacks to
`d` with the flags of the container. -/
theorem unpackFromContainer_packedContainer (hP : RmpvCodec P)
    {m d : LXMessage} {bytes : Bytes}
    (hm : m.encodeWithSignature P = .ok bytes)
    (hd : decode P bytes = .ok d) :
    ∃ container, m.packedContainer P = .ok container
      ∧ unpackFromContainer P container
        = .ok { d with
            state := m.state
            method := m.method
            transportEncrypted := m.transportEncrypted
            transportEncryption := m.transportEncryption } := by
  obtain ⟨container, hw⟩ :=
    hP.write_ok (.map (m.containerEntries bytes))
  refine ⟨container, ?_, ?_⟩
  · unfold packedContainer
    rw [hm]
    exact writeMsgpack_eq_ok.mpr hw
  · have hr := readMsgpack_eq_ok.mpr (hP.read_write _ _ hw)
    unfold unpackFromContainer
    simp only [hr, Except.ok_bind, containerEntries_read, hd]
    rfl

/-- An honest signature over the rebuilt payload verifies. -/
theorem verify_signed (hS : SignsHonestly P) {m : LXMessage}
    (key : FixedBytes 32) (payload : Bytes)
    (hp : m.packPayload P false = .ok payload)
    (hg : m.signature = some (P.sign key (buildSignedPart
      m.destinationHash m.sourceHash payload (computeMessageId P
        m.destinationHash m.sourceHash payload)))) :
    m.verify P (P.verifyingKey key) = .ok true := by
  unfold LXMessage.verify
  simp only [hg, hp, Except.ok_bind]
  exact congrArg Except.ok (hS key _)

/-- What `encode_signed` returns decodes to the message it leaves
behind, whose payload packs to the signed one. -/
theorem encodeSigned_decodes (hP : RmpvCodec P) {m m' : LXMessage}
    {key : FixedBytes 32} {rng : OsRng} {bytes : Bytes}
    (h : m.encodeSigned P key rng = (.ok bytes, m')) :
    ∃ payload d, m.packPayload P false = .ok payload
      ∧ m'.encodeWithSignature P = .ok bytes
      ∧ Restamped
        { m with
          messageId := some (computeMessageId P m.destinationHash
            m.sourceHash payload)
          signature := some (P.sign key (buildSignedPart m.destinationHash
            m.sourceHash payload (computeMessageId P m.destinationHash
              m.sourceHash payload))) } m'
      ∧ decode P bytes = .ok d ∧ SameMessage d m' := by
  obtain ⟨payload, hp⟩ := hP.packPayload_ok m false
  obtain ⟨m₁, henc, hre⟩ := encodeSigned_spec m key rng hp
  rw [henc] at h
  injection h with hbytes hm
  subst hm
  have hp₁ : m₁.packPayload P false = .ok payload := by
    rw [hre]
    exact hp
  have hd := decode_encodeWithSignature hP hbytes hp₁
  refine ⟨payload, _, hp, hbytes, hre, hd, ?_⟩
  refine ⟨rfl, rfl, rfl, rfl, rfl, rfl, rfl, rfl, ?_⟩
  rw [hre]

/-- Encoding a message and reading it back, from the wire or from a
container, gives the message that was encoded; its signature verifies;
its identity and signature do not depend on the stamp. -/
theorem decode_encodeSigned (hP : RmpvCodec P) (hS : SignsHonestly P)
    (m m' : LXMessage) (key : FixedBytes 32) (rng : OsRng) (bytes : Bytes)
    (h : m.encodeSigned P key rng = (.ok bytes, m')) :
    ∃ d, decode P bytes = .ok d
      ∧ SameMessage d m'
      ∧ d.verify P (P.verifyingKey key) = .ok true
      ∧ (∀ stamp rng', ∃ m₂,
          (LXMessage.encodeSigned P { m with stamp := stamp } key rng').2
            = m₂
          ∧ m₂.messageId = m'.messageId ∧ m₂.signature = m'.signature)
      ∧ ∃ container, m'.packedContainer P = .ok container
        ∧ unpackFromContainer P container
          = .ok { d with
              state := m'.state
              method := m'.method
              transportEncrypted := m'.transportEncrypted
              transportEncryption := m'.transportEncryption } := by
  obtain ⟨payload, d, hp, hbytes, hre, hd, hsame⟩ :=
    encodeSigned_decodes hP h
  refine ⟨d, hd, hsame, ?_, ?_,
    unpackFromContainer_packedContainer hP hbytes hd⟩
  · refine verify_signed hS key payload ?_ ?_
    · rw [packPayload_false_congr hsame.timestamp hsame.title
        hsame.content hsame.fields, hre]
      exact hp
    · rw [hsame.signature, hsame.destinationHash, hsame.sourceHash, hre]
  · intro stamp rng'
    have hps : LXMessage.packPayload P { m with stamp := stamp } false
        = .ok payload := hp
    obtain ⟨m₂, henc₂, hre₂⟩ := encodeSigned_spec _ key rng' hps
    refine ⟨m₂, by rw [henc₂], ?_, ?_⟩
    · rw [hre, hre₂]
    · rw [hre, hre₂]

end RoundTrip

section RoundTripInstance

open Reference

/-- The message of the crate's documentation example. -/
def docMessage : LXMessage :=
  .withBytes (List.Vector.replicate 16 0x11)
    (List.Vector.replicate 16 0x22) (.fin 1700000000) [0x68, 0x69]
    [0x68, 0x65, 0x6c, 0x6c, 0x6f] (.map [])

def docPayload : Bytes :=
  [0x94, 0xcb, 0x41, 0xd9, 0x54, 0xfc, 0x40, 0x00, 0x00, 0x00, 0xc4, 0x02,
   0x68, 0x69, 0xc4, 0x05, 0x68, 0x65, 0x6c, 0x6c, 0x6f, 0x80]

/-- The example on the wire. -/
def docFrame : Bytes :=
  frame docMessage.destinationHash docMessage.sourceHash docSignature
    docPayload

theorem docMessage_encodeSigned :
    docMessage.encodeSigned platform docKey (fun _ => 0)
      = (.ok docFrame,
        { docMessage with
          messageId := some (fullHash platform
            (docMessage.destinationHash.toList
              ++ docMessage.sourceHash.toList ++ docPayload))
          signature := some docSignature }) := by
  decide +kernel

/-- The example goes through the codec, and its Ed25519 signature
verifies. -/
theorem decode_encodeSigned_doc :
    ∃ d, decode platform docFrame = .ok d
      ∧ d.content = docMessage.content
      ∧ d.signature = some docSignature
      ∧ d.verify platform docPublic = .ok true := by
  obtain ⟨d, hd, hsame, hv, _, _⟩ := decode_encodeSigned
    platform_rmpvCodec platform_signsHonestly docMessage _ docKey
    (fun _ => 0) docFrame docMessage_encodeSigned
  have hkey : platform.verifyingKey docKey = docPublic :=
    Equiv.swap_apply_left docKey docPublic
  rw [hkey] at hv
  exact ⟨d, hd, hsame.content, hsame.signature, hv⟩

end RoundTripInstance

-- ====================================================== two identities

section Identity

variable {P : Platform}

/-- The payload array of a frame. -/
def payloadArray (P : Platform) (bytes : Bytes) : List Value :=
  match P.readValue
      (bytes.drop (destinationLength * 2 + signatureLength)) with
  | .ok (.array values) => values
  | _ => []

/-- The timestamp is a double, title and content are binaries: what this
encoder emits. -/
def canonicalPayload (P : Platform) (bytes : Bytes) : Bool :=
  match payloadArray P bytes with
  | .f64 _ :: .binary _ :: .binary _ :: _ => true
  | _ => false

/-- The string `decode` hashes into the identity of `m`, read from
`bytes`. -/
def decodedPreimage (P : Platform) (bytes : Bytes) (m : LXMessage) :
    Bytes :=
  messageIdPreimage m.destinationHash m.sourceHash
    ((packPayloadValues P ((payloadArray P bytes).take 4)).toOption.getD
      [])

/-- The string `verify` and `validate_stamp` hash into it. -/
def recomputedPreimage (P : Platform) (m : LXMessage) : Bytes :=
  messageIdPreimage m.destinationHash m.sourceHash
    ((m.packPayload P false).toOption.getD [])

/-- Both identities, spelled out for an accepted frame. -/
theorem decode_identities {bytes : Bytes} {m : LXMessage}
    (h : decode P bytes = .ok m) :
    ∃ v0 v1 v2 fields rest packed,
      payloadArray P bytes = v0 :: v1 :: v2 :: fields :: rest
      ∧ v0.toMessageF64 = .ok m.timestamp
      ∧ v1.toMessageBytes = .ok m.title
      ∧ v2.toMessageBytes = .ok m.content
      ∧ m.fields = fields
      ∧ P.writeValue (.array [v0, v1, v2, fields]) = .ok packed
      ∧ m.messageId = some (P.sha256 (messageIdPreimage
          m.destinationHash m.sourceHash packed)) := by
  obtain ⟨d, s, g, payload, _, rfl, hb⟩ := decode_cases h
  obtain ⟨v0, v1, v2, fields, rest, timestamp, title, content, stamp,
    packed, hr, ht, hi, hc, hw, _, rfl⟩ := decodeBody_cases hb
  refine ⟨v0, v1, v2, fields, rest, packed, ?_, ht, hi, hc, rfl, hw, rfl⟩
  unfold payloadArray
  rw [frame_payload, hr]

/-- A value that converts to what the encoder would write it as is that
value already. -/
theorem canonicalPayload_iff {bytes : Bytes} {v0 v1 v2 fields : Value}
    {rest : List Value} {t : F64} {title content : Bytes}
    (ha : payloadArray P bytes = v0 :: v1 :: v2 :: fields :: rest)
    (ht : v0.toMessageF64 = .ok t) (hi : v1.toMessageBytes = .ok title)
    (hc : v2.toMessageBytes = .ok content) :
    canonicalPayload P bytes = true ↔
      [v0, v1, v2, fields]
        = [.f64 t, .binary title, .binary content, fields] := by
  unfold canonicalPayload
  rw [ha]
  constructor
  · intro hcan
    split at hcan
    case h_2 => cases hcan
    case h_1 heq =>
      cases heq
      cases ht
      cases hi
      cases hc
      rfl
  · intro heq
    injection heq with h0 heq
    injection heq with h1 heq
    injection heq with h2 _
    subst h0 h1 h2
    rfl

/-- On a canonical frame the stored identity is the recomputed one. -/
theorem recomputedId_of_canonical {bytes : Bytes} {m : LXMessage}
    (h : decode P bytes = .ok m) (hcan : canonicalPayload P bytes = true) :
    ∃ id, m.messageId = some id ∧ m.recomputedId P = .ok id := by
  obtain ⟨v0, v1, v2, fields, rest, packed, ha, ht, hi, hc, rfl, hw, hid⟩ :=
    decode_identities h
  rw [canonicalPayload_iff ha ht hi hc] at hcan
  rw [hcan] at hw
  refine ⟨_, hid, ?_⟩
  have hp : m.packPayload P false = .ok packed := by
    simpa [packPayload, packPayloadValues] using hw
  unfold recomputedId
  rw [hp]
  rfl

/-- The stored identity of a decoded message is the one `verify` and
`validate_stamp` recompute exactly when the frame is canonical. -/
theorem messageId_eq_recomputedId_iff (hP : RmpvCodec P) (bytes : Bytes)
    (m : LXMessage) (h : decode P bytes = .ok m)
    (hcol : NoCollision P (decodedPreimage P bytes m)
      (recomputedPreimage P m)) :
    (∃ id, m.messageId = some id ∧ m.recomputedId P = .ok id)
      ↔ canonicalPayload P bytes = true := by
  refine ⟨?_, recomputedId_of_canonical h⟩
  rintro ⟨id, hid, hre⟩
  obtain ⟨v0, v1, v2, fields, rest, packed, ha, ht, hi, hc, rfl, hw, hid'⟩ :=
    decode_identities h
  obtain ⟨repacked, hp⟩ := hP.packPayload_ok m false
  -- both preimages, with the packed payloads in place
  have hdec : decodedPreimage P bytes m
      = messageIdPreimage m.destinationHash m.sourceHash packed := by
    unfold decodedPreimage packPayloadValues
    rw [ha, List.take_succ_cons, List.take_succ_cons,
      List.take_succ_cons, List.take_succ_cons, List.take_zero,
      writeMsgpack_eq_ok.mpr hw]
    rfl
  have hrec : recomputedPreimage P m
      = messageIdPreimage m.destinationHash m.sourceHash repacked := by
    unfold recomputedPreimage
    rw [hp]
    rfl
  have hsha : P.sha256 (decodedPreimage P bytes m)
      = P.sha256 (recomputedPreimage P m) := by
    unfold recomputedId at hre
    rw [hp] at hre
    injection hre with hre
    rw [hid] at hid'
    injection hid' with hid'
    rw [hdec, hrec, ← hid', ← hre]
    rfl
  have heq := hcol hsha
  rw [hdec, hrec] at heq
  have hpacked : packed = repacked := List.append_cancel_left heq
  rw [canonicalPayload_iff ha ht hi hc]
  have hwm : P.writeValue (.array [.f64 m.timestamp, .binary m.title,
      .binary m.content, m.fields]) = .ok repacked := by
    simpa [packPayload, packPayloadValues] using hp
  have hval := hP.write_inj (hw.trans (hpacked ▸ hwm.symm))
  injection hval

end Identity

section IdentityInstance

open Reference

/-- The documentation example with its timestamp written as an
integer. -/
def integerFrame : Bytes :=
  frame docMessage.destinationHash docMessage.sourceHash docSignature
    [0x94, 0xce, 0x65, 0x53, 0xf1, 0x00, 0xc4, 0x02, 0x68, 0x69, 0xc4,
     0x05, 0x68, 0x65, 0x6c, 0x6c, 0x6f, 0x80]

/-- What `decode` makes of it. -/
noncomputable def integerMessage : LXMessage :=
  { docMessage with
    signature := some docSignature
    messageId := some (fullHash platform (integerFrame.take 32
      ++ integerFrame.drop 96)) }

theorem decode_integerFrame :
    decode platform integerFrame = .ok integerMessage := by
  decide +kernel

/-- The identity `decode` stores is not the one `verify` recomputes. -/
theorem integerFrame_identities_differ :
    ∃ m, decode platform integerFrame = .ok m
      ∧ ¬ ∃ id, m.messageId = some id ∧ m.recomputedId platform = .ok id := by
  refine ⟨integerMessage, decode_integerFrame, ?_⟩
  rintro ⟨id, hid, hre⟩
  have hne : ∀ id, integerMessage.messageId = some id →
      integerMessage.recomputedId platform ≠ .ok id := by
    intro id h
    injection h with h
    subst h
    decide +kernel
  exact hne id hid hre

/-- The two hashed strings of the example do not collide, so the
criterion applies to it. -/
theorem messageId_eq_recomputedId_iff_integerFrame :
    (∃ id, integerMessage.messageId = some id
        ∧ integerMessage.recomputedId platform = .ok id)
      ↔ canonicalPayload platform integerFrame = true := by
  refine messageId_eq_recomputedId_iff platform_rmpvCodec integerFrame
    integerMessage decode_integerFrame ?_
  intro h
  have hne : platform.sha256 (decodedPreimage platform integerFrame
      integerMessage) ≠ platform.sha256 (recomputedPreimage platform
        integerMessage) := by
    decide +kernel
  exact absurd h hne

end IdentityInstance

end Lxmf
