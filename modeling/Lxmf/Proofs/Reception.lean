/-
How inbound bytes are told apart, and when they are mistaken.

# A cascade without tags

Link data is tried as a message, a propagated message, a propagation
resource, a request and a response, in this order, and the first reading
that succeeds decides. A message is a frame of two hashes and a
signature, which are arbitrary, so that only the bytes from offset 96 on
are checked. Any encoding long enough to have an array of the right
shape at that offset is therefore taken for a message, and a sender who
encrypts, or chooses a request's data, can produce one. The remaining
four formats are told apart by the types of their first two fields,
except that a response whose data is a list of binaries reads as a
propagation resource.
-/
import Lxmf.Library.Except
import Lxmf.Proofs.Transport

namespace Lxmf

open LXMessage

-- ======================================================== message shape

/-- The conversions of the message codec that succeed. -/
def Value.IsMessageNumber (v : Value) : Prop := ∃ t, v.toMessageF64 = .ok t
def Value.IsMessageBytes (v : Value) : Prop :=
  ∃ b, v.toMessageBytes = .ok b

/-- From the offset of a message's payload on, the bytes hold an array
of a number, two byte strings, anything, and a byte string if there is
a fifth element. -/
def MessageShaped (P : Platform) (bytes : Bytes) : Prop :=
  destinationLength * 2 + signatureLength < bytes.length
  ∧ ∃ v0 v1 v2 fields rest,
    P.readValue (bytes.drop (destinationLength * 2 + signatureLength))
      = .ok (.array (v0 :: v1 :: v2 :: fields :: rest))
    ∧ v0.IsMessageNumber ∧ v1.IsMessageBytes ∧ v2.IsMessageBytes
    ∧ ∀ v ∈ rest.head?, v.IsMessageBytes

section Shape

variable {P : Platform}

theorem decodeStamp_isOk_iff {rest : List Value} :
    (∃ stamp, decodeStamp rest = .ok stamp)
      ↔ ∀ v ∈ rest.head?, v.IsMessageBytes := by
  cases rest with
  | nil => simp [decodeStamp]
  | cons v rest =>
      simp only [decodeStamp, List.head?_cons, Option.mem_some_iff,
        forall_eq']
      unfold Value.IsMessageBytes
      cases v.toMessageBytes with
      | error e => simp [Except.map]
      | ok b => simp [Except.map]

/-- `decode` accepts exactly the bytes of this shape. -/
theorem decode_isOk_iff (hP : RmpvCodec P) (bytes : Bytes) :
    (∃ m, decode P bytes = .ok m) ↔ MessageShaped P bytes := by
  constructor
  · rintro ⟨m, h⟩
    obtain ⟨d, s, g, payload, hne, rfl, hbody⟩ := decode_cases h
    refine ⟨?_, ?_⟩
    · have hpos := List.length_pos_iff.mpr hne
      simp only [frame, List.length_append, List.Vector.toList_length,
        destinationLength, signatureLength]
      omega
    · rw [frame_payload]
      unfold decodeBody at hbody
      obtain ⟨v, hread, hbody⟩ := Except.bind_eq_ok.mp hbody
      split at hbody
      case h_2 => cases hbody
      case h_1 payloadArray =>
        unfold decodePayload at hbody
        split at hbody
        case h_2 => cases hbody
        case h_1 v0 v1 v2 fields rest =>
          obtain ⟨t, ht, hbody⟩ := Except.bind_eq_ok.mp hbody
          obtain ⟨title, hi, hbody⟩ := Except.bind_eq_ok.mp hbody
          obtain ⟨text, hc, hbody⟩ := Except.bind_eq_ok.mp hbody
          obtain ⟨stamp, hs, _⟩ := Except.bind_eq_ok.mp hbody
          exact ⟨v0, v1, v2, fields, rest, readMsgpack_eq_ok.mp hread,
            ⟨t, ht⟩, ⟨title, hi⟩, ⟨text, hc⟩,
            decodeStamp_isOk_iff.mp ⟨stamp, hs⟩⟩
  · rintro ⟨hlen, v0, v1, v2, fields, rest, hread, ⟨t, ht⟩, ⟨title, hi⟩,
      ⟨text, hc⟩, hrest⟩
    obtain ⟨stamp, hs⟩ := decodeStamp_isOk_iff.mpr hrest
    obtain ⟨packed, hpacked⟩ :=
      hP.write_ok (.array [v0, v1, v2, fields])
    have hwrite : packPayloadValues P [v0, v1, v2, fields] = .ok packed :=
      writeMsgpack_eq_ok.mpr hpacked
    simp only [destinationLength, signatureLength] at hlen
    have h₁ : toFixed destinationLength (bytes.take destinationLength)
        = some ⟨bytes.take destinationLength, by
          simp [destinationLength]; omega⟩ := dif_pos _
    have h₂ : toFixed destinationLength
          ((bytes.drop destinationLength).take destinationLength)
        = some ⟨(bytes.drop destinationLength).take destinationLength, by
          simp [destinationLength]; omega⟩ := dif_pos _
    have h₃ : toFixed signatureLength
          ((bytes.drop (destinationLength * 2)).take signatureLength)
        = some ⟨(bytes.drop (destinationLength * 2)).take signatureLength,
          by simp [destinationLength, signatureLength]; omega⟩ := dif_pos _
    have hlong : ¬ bytes.length
        < destinationLength * 2 + signatureLength + 1 := by
      simp only [destinationLength, signatureLength]
      omega
    unfold decode
    rw [h₁, h₂, h₃]
    simp only [if_neg hlong, readMsgpack_eq_ok.mpr hread, decodePayload,
      ht, hi, hc, hs, hwrite, Except.ok_bind]
    exact ⟨_, rfl⟩

end Shape

-- ================================================== the later readings

section Readings

variable {P : Platform} {bytes : Bytes}

/-- The data of a response that a propagation resource could carry. -/
def BinaryList (v : Value) : Prop :=
  ∃ items : List Bytes, v = .array (items.map .binary)

/-- The item loop of a propagation resource. -/
theorem mapM_binary_eq_ok {vs : List Value} {items : List Bytes} :
    (vs.mapM fun v => match v with
        | .binary b => (.ok b : Except RnsError Bytes)
        | _ => .error (.lxmf .invalidPayload)) = .ok items
      ↔ vs = items.map .binary := by
  induction vs generalizing items with
  | nil =>
      rw [List.mapM_nil]
      cases items with
      | nil => exact ⟨fun _ => rfl, fun _ => rfl⟩
      | cons b items => exact ⟨fun h => (nomatch h), fun h => (nomatch h)⟩
  | cons v vs ih =>
      rw [List.mapM_cons]
      constructor
      · intro h
        obtain ⟨b, hb, htail⟩ := Except.bind_eq_ok.mp h
        obtain ⟨rest, hrest, hitems⟩ := Except.bind_eq_ok.mp htail
        injection hitems with hitems
        split at hb
        case h_1 b' =>
          injection hb with hb
          rw [← hitems, ih.mp hrest, hb]
          rfl
        case h_2 => cases hb
      · intro h
        cases items with
        | nil => cases h
        | cons b items =>
            injection h with hv hvs
            rw [hv, ih.mpr hvs]
            rfl

theorem readRns_eq_ok {v : Value} :
    readRns P bytes = .ok v ↔ P.readValue bytes = .ok v :=
  Except.mapError_eq_ok

theorem readPropagationArray_of_read {v0 v1 : Value} {rest : List Value}
    (h : P.readValue bytes = .ok (.array (v0 :: v1 :: rest))) :
    readPropagationArray P bytes = .ok (v0 :: v1 :: rest) := by
  unfold readPropagationArray
  rw [readRns_eq_ok.mpr h, Except.ok_bind]
  rfl

/-- Only an array second is a propagation resource. -/
theorem decodePropagationResourcePayload_isOk_iff {v0 v1 : Value}
    {rest : List Value}
    (h : P.readValue bytes = .ok (.array (v0 :: v1 :: rest))) :
    (∃ items, decodePropagationResourcePayload P bytes = .ok items)
      ↔ BinaryList v1 := by
  unfold decodePropagationResourcePayload BinaryList
  rw [readPropagationArray_of_read h, Except.ok_bind]
  simp only [List.getD_cons_succ, List.getD_cons_zero]
  constructor
  · rintro ⟨items, hitems⟩
    split at hitems
    case h_1 messages =>
      exact ⟨items, congrArg Value.array (mapM_binary_eq_ok.mp hitems)⟩
    case h_2 => cases hitems
  · rintro ⟨items, rfl⟩
    exact ⟨items, mapM_binary_eq_ok.mpr rfl⟩

theorem decodePropagatedPayload_of_read {timestamp : F64} {data : Bytes}
    (h : P.readValue bytes
      = .ok (.array [.f64 timestamp, .array [.binary data]]))
    (sourceHash : Option Hash16) (countClientReceive : Bool) :
    decodePropagatedPayload P bytes sourceHash countClientReceive
      = .ok (.propagated timestamp data (fullHash P data) sourceHash
        countClientReceive) := by
  unfold decodePropagatedPayload
  rw [readPropagationArray_of_read h, Except.ok_bind]
  rfl

/-- A propagated message starts with a time and an array. -/
theorem decodePropagatedPayload_isError {v0 v1 : Value} {rest : List Value}
    (h : P.readValue bytes = .ok (.array (v0 :: v1 :: rest)))
    (hv : (∀ t, v0 ≠ .f64 t) ∨ ∀ vs, v1 ≠ .array vs)
    (sourceHash : Option Hash16) (countClientReceive : Bool) :
    decodePropagatedPayload P bytes sourceHash countClientReceive
      = .error (.lxmf .invalidPayload) := by
  unfold decodePropagatedPayload
  rw [readPropagationArray_of_read h, Except.ok_bind]
  simp only [List.getD_cons_succ, List.getD_cons_zero]
  split
  case h_1 timestamp data =>
    rcases hv with hv | hv
    · exact absurd rfl (hv timestamp)
    · exact absurd rfl (hv _)
  case h_2 => rfl

theorem readFields_of_read {kind : String} {n : Nat} {vs : List Value}
    (h : P.readValue bytes = .ok (.array vs)) :
    readFields P kind n bytes
      = if vs.length < n then
          .error (.msgpack (kind ++ " missing fields"))
        else .ok vs := by
  unfold readFields
  rw [readRns_eq_ok.mpr h, Except.ok_bind]
  rfl

theorem decodeRequest_of_read {req : RnsRequest}
    (h : P.readValue bytes = .ok (.array
      [.f64 req.requestedAt, .binary req.pathHash.toList, req.data]))
    (requestId : Hash16) :
    decodeRequestBytesWithRequestId P bytes requestId
      = .ok { req with requestId := requestId } := by
  unfold decodeRequestBytesWithRequestId
  rw [readFields_of_read h, if_neg (by simp), Except.ok_bind]
  simp only [List.getD_cons_zero, List.getD_cons_succ, valueToF64,
    valueToFixedBytes_binary, orMsgpack, Except.ok_bind]
  rfl

theorem receivedRequest_of_read {req : RnsRequest}
    (h : P.readValue bytes = .ok (.array
      [.f64 req.requestedAt, .binary req.pathHash.toList, req.data]))
    (destinationHash : Hash16) (sourceHash : Option Hash16) :
    receivedRequest P destinationHash sourceHash bytes
      = [fileRequest P { req with
          requestId := requestIdForDestination P destinationHash bytes }
          sourceHash] := by
  unfold receivedRequest decodeRequestBytesForDestination
  rw [decodeRequest_of_read h]

/-- A response is too short for a request. -/
theorem receivedRequest_of_pair {v0 v1 : Value}
    (h : P.readValue bytes = .ok (.array [v0, v1]))
    (destinationHash : Hash16) (sourceHash : Option Hash16) :
    receivedRequest P destinationHash sourceHash bytes = [] := by
  unfold receivedRequest decodeRequestBytesForDestination
    decodeRequestBytesWithRequestId
  rw [readFields_of_read h, if_pos (by simp), Except.error_bind]

theorem receivedResponse_of_read {resp : RnsResponse}
    (h : P.readValue bytes
      = .ok (.array [.binary resp.requestId.toList, resp.data]))
    (sourceHash : Option Hash16) :
    receivedResponse P sourceHash bytes = [.response resp sourceHash] := by
  have hdecode : decodeResponseBytes P bytes = .ok resp := by
    unfold decodeResponseBytes
    rw [readFields_of_read h, if_neg (by simp), Except.ok_bind]
    simp only [List.getD_cons_zero, List.getD_cons_succ,
      valueToFixedBytes_binary, orMsgpack, Except.ok_bind]
    rfl
  unfold receivedResponse
  rw [hdecode]

end Readings

-- ====================================================== classification

/-- Every receiver takes the bytes for this propagated message, as link
data and as a completed resource. -/
def ReadAsPropagated (P : Platform) (bytes : Bytes) (timestamp : F64)
    (lxmData : Bytes) : Prop :=
  ∀ linkHash sourceHash countClientReceive isResponse,
    receivedLinkData P linkHash sourceHash countClientReceive bytes
      = [.propagated timestamp lxmData (fullHash P lxmData) sourceHash
          countClientReceive]
    ∧ receivedCompletion P none isResponse sourceHash countClientReceive
        bytes
      = [.propagated timestamp lxmData (fullHash P lxmData) sourceHash
          countClientReceive]

/-- Every receiver takes the link data for a request with these
contents, under the id its link gives it. -/
def ReadAsRequest (P : Platform) (bytes : Bytes) (req : RnsRequest) :
    Prop :=
  ∀ linkHash sourceHash countClientReceive,
    receivedLinkData P linkHash sourceHash countClientReceive bytes
      = [fileRequest P { req with
          requestId := requestIdForDestination P linkHash bytes }
          sourceHash]

/-- Every receiver takes the link data for this response. -/
def ReadAsResponse (P : Platform) (bytes : Bytes) (resp : RnsResponse) :
    Prop :=
  ∀ linkHash sourceHash countClientReceive,
    receivedLinkData P linkHash sourceHash countClientReceive bytes
      = [.response resp sourceHash]

section Classification

variable {P : Platform} {bytes : Bytes}

/-- Bytes of the shape of a message are a message. -/
theorem receivedLinkData_of_shaped (hP : RmpvCodec P)
    (h : MessageShaped P bytes) (linkHash : Hash16)
    (sourceHash : Option Hash16) (countClientReceive : Bool) :
    ∃ m, receivedLinkData P linkHash sourceHash countClientReceive bytes
      = [.message m] := by
  obtain ⟨m, hm⟩ := (decode_isOk_iff hP bytes).mpr h
  refine ⟨m, ?_⟩
  unfold receivedLinkData receivedContent
  rw [hm]

/-- Of other bytes the first reading says nothing. -/
theorem receivedContent_of_not_shaped (hP : RmpvCodec P)
    (h : ¬ MessageShaped P bytes) (sourceHash : Option Hash16)
    (countClientReceive : Bool) :
    receivedContent P sourceHash countClientReceive bytes
      = match decodePropagatedPayload P bytes sourceHash
          countClientReceive with
        | .ok received => [received]
        | .error _ =>
            match decodePropagationResourcePayload P bytes with
            | .ok _ => [.propagationResource bytes sourceHash]
            | .error _ => [] := by
  unfold receivedContent
  cases hdecode : decode P bytes with
  | ok m => exact absurd ((decode_isOk_iff hP bytes).mp ⟨m, hdecode⟩) h
  | error e => rfl

theorem decodePropagationResourcePayload_of_not {v0 v1 : Value}
    {rest : List Value}
    (h : P.readValue bytes = .ok (.array (v0 :: v1 :: rest)))
    (hv : ¬ BinaryList v1) :
    ∃ e, decodePropagationResourcePayload P bytes = .error e := by
  cases hdecode : decodePropagationResourcePayload P bytes with
  | ok items =>
      exact absurd ((decodePropagationResourcePayload_isOk_iff h).mp
        ⟨items, hdecode⟩) hv
  | error e => exact ⟨e, rfl⟩

theorem not_binaryList_binary (b : Bytes) : ¬ BinaryList (.binary b) := by
  rintro ⟨items, h⟩
  cases h

/-- Bytes that are neither a message nor a propagated one are left to
the last two readings. -/
theorem receivedContent_eq_nil (hP : RmpvCodec P) {v0 v1 : Value}
    {rest : List Value}
    (h : P.readValue bytes = .ok (.array (v0 :: v1 :: rest)))
    (hshape : ¬ MessageShaped P bytes)
    (hv : (∀ t, v0 ≠ .f64 t) ∨ ∀ vs, v1 ≠ .array vs)
    (hlist : ¬ BinaryList v1) (sourceHash : Option Hash16)
    (countClientReceive : Bool) :
    receivedContent P sourceHash countClientReceive bytes = [] := by
  obtain ⟨e, he⟩ := decodePropagationResourcePayload_of_not h hlist
  rw [receivedContent_of_not_shaped hP hshape,
    decodePropagatedPayload_isError h hv]
  simp only [he]

theorem readAsPropagated_iff (hP : RmpvCodec P) {m : LXMessage}
    {encrypted : Bytes} {timestamp : F64} {stamp : Option Bytes}
    (h : m.propagationPackedFromEncrypted P encrypted timestamp stamp
      = .ok bytes) :
    ReadAsPropagated P bytes timestamp
        (m.destinationHash.toList ++ encrypted ++ stamp.getD [])
      ↔ ¬ MessageShaped P bytes := by
  have hread := hP.read_write _ _ (writeMsgpack_eq_ok.mp h)
  constructor
  · intro hall hshape
    obtain ⟨d, hd⟩ := receivedLinkData_of_shaped hP hshape
      m.destinationHash none true
    rw [(hall m.destinationHash none true false).1] at hd
    cases hd
  · intro hshape linkHash sourceHash countClientReceive isResponse
    have hcontent :
        receivedContent P sourceHash countClientReceive bytes
          = [.propagated timestamp
              (m.destinationHash.toList ++ encrypted ++ stamp.getD [])
              (fullHash P (m.destinationHash.toList ++ encrypted
                ++ stamp.getD [])) sourceHash countClientReceive] := by
      rw [receivedContent_of_not_shaped hP hshape,
        decodePropagatedPayload_of_read hread]
    refine ⟨?_, hcontent⟩
    unfold receivedLinkData
    rw [hcontent]

theorem readAsRequest_iff (hP : RmpvCodec P) {req : RnsRequest}
    (h : encodeRequestBytes P req = .ok bytes) :
    ReadAsRequest P bytes req ↔ ¬ MessageShaped P bytes := by
  have hread := hP.read_write _ _ (Except.mapError_eq_ok.mp h)
  constructor
  · intro hall hshape
    obtain ⟨d, hd⟩ := receivedLinkData_of_shaped hP hshape req.pathHash
      none true
    rw [hall req.pathHash none true] at hd
    injection hd with hd
    unfold fileRequest at hd
    split at hd
    case h_1 =>
      split at hd
      case isTrue => cases hd
      case isFalse => cases hd
    case h_2 => cases hd
  · intro hshape linkHash sourceHash countClientReceive
    -- the path hash is a binary, so the second field is no list
    have hcontent := receivedContent_eq_nil hP hread hshape
      (.inr fun vs hvs => nomatch hvs)
      (not_binaryList_binary req.pathHash.toList) sourceHash
      countClientReceive
    unfold receivedLinkData
    rw [hcontent]
    simp only [receivedRequest_of_read hread]

theorem readAsResponse_iff (hP : RmpvCodec P) {resp : RnsResponse}
    (h : encodeResponseBytes P resp = .ok bytes) :
    ReadAsResponse P bytes resp
      ↔ ¬ MessageShaped P bytes ∧ ¬ BinaryList resp.data := by
  have hread := hP.read_write _ _ (Except.mapError_eq_ok.mp h)
  have herror := decodePropagatedPayload_isError hread
    (.inl fun t ht => nomatch ht)
  constructor
  · intro hall
    have hshape : ¬ MessageShaped P bytes := by
      intro hshape
      obtain ⟨d, hd⟩ := receivedLinkData_of_shaped hP hshape
        resp.requestId none true
      rw [hall resp.requestId none true] at hd
      cases hd
    refine ⟨hshape, ?_⟩
    intro hlist
    obtain ⟨items, hitems⟩ :=
      (decodePropagationResourcePayload_isOk_iff hread).mpr hlist
    have hread' := hall resp.requestId none true
    unfold receivedLinkData at hread'
    rw [receivedContent_of_not_shaped hP hshape, herror] at hread'
    simp only [hitems] at hread'
    cases hread'
  · rintro ⟨hshape, hlist⟩ linkHash sourceHash countClientReceive
    have hcontent := receivedContent_eq_nil hP hread hshape
      (.inl fun t ht => nomatch ht) hlist sourceHash countClientReceive
    unfold receivedLinkData
    rw [hcontent]
    simp only [receivedRequest_of_pair hread,
      receivedResponse_of_read hread]

end Classification

/-- What the three encoders write is read as what it is exactly when it
does not have the shape of a message and, for a response, its data is
not a list of binaries. -/
theorem encoded_readAs_iff (P : Platform) (hP : RmpvCodec P) :
    (∀ (m : LXMessage) encrypted timestamp stamp bytes,
      m.propagationPackedFromEncrypted P encrypted timestamp stamp
        = .ok bytes →
      (ReadAsPropagated P bytes timestamp
          (m.destinationHash.toList ++ encrypted ++ stamp.getD [])
        ↔ ¬ MessageShaped P bytes))
    ∧ (∀ req bytes, encodeRequestBytes P req = .ok bytes →
      (ReadAsRequest P bytes req ↔ ¬ MessageShaped P bytes))
    ∧ (∀ resp bytes, encodeResponseBytes P resp = .ok bytes →
      (ReadAsResponse P bytes resp
        ↔ ¬ MessageShaped P bytes ∧ ¬ BinaryList resp.data)) :=
  ⟨fun _ _ _ _ _ h => readAsPropagated_iff hP h,
    fun _ _ h => readAsRequest_iff hP h,
    fun _ _ h => readAsResponse_iff hP h⟩

section Instance

open Reference

/-- An encrypted payload of twenty bytes, too short to be mistaken. -/
theorem encoded_readAs_iff_doc :
    ∃ bytes, (LXMessage.new (List.Vector.replicate 16 0x11)
        (List.Vector.replicate 16 0x22)).propagationPackedFromEncrypted
          platform (List.replicate 20 0x44) (.fin 1) none = .ok bytes
      ∧ ReadAsPropagated platform bytes (.fin 1)
        (List.replicate 16 0x11 ++ List.replicate 20 0x44) := by
  refine ⟨_, rfl, ?_⟩
  refine ((encoded_readAs_iff platform platform_rmpvCodec).1
    (LXMessage.new (List.Vector.replicate 16 0x11)
      (List.Vector.replicate 16 0x22)) (List.replicate 20 0x44) (.fin 1)
    none _ rfl).mpr ?_
  rintro ⟨hlen, _⟩
  revert hlen
  decide +kernel

/-- An encrypted payload with an empty message's payload where the frame
of a message has it. -/
def disguised : Bytes :=
  List.replicate 67 0 ++ [0x94, 0x00, 0xc4, 0x00, 0xc4, 0x00, 0x80]

theorem disguised_decodes :
    (do
      let bytes ← (LXMessage.new (List.Vector.replicate 16 0x11)
        (List.Vector.replicate 16 0x22)).propagationPackedFromEncrypted
          platform disguised (.fin 1) none
      let _ ← decode platform bytes
      return ()) = (.ok () : Except LXMFError Unit) := by
  decide +kernel

/-- It is read as a message. -/
theorem disguised_readAs_message :
    ¬ ∀ (m : LXMessage) encrypted timestamp stamp bytes,
      m.propagationPackedFromEncrypted platform encrypted timestamp stamp
        = .ok bytes →
      ReadAsPropagated platform bytes timestamp
        (m.destinationHash.toList ++ encrypted ++ stamp.getD []) := by
  intro h
  obtain ⟨bytes, hbytes, hdecodes⟩ := Except.bind_eq_ok.mp disguised_decodes
  obtain ⟨d, hd, _⟩ := Except.bind_eq_ok.mp hdecodes
  have hshape := (decode_isOk_iff platform_rmpvCodec bytes).mp ⟨d, hd⟩
  have hread := h _ _ _ _ bytes hbytes
  exact (readAsPropagated_iff platform_rmpvCodec hbytes).mp hread hshape

end Instance

end Lxmf
