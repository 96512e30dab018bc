/-
One id for a request, whatever way it takes.

The id is registered before the request is sent and computed again at
both ends, from the request, from its bytes or from the packet they are
in; the bytes hashed are the same each time. A request too long for a
packet takes the id with it: the advertisement of the resource carries
it, the assembly keeps it, and the completion sets it over the one the
bytes would give.
-/
import Lxmf.Router.State
import Lxmf.RequestDelivery
import Lxmf.Proofs.HashUpdates
import Lxmf.Proofs.Reception

namespace Lxmf

open Assembly (piece pieceCount)

variable {P : Platform}

-- =============================================================== frames

/-- The four bytes of a `u32`, read. -/
theorem u32FromBeBytes_toBeBytes {n : Nat} (h : n < 2 ^ 32) :
    u32FromBeBytes (u32ToBeBytes n) = n := by
  simp only [u32FromBeBytes, u32ToBeBytes, List.foldl_cons, List.foldl_nil,
    UInt8.toNat_ofNat']
  omega

/-- A number as the field it is written to. -/
def u32Field (n : Nat) : FixedBytes 4 := ⟨u32ToBeBytes n, rfl⟩

theorem u32Field_value {n : Nat} (h : n < 2 ^ 32) :
    u32FromBeBytes (u32Field n).toList = n :=
  u32FromBeBytes_toBeBytes h

theorem splitFixed_u32 (n : Nat) (rest : Bytes) :
    splitFixed 4 (u32ToBeBytes n ++ rest) = some (u32Field n, rest) :=
  splitFixed_append (u32Field n) rest

namespace ResourceAdvertisement

variable {advert : ResourceAdvertisement}

/-- The numbers of the advertisement are `u32`s. -/
structure Bounded (advert : ResourceAdvertisement) : Prop where
  totalLen : advert.totalLen < 2 ^ 32
  partSize : advert.partSize < 2 ^ 32
  totalParts : advert.totalParts < 2 ^ 32

/-- The flags, read bit by bit. -/
theorem flags_bits (advert : ResourceAdvertisement) :
    decide (advert.flags &&& flagHasRequestId ≠ 0) = advert.requestId.isSome
      ∧ decide (advert.flags &&& flagIsResponse ≠ 0) = advert.isResponse
      ∧ decide (advert.flags &&& flagIsRequest ≠ 0) = advert.isRequest := by
  unfold flags
  generalize advert.requestId.isSome = hasRequestId
  cases hasRequestId <;> cases advert.isResponse
    <;> cases advert.isRequest <;> decide

theorem decodeFields_encode (h : advert.Bounded) :
    decodeFields advert.flags (advert.resourceId.toList
      ++ ((advert.requestId.getD
          (List.Vector.replicate destinationLength 0)).toList
        ++ (u32ToBeBytes advert.totalLen ++ (u32ToBeBytes advert.totalParts
          ++ u32ToBeBytes advert.partSize)))) = some advert := by
  obtain ⟨hrequest, hresponse, hisRequest⟩ := flags_bits advert
  have hlast := splitFixed_u32 advert.partSize []
  rw [List.append_nil] at hlast
  unfold decodeFields
  simp only [splitFixed_append, splitFixed_u32, hlast,
    Option.bind_eq_bind, Option.bind_some, Option.pure_def, hresponse,
    hisRequest]
  have hid : (if advert.flags &&& flagHasRequestId ≠ 0
      then some (advert.requestId.getD
        (List.Vector.replicate destinationLength 0)) else none)
      = advert.requestId := by
    cases hsome : advert.requestId with
    | none =>
        rw [hsome] at hrequest
        exact if_neg (of_decide_eq_false hrequest)
    | some id =>
        rw [hsome] at hrequest
        exact if_pos (of_decide_eq_true hrequest)
  rw [hid, u32Field_value h.totalLen, u32Field_value h.totalParts,
    u32Field_value h.partSize]

theorem decode_encode (h : advert.Bounded) :
    decode advert.encode = .ok advert := by
  have hlen : advert.encode.length = resourceAdvHeaderLen := by
    simp only [encode, u32ToBeBytes, List.length_cons, List.length_append,
      List.Vector.toList_length, List.length_nil]
    rfl
  unfold decode
  rw [hlen, if_neg (Nat.lt_irrefl _)]
  unfold encode
  dsimp only
  rw [if_neg (not_not_intro rfl), decodeFields_encode h]

end ResourceAdvertisement

theorem ResourcePart.decode_encode {part : ResourcePart}
    (h : part.partIndex < 2 ^ 32) :
    ResourcePart.decode part.encode = .ok part := by
  have hencode : part.encode = resourceVersion :: (part.resourceId.toList
      ++ (u32ToBeBytes part.partIndex ++ part.data)) := by
    unfold encode
    rw [List.append_assoc]
    rfl
  have hid : part.resourceId.toList.length = destinationLength :=
    part.resourceId.toList_length
  have hindex : (u32ToBeBytes part.partIndex).length = 4 := rfl
  have hlen : resourcePartHeaderLen ≤ part.encode.length := by
    rw [hencode, List.length_cons, List.length_append, List.length_append,
      hid, hindex]
    simp only [resourcePartHeaderLen]
    omega
  have htail : part.encode.drop (1 + destinationLength)
      = u32ToBeBytes part.partIndex ++ part.data := by
    rw [hencode, Nat.add_comm, List.drop_succ_cons, List.drop_left' hid]
  have hdata : part.encode.drop resourcePartHeaderLen = part.data := by
    show part.encode.drop (1 + destinationLength + 4) = part.data
    rw [← List.drop_drop, htail, List.drop_left' hindex]
  have hbytes : (part.encode.drop 1).take destinationLength
      = part.resourceId.toList := by
    rw [hencode, List.drop_succ_cons, List.drop_zero, List.take_left' hid]
  unfold decode
  rw [dif_pos hlen, if_pos (by rw [hencode]; rfl)]
  congr 1
  obtain ⟨resourceId, partIndex, data⟩ := part
  refine (ResourcePart.mk.injEq ..).mpr ⟨Subtype.ext hbytes, ?_, hdata⟩
  rw [htail, List.take_left' hindex]
  exact u32FromBeBytes_toBeBytes h

-- ============================================================== readings

/-- A request read from its own bytes, under an id. -/
theorem decode_encodeRequestBytes (hP : RmpvCodec P) {req : RnsRequest}
    {payload : Bytes} (h : encodeRequestBytes P req = .ok payload)
    (requestId : Hash16) :
    decodeRequestBytesWithRequestId P payload requestId
      = .ok { req with requestId := requestId } := by
  have hread := hP.read_write _ _ (Except.mapError_eq_ok.mp h)
  exact decodeRequest_of_read hread requestId

/-- A packet from a payload that fits it. -/
theorem packetFromPayload_fits (destination : Hash16) {payload : Bytes}
    (destinationType : DestinationType) (context : PacketContext)
    (h : payload.length ≤ packetMdu) :
    packetFromPayloadWithContext destination payload destinationType context
      = .ok ⟨destinationType, .data, destination, context,
        ⟨payload, h⟩⟩ := by
  unfold packetFromPayloadWithContext PacketDataBuffer.ofPayload
  rw [dif_pos h]
  rfl

theorem ensureRequestId_eq {req : RnsRequest} (payload : Bytes)
    (h : req.requestId ≠ List.Vector.replicate destinationLength 0) :
    ensureRequestId P req payload = req := by
  unfold ensureRequestId
  rw [if_neg]
  intro hzero
  refine h (Subtype.ext ?_)
  have hall := List.all_eq_true.mp hzero
  refine List.eq_replicate_iff.mpr ⟨req.requestId.toList_length, ?_⟩
  intro byte hbyte
  exact beq_iff_eq.mp (hall byte hbyte)

-- ============================================================ the marks

/-- Whatever arrives, the advertisements of this resource are this one. -/
def OnlyAdvert (own : ResourceAdvertisement) (_ : TrackerRun) :
    TrackerAction → Prop
  | .advertisement advert _ _ =>
      advert.resourceId = own.resourceId → advert = own
  | _ => True

/-- An assembly is filed under its id, and one of this resource has the
marks of the advertisement. -/
def Marked (own : ResourceAdvertisement) (id : Hash16)
    (a : ResourceAssembly) : Prop :=
  a.resourceId = id ∧ (id = own.resourceId →
    a.requestId = own.requestId ∧ a.isResponse = own.isResponse)

/-- The assemblies and the completions of this resource have the marks
of the advertisement. -/
structure RunMarked (own : ResourceAdvertisement) (s : TrackerRun) : Prop
    where
  tracker : TrackerOk (Marked own) s.tracker
  completions : ∀ e ∈ s.completions, e.2.resourceId = own.resourceId →
    e.2.requestId = own.requestId ∧ e.2.isResponse = own.isResponse

section Marks

variable {own : ResourceAdvertisement} {s s' : TrackerRun}

/-- A part changes none of the marks. -/
theorem Marked.accept {id : Hash16} {a : ResourceAssembly}
    (h : Marked own id a) (part : ResourcePart) (now : Nat) :
    Marked own id (a.accept P part now) := by
  have hmarks : (a.accept P part now).requestId = a.requestId
      ∧ (a.accept P part now).isResponse = a.isResponse := by
    unfold ResourceAssembly.accept ResourceAssembly.hashSlot
      ResourceAssembly.store
    split
    case h_1 => split <;> exact ⟨rfl, rfl⟩
    case h_2 => split <;> exact ⟨rfl, rfl⟩
  refine ⟨(accept_resourceId a part now).trans h.1, ?_⟩
  rw [hmarks.1, hmarks.2]
  exact h.2

theorem marked_blind : BookkeepingBlind (Marked own) :=
  fun _ _ _ _ _ h => h

theorem RunMarked.part (h : RunMarked own s) (part : ResourcePart)
    (now : Nat) :
    RunMarked own ((s.record (s.tracker.handlePart P part now).1).proceed
      (s.tracker.handlePart P part now).2) := by
  have hquiet : ∀ result : Except ReticulumError (Option ResourceEvent),
      (∀ c, result ≠ .ok (some (.complete c))) →
      (s.record result).completions = s.completions := by
    intro result hresult
    unfold TrackerRun.record
    split
    case h_1 c => exact absurd rfl (hresult c)
    case h_2 => rfl
  obtain ⟨result, t', heq⟩ :
      ∃ result t', s.tracker.handlePart P part now = (result, t') :=
    ⟨_, _, rfl⟩
  rw [heq]
  dsimp only
  obtain ⟨rfl, hresult⟩ | ⟨a, hlookup, -, -, hcases⟩ :=
    handlePart_cases heq
  · refine ⟨h.tracker, ?_⟩
    show ∀ e ∈ (s.record result).completions, _
    rw [hquiet result hresult]
    exact h.completions
  · have haccept : Marked own part.resourceId (a.accept P part now) :=
      (h.tracker.assemblies _ a hlookup).accept part now
    obtain ⟨-, rfl, rfl⟩ | ⟨hresult, rfl⟩ := hcases
    · refine ⟨h.tracker.conclude _, ?_⟩
      intro e he hid
      rcases List.mem_append.mp he with hold | hnew
      · exact h.completions e hold hid
      · rw [List.mem_singleton.mp hnew] at hid ⊢
        exact haccept.2 (haccept.1.symm.trans hid)
    · refine ⟨h.tracker.insert haccept (fun _ _ _ hgood => hgood)
        (h.tracker.not_completed hlookup), ?_⟩
      show ∀ e ∈ (s.record result).completions, _
      rw [hquiet result hresult]
      exact h.completions

theorem RunMarked.step (h : RunMarked own s) {action : TrackerAction}
    (honly : OnlyAdvert own s action) (happly : s.apply P action = some s') :
    RunMarked own s' := by
  cases action with
  | advertisement advert linkId now =>
      injection happly with happly
      rw [← happly]
      have hcompletions (result) :
          (s.advertise advert result).completions = s.completions := by
        unfold TrackerRun.advertise
        split <;> rfl
      refine ⟨?_, ?_⟩
      · show TrackerOk _ (s.tracker.handleAdvertisement advert linkId now).2
        unfold ResourceTracker.handleAdvertisement
        split
        case isTrue => exact h.tracker
        case isFalse hnew =>
          split
          case isTrue => exact h.tracker
          case isFalse =>
            refine h.tracker.insert ⟨rfl, fun hid => ?_⟩
              (fun _ _ _ hgood => hgood)
              fun hmem => hnew (decide_eq_true hmem)
            rw [← honly hid]
            exact ⟨rfl, rfl⟩
      · show ∀ e ∈ (s.advertise advert _).completions, _
        rw [hcompletions]
        exact h.completions
  | part part now =>
      injection happly with happly
      rw [← happly]
      exact h.part part now
  | hashUpdate update now =>
      injection happly with happly
      rw [← happly]
      exact ⟨h.tracker.handleHashUpdate marked_blind update now,
        h.completions⟩
  | cancel resourceId =>
      injection happly with happly
      rw [← happly]
      exact ⟨h.tracker.handleCancel resourceId, h.completions⟩
  | pollTimeouts now =>
      injection happly with happly
      rw [← happly]
      exact ⟨h.tracker.pollTimeouts marked_blind now, h.completions⟩

theorem runMarked_reaches {timeout : Nat}
    (h : Run.Reaches (TrackerRun.apply P) (OnlyAdvert own) (.start timeout)
      s) : RunMarked own s := by
  refine h.invariant ⟨⟨?_, ?_⟩, ?_⟩ fun _ _ _ hinv honly happly =>
    hinv.step honly happly
  · intro id a ha
    cases ha
  · intro id hid
    cases hid
  · intro e he
    cases he

end Marks

-- ========================================================= the resource

/-- The resource a request is sent as, and what its receiver makes of
it. -/
structure CarriesRequest (P : Platform) (req : RnsRequest)
    (payload : Bytes) (state : ResourceSendState) : Prop where
  /-- Each frame is read as it was written. -/
  advertRead : ResourceAdvertisement.decode state.advert.encode
    = .ok state.advert
  partsRead : ∀ part ∈ state.parts,
    ResourcePart.decode part.encode = .ok part
  /-- The payload that arrives, in whatever company, is this request. -/
  received : ∀ timeout s, Run.Reaches (TrackerRun.apply P)
      (OnlyAdvert state.advert) (.start timeout) s →
    ∀ e ∈ s.completions, e.2.resourceId = state.resourceId →
      e.2.data = payload → ∀ sourceHash countClientReceive,
      receivedCompletion P e.2.requestId e.2.isResponse sourceHash
          countClientReceive e.2.data
        = [fileRequest P req sourceHash]
  /-- Below four gigabytes the frames agree with the payload, ... -/
  agrees : payload.length < 2 ^ 32 → Announces payload state.advert
    ∧ ∀ part ∈ state.parts, part.data
      = piece state.advert.partSize payload part.partIndex
  /-- ... and where all frames agree with their payloads, what completes
  is this request. -/
  whole : ∀ content timeout s, content state.resourceId = payload →
    Run.Reaches (TrackerRun.apply P)
      (Agrees content fun advert =>
        advert.resourceId = state.resourceId → advert = state.advert)
      (.start timeout) s →
    ∀ e ∈ s.completions, e.2.resourceId = state.resourceId →
      ∀ sourceHash countClientReceive,
      receivedCompletion P e.2.requestId e.2.isResponse sourceHash
          countClientReceive e.2.data
        = [fileRequest P req sourceHash]

/-- A request that is read from a completed resource has the id the
resource brought. -/
theorem receivedCompletion_request (hP : RmpvCodec P) {req : RnsRequest}
    {payload : Bytes} (h : encodeRequestBytes P req = .ok payload)
    (sourceHash : Option Hash16) (countClientReceive : Bool) :
    receivedCompletion P (some req.requestId) false sourceHash
        countClientReceive payload
      = [fileRequest P req sourceHash] := by
  unfold receivedCompletion decodeRequestBytes
  dsimp only
  rw [if_neg Bool.false_ne_true, decode_encodeRequestBytes hP h]

/-- What is sent of a split payload. -/
theorem sendResourceFrames_eq (P : Platform) (payload : Bytes)
    (requestId : Option Hash16) (isResponse isRequest : Bool) (now : Nat) :
    ∃ state, sendResourceFrames P payload requestId isResponse isRequest now
        = .ok state
      ∧ ResourceSender.split P payload resourceFramePartSize requestId
        isResponse isRequest = .ok (state.advert, state.parts)
      ∧ state.resourceId = state.advert.resourceId := by
  have hsize : ¬ resourceFramePartSize = 0 := by decide
  obtain ⟨sent, hsent⟩ : ∃ sent, ResourceSender.split P payload
      resourceFramePartSize requestId isResponse isRequest = .ok sent := by
    unfold ResourceSender.split
    rw [if_neg hsize]
    exact ⟨_, rfl⟩
  refine ⟨⟨sent.1.resourceId, sent.1, sent.2, now⟩, ?_, hsent, rfl⟩
  unfold sendResourceFrames ResourceSendState.new
  rw [if_neg hsize, hsent]
  rfl

/-- A split casts its numbers to 32 bits. -/
theorem split_bounded {data : Bytes} {partSize : Nat}
    {requestId : Option Hash16} {isResponse isRequest : Bool}
    {advert : ResourceAdvertisement} {parts : List ResourcePart}
    (h : ResourceSender.split P data partSize requestId isResponse isRequest
      = .ok (advert, parts)) :
    advert.Bounded ∧ (∀ part ∈ parts, part.partIndex < 2 ^ 32)
      ∧ advert.requestId = requestId ∧ advert.isResponse = isResponse := by
  have hmod (n : Nat) : n % 2 ^ 32 < 2 ^ 32 := Nat.mod_lt n (by decide)
  unfold ResourceSender.split at h
  split at h
  case isTrue => cases h
  case isFalse =>
    cases h
    refine ⟨⟨hmod _, hmod _, hmod _⟩, ?_, rfl, rfl⟩
    intro part hpart
    obtain ⟨index, -, rfl⟩ := List.mem_map.mp hpart
    exact hmod index

theorem carriesRequest (hP : RmpvCodec P) {req : RnsRequest}
    {payload : Bytes} {state : ResourceSendState}
    (h : encodeRequestBytes P req = .ok payload)
    (hlong : packetMdu < payload.length)
    (hsplit : ResourceSender.split P payload resourceFramePartSize
      (some req.requestId) false true = .ok (state.advert, state.parts))
    (hid : state.resourceId = state.advert.resourceId) :
    CarriesRequest P req payload state where
  advertRead := ResourceAdvertisement.decode_encode (split_bounded hsplit).1
  partsRead part hpart :=
    ResourcePart.decode_encode ((split_bounded hsplit).2.1 part hpart)
  received timeout s hreach e he hcompleted hdata sourceHash count := by
    obtain ⟨-, -, hrequest, hresponse⟩ := split_bounded hsplit
    obtain ⟨hmark, hmark'⟩ := (runMarked_reaches hreach).completions e he
      (hcompleted.trans hid)
    rw [hmark, hmark', hrequest, hresponse, hdata]
    exact receivedCompletion_request hP h sourceHash count
  agrees hshort := by
    let f : Sending := {
      data := payload
      partSize := resourceFramePartSize
      requestId := some req.requestId
      isResponse := false
      isRequest := true
      nonempty := List.ne_nil_of_length_pos (by omega)
      data_lt := hshort
      partSize_pos := by decide
      partSize_lt := by decide }
    have hf : f.split P = .ok (state.advert, state.parts) := hsplit
    refine ⟨Sending.announces_of_split hf, ?_⟩
    intro part hpart
    obtain ⟨hadvert, hparts⟩ := Sending.split_eq_ok hf
    obtain ⟨index, rfl⟩ := hparts part hpart
    rw [hadvert]
  whole content timeout s hcontent hreach e he hcompleted sourceHash
      count := by
    obtain ⟨-, -, hrequest, hresponse⟩ := split_bounded hsplit
    obtain ⟨advert, -, hallowed, -, hcompletion⟩ :=
      (trackerInv_reaches hreach).completions e he
    have hadvertId : advert.resourceId = state.resourceId := by
      rw [hcompletion] at hcompleted
      exact hcompleted
    rw [hcompletion]
    show receivedCompletion P advert.requestId advert.isResponse sourceHash
      count (content advert.resourceId) = _
    rw [hadvertId, hcontent, hallowed hadvertId, hrequest, hresponse]
    exact receivedCompletion_request hP h sourceHash count

-- ========================================================== the request

/-- A registered request: its bytes give the id it is filed under. -/
theorem registerRequest_eq_ok {mgr mgr' : RnsRequestManager}
    {destinationHash : Hash16} {path : Option String} {data : Value}
    {nowMs timeoutMs : Nat} {req : RnsRequest}
    (h : mgr.registerRequest P destinationHash path data nowMs timeoutMs
      = .ok (req, mgr')) :
    ∃ payload, encodeRequestBytes P req = .ok payload
      ∧ req.requestId = requestIdForDestination P destinationHash payload
      ∧ mgr'.pending.lookup req.requestId
        = some ⟨req.requestId, req.pathHash, nowMs, timeoutMs⟩ := by
  obtain ⟨payload, hpayload, h⟩ := Except.bind_eq_ok.mp h
  cases h
  exact ⟨payload, hpayload, rfl, AList.lookup_insert _⟩

/-- Every way a registered request can take ends in the request itself,
under the id it was registered with. -/
structure IdsAgree (P : Platform) (destinationHash : Hash16)
    (req : RnsRequest) (payload : Bytes) : Prop where
  /-- On a link to the destination. -/
  onLink : decodeRequestBytesForDestination P destinationHash payload
    = .ok req
  /-- In a packet: the request that is sent, and the one that arrives. -/
  inPacket : payload.length ≤ packetMdu → ∀ now, ∃ packet,
    buildRequestPacketForHash P destinationHash req = .ok (packet, req)
      ∧ sendRequestToHash P destinationHash req now
        = .ok (.packet packet, req)
      ∧ decodeRequestPacket P packet = .ok req
  /-- As a resource. -/
  asResource : packetMdu < payload.length → ∀ now, ∃ state,
    sendRequestToHash P destinationHash req now
        = .ok (.resource state, req)
      ∧ CarriesRequest P req payload state

/-- The packet of a request that fits one. -/
theorem buildRequestPacketForHash_eq {destinationHash : Hash16}
    {req : RnsRequest} {payload : Bytes}
    (h : encodeRequestBytes P req = .ok payload)
    (hid : req.requestId
      = requestIdForDestination P destinationHash payload)
    (hfits : payload.length ≤ packetMdu) :
    buildRequestPacketForHash P destinationHash req
      = .ok (⟨.single, .data, destinationHash, .request,
        ⟨payload, hfits⟩⟩, req) := by
  unfold buildRequestPacketForHash
  rw [h, Except.ok_bind, packetFromPayload_fits _ _ _ hfits, Except.ok_bind,
    ← hid]
  rfl

theorem idsAgree (hP : RmpvCodec P) {destinationHash : Hash16}
    {req : RnsRequest} {payload : Bytes}
    (h : encodeRequestBytes P req = .ok payload)
    (hid : req.requestId
      = requestIdForDestination P destinationHash payload)
    (hnonzero : req.requestId ≠ List.Vector.replicate destinationLength 0) :
    IdsAgree P destinationHash req payload where
  onLink := by
    unfold decodeRequestBytesForDestination
    rw [decode_encodeRequestBytes hP h, ← hid]
  inPacket hfits now := by
    have hbuild := buildRequestPacketForHash_eq h hid hfits
    refine ⟨_, hbuild, ?_, ?_⟩
    · unfold sendRequestToHash
      rw [h, Except.ok_bind, if_pos hfits, hbuild]
      rfl
    · unfold decodeRequestPacket decodeRequestBytes
      rw [if_neg (not_not_intro rfl), decode_encodeRequestBytes hP h,
        Except.ok_bind]
      show Except.ok { req with
          requestId := requestIdForDestination P destinationHash payload }
        = _
      rw [← hid]
  asResource hlong now := by
    obtain ⟨state, hsent, hsplit, hresource⟩ := sendResourceFrames_eq P
      payload (some req.requestId) false true now
    refine ⟨state, ?_, carriesRequest hP h hlong hsplit hresource⟩
    unfold sendRequestToHash
    rw [h, Except.ok_bind, if_neg (Nat.not_le.mpr hlong)]
    dsimp only
    rw [ensureRequestId_eq payload hnonzero, hsent]
    rfl

/-- A registered request has one id: the one it is pending under, the
one it keeps when it is sent, and the one every receiver gives it. -/
theorem request_ids_agree (hP : RmpvCodec P) {mgr mgr' : RnsRequestManager}
    {destinationHash : Hash16} {path : Option String} {data : Value}
    {nowMs timeoutMs : Nat} {req : RnsRequest}
    (h : mgr.registerRequest P destinationHash path data nowMs timeoutMs
      = .ok (req, mgr'))
    (hnonzero : req.requestId ≠ List.Vector.replicate destinationLength 0) :
    (mgr'.pending.lookup req.requestId).map (·.requestId)
        = some req.requestId
      ∧ ∃ payload, encodeRequestBytes P req = .ok payload
        ∧ IdsAgree P destinationHash req payload := by
  obtain ⟨payload, hpayload, hid, hpending⟩ := registerRequest_eq_ok h
  refine ⟨?_, payload, hpayload, idsAgree hP hpayload hid hnonzero⟩
  rw [hpending]
  rfl

section Instance

open Reference

/-- A request with data that no packet holds. -/
noncomputable def docRegistered :
    Except RnsError (RnsRequest × RnsRequestManager) :=
  RnsRequestManager.new.registerRequest platform
    (List.Vector.replicate 16 0x22) (some controlStatsPath)
    (.binary (List.replicate packetMdu 0x61)) 1000 500

theorem docRegistered_nonzero :
    (docRegistered.map fun sent => decide
      (sent.1.requestId ≠ List.Vector.replicate destinationLength 0))
      = .ok true := by
  decide +kernel

theorem docRegistered_long :
    (docRegistered.map fun sent =>
      (encodeRequestBytes platform sent.1).map fun payload =>
        decide (packetMdu < payload.length)) = .ok (.ok true) := by
  decide +kernel

/-- It leaves as a resource, and arrives under the id it is pending
under. -/
theorem request_ids_agree_doc :
    ∃ req mgr, docRegistered = .ok (req, mgr)
      ∧ (mgr.pending.lookup req.requestId).map (·.requestId)
        = some req.requestId
      ∧ ∃ payload state, encodeRequestBytes platform req = .ok payload
        ∧ sendRequestToHash platform (List.Vector.replicate 16 0x22) req 0
          = .ok (.resource state, req)
        ∧ CarriesRequest platform req payload state := by
  have hnonzero := docRegistered_nonzero
  have hlong := docRegistered_long
  cases h : docRegistered with
  | error e =>
      rw [h] at hnonzero
      cases hnonzero
  | ok sent =>
      rw [h] at hnonzero hlong
      obtain ⟨hpending, payload, hpayload, hagree⟩ := request_ids_agree
        platform_rmpvCodec h (of_decide_eq_true (Except.ok.inj hnonzero))
      have hbytes : (encodeRequestBytes platform sent.1).map (fun payload =>
          decide (packetMdu < payload.length)) = .ok true :=
        Except.ok.inj hlong
      rw [hpayload] at hbytes
      obtain ⟨state, hsent, hcarries⟩ := hagree.asResource
        (of_decide_eq_true (Except.ok.inj hbytes)) 0
      exact ⟨sent.1, sent.2, rfl, hpending, payload, state, hpayload, hsent,
        hcarries⟩

end Instance

end Lxmf
