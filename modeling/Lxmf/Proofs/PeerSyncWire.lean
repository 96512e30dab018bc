/-
What a peer reads of a request, and of the response to it
(lxmf-rs/src/rns/peer.rs: `encode_peer_sync_request`,
`decode_peer_sync_request` and the pair for responses; the handlers of
lxmf-rs/src/rns/router.rs).

A request is told from the others by its first two elements alone: a
binary first for an offer, two `Nil` for the list, `Nil` and a list for
an acknowledgement, two lists for a get. Each is read as it was written.

Ids and payload items are written alike, and the reader takes a list for
ids when each of its members has 32 bytes. A payload item is an encoded
entry, which holds the 32 bytes of its transient id and more, so of the
payloads that are sent only the empty one is taken for a list of ids: it
is what a node answers that serves none of the messages asked for.
-/
import Lxmf.Proofs.Network
import Lxmf.Proofs.Reception

namespace Lxmf

variable {P : Platform}

-- ============================================================= the codec

/-- The response is read back as it was written. -/
def PeerSyncResponse.RoundTrips (P : Platform)
    (response : PeerSyncResponse) : Prop :=
  ∃ bytes, encodePeerSyncResponse P response = .ok bytes
    ∧ decodePeerSyncResponse P bytes = .ok response

/-- A list of binaries is read as the bytes it was written from. -/
theorem mapM_valueToBytes_binary (error : String) (items : List Bytes) :
    (items.map Value.binary).mapM
        (fun val => orMsgpack error (valueToBytes val))
      = (.ok items : Except RnsError (List Bytes)) :=
  List.mapM_map_eq_pure fun _ _ => rfl

theorem mapM_toFixed_toList {n : Nat} (ids : List (FixedBytes n)) :
    (ids.map fun id => id.toList).mapM (toFixed n) = some ids :=
  List.mapM_map_eq_pure fun id _ => toFixed_toList id

/-- A list with a member of another length is no list of ids. -/
theorem mapM_toFixed_eq_none_iff {n : Nat} {items : List Bytes} :
    items.mapM (toFixed n) = none ↔ ∃ item ∈ items, item.length ≠ n := by
  induction items with
  | nil =>
      constructor
      · intro h
        cases h
      · rintro ⟨item, hitem, -⟩
        cases hitem
  | cons item items ih =>
      simp only [List.mapM_cons, List.mem_cons, exists_eq_or_imp, ← ih]
      by_cases hlen : item.length = n
      · have hfixed : toFixed n item = some ⟨item, hlen⟩ := dif_pos hlen
        rw [hfixed, or_iff_right (not_not_intro hlen)]
        cases items.mapM (toFixed n) with
        | none => simp
        | some ids =>
            refine iff_of_false ?_ ?_
            · intro h
              cases h
            · intro h
              cases h
      · have hfixed : toFixed n item = none := dif_neg hlen
        rw [hfixed]
        simp [hlen]

theorem listResponse_eq_payload_iff {items : List Bytes} :
    listResponse items = .payload items
      ↔ ∃ item ∈ items, item.length ≠ hashLength := by
  rw [← mapM_toFixed_eq_none_iff]
  unfold listResponse
  cases items.mapM (toFixed hashLength) with
  | none => simp
  | some ids => simp

/-- A written response, read. -/
theorem decode_encodePeerSyncResponse (hP : RmpvCodec P)
    (response : PeerSyncResponse) :
    ∃ bytes, encodePeerSyncResponse P response = .ok bytes
      ∧ decodePeerSyncResponse P bytes
        = .ok (match response with
          | .payload items => listResponse items
          | other => other) := by
  obtain ⟨bytes, hwrite⟩ := hP.write_ok response.toValue
  refine ⟨bytes, Except.mapError_eq_ok.mpr hwrite, ?_⟩
  have hread := readRns_eq_ok.mpr (hP.read_write _ _ hwrite)
  unfold decodePeerSyncResponse
  rw [hread, Except.ok_bind]
  cases response with
  | error code =>
      have hlt := code.toNat_lt
      have hread64 : (Integer.ofU8 code).asI64 = some (code.toNat : Int) :=
        if_pos (by show (code.toNat : Int) < 2 ^ 63; omega)
      have hrange : (0 : Int) ≤ code.toNat ∧ (code.toNat : Int) ≤ 255 := by
        omega
      unfold PeerSyncResponse.toValue
      dsimp only
      rw [hread64]
      show (if (0 : Int) ≤ code.toNat ∧ (code.toNat : Int) ≤ 255
        then Except.ok (PeerSyncResponse.error (UInt8.ofNat code.toNat))
        else _) = _
      rw [if_pos hrange, UInt8.ofNat_toNat]
  | bool flag => rfl
  | idList ids =>
      have hids : (ids.map fun id => Value.binary id.toList)
          = (ids.map fun id => id.toList).map Value.binary := by
        rw [List.map_map]
        rfl
      unfold PeerSyncResponse.toValue idsToValue
      dsimp only
      rw [hids, mapM_valueToBytes_binary, Except.ok_bind]
      unfold listResponse
      rw [mapM_toFixed_toList]
      rfl
  | payload items =>
      unfold PeerSyncResponse.toValue
      dsimp only
      rw [mapM_valueToBytes_binary]
      rfl

/-- Only a payload all of whose items have 32 bytes is not read back. -/
theorem roundTrips_iff (hP : RmpvCodec P) (response : PeerSyncResponse) :
    response.RoundTrips P
      ↔ ∀ items, response = .payload items →
        ∃ item ∈ items, item.length ≠ hashLength := by
  obtain ⟨bytes, hencode, hdecode⟩ :=
    decode_encodePeerSyncResponse hP response
  unfold PeerSyncResponse.RoundTrips
  constructor
  · rintro ⟨found, hfound, hback⟩ items rfl
    rw [hencode] at hfound
    cases hfound
    rw [hdecode] at hback
    exact listResponse_eq_payload_iff.mp (Except.ok.inj hback)
  · intro h
    refine ⟨bytes, hencode, ?_⟩
    rw [hdecode]
    cases response with
    | payload items =>
        exact congrArg Except.ok
          (listResponse_eq_payload_iff.mpr (h items rfl))
    | _ => rfl

-- ========================================================== the request

/-- A list of ids is read as the ids it was written from. -/
theorem idsFromValues_ids (ids : List Hash32) :
    idsFromValues (ids.map fun id => Value.binary id.toList) = .ok ids := by
  unfold idsFromValues
  refine List.mapM_map_eq_pure fun id _ => ?_
  rw [valueToFixedBytes_binary]
  rfl

theorem optionalIds_idsToValue (error : String) (ids : List Hash32) :
    optionalIds error (idsToValue ids) = .ok (some ids) := by
  show (do return some (← idsFromValues _)) = _
  rw [idsFromValues_ids]
  rfl

/-- What decides the kind: a binary, `Nil` or a list in the first place,
and `Nil` or a list in the second. -/
theorem decodePeerSyncRequest_of_read {bytes : Bytes}
    (req : PeerSyncRequest) (hread : readRns P bytes = .ok req.toValue) :
    decodePeerSyncRequest P bytes = .ok req := by
  unfold decodePeerSyncRequest
  rw [hread, Except.ok_bind]
  cases req with
  | offer key available =>
      show (do return PeerSyncRequest.offer key (← idsFromValues _)) = _
      rw [idsFromValues_ids]
      rfl
  | messageGetList => rfl
  | messageGet wants haves limit =>
      show decodeMessageRequest (idsToValue wants) (idsToValue haves)
        (limit.map Value.f64).toList = _
      unfold decodeMessageRequest
      rw [optionalIds_idsToValue, optionalIds_idsToValue, Except.ok_bind,
        Except.ok_bind]
      cases limit with
      | none => rfl
      | some kb => rfl
  | messageAck delivered =>
      show decodeMessageRequest .nil (idsToValue delivered) [] = _
      unfold decodeMessageRequest
      rw [optionalIds_idsToValue]
      rfl

/-- Every request is written, and read back as the request it is. -/
theorem peer_sync_request_round_trips (hP : RmpvCodec P)
    (req : PeerSyncRequest) :
    ∃ bytes, encodePeerSyncRequest P req = .ok bytes
      ∧ decodePeerSyncRequest P bytes = .ok req := by
  obtain ⟨bytes, hwrite⟩ := hP.write_ok req.toValue
  have hread := readRns_eq_ok.mpr (hP.read_write _ _ hwrite)
  exact ⟨bytes, Except.mapError_eq_ok.mpr hwrite,
    decodePeerSyncRequest_of_read req hread⟩

/-- An acknowledgement of nothing, which differs from a request for the
list in one element alone. -/
theorem peer_sync_request_round_trips_doc :
    ∃ bytes,
      encodePeerSyncRequest Reference.platform (.messageAck []) = .ok bytes
        ∧ decodePeerSyncRequest Reference.platform bytes
          = .ok (.messageAck []) :=
  peer_sync_request_round_trips Reference.platform_rmpvCodec
    (.messageAck [])

-- ========================================================= what is sent

/-- The entry of this id is stored, and its encoding is alone within the
limit. -/
def Serves (P : Platform) (store : PropagationStore)
    (limitBytes : Option Nat) (id : Hash32) : Prop :=
  ∃ entry bytes, store.get id = some entry ∧ entry.toBytes P = .ok bytes
    ∧ ∀ limit ∈ limitBytes, satAdd64 0 bytes.length ≤ limit

/-- Of the messages a get asks for, one is served. Every other request
is answered with something else than a payload. -/
def ServesSome (P : Platform) (store : PropagationStore) :
    PeerSyncRequest → Prop
  | .messageGet wants _ transferLimitKb =>
      ∃ id ∈ wants, Serves P store
        (transferLimitKb.map fun kb => (kb.mul (.fin 1000)).toU64) id
  | _ => True

/-- What was selected stays selected. -/
theorem selectItems_ne_nil {store : PropagationStore} {limit : Option Nat}
    {wants : List Hash32} {acc : List Bytes × Nat} (h : acc.1 ≠ []) :
    (LxmfRouter.selectItems P store limit wants acc).1 ≠ [] := by
  induction wants generalizing acc with
  | nil => exact h
  | cons id wants ih =>
      unfold LxmfRouter.selectItems
      apply ih
      split
      case h_1 bytes hbytes =>
        dsimp only
        split_ifs
        case pos => exact h
        case neg => exact List.append_ne_nil_of_left_ne_nil h _
      case h_2 => exact h

/-- The first item that fits alone is selected. -/
theorem selectItems_serves {store : PropagationStore} {limit : Option Nat}
    {id : Hash32} (wants : List Hash32) (h : Serves P store limit id) :
    (LxmfRouter.selectItems P store limit (id :: wants) ([], 0)).1 ≠ [] := by
  obtain ⟨entry, bytes, hget, hbytes, hfits⟩ := h
  have hfound : (store.get id).map (·.toBytes P) = some (.ok bytes) := by
    rw [hget, ← hbytes]
    rfl
  unfold LxmfRouter.selectItems
  apply selectItems_ne_nil
  rw [hfound]
  cases limit with
  | none => exact List.cons_ne_nil bytes []
  | some limit =>
      have hnot : ¬ limit < satAdd64 0 bytes.length :=
        Nat.not_lt.mpr (hfits limit rfl)
      dsimp only
      rw [if_neg (by rwa [decide_eq_true_eq])]
      exact List.cons_ne_nil bytes []

/-- An item that does not fit alone is skipped. -/
theorem selectItems_skips {store : PropagationStore} {limit : Option Nat}
    {id : Hash32} (wants : List Hash32) (h : ¬ Serves P store limit id) :
    LxmfRouter.selectItems P store limit (id :: wants) ([], 0)
      = LxmfRouter.selectItems P store limit wants ([], 0) := by
  rw [LxmfRouter.selectItems]
  congr 1
  split
  case h_1 bytes hbytes =>
    obtain ⟨entry, hget, hto⟩ := Option.map_eq_some_iff.mp hbytes
    cases limit with
    | none =>
        refine absurd ⟨entry, bytes, hget, hto, fun found hfound => ?_⟩ h
        cases hfound
    | some limit =>
        have hexceeds : limit < satAdd64 0 bytes.length := by
          by_contra hfits
          refine h ⟨entry, bytes, hget, hto, fun found hfound => ?_⟩
          rw [← Option.some.inj hfound]
          exact Nat.not_lt.mp hfits
        dsimp only
        rw [if_pos (decide_eq_true hexceeds)]
  case h_2 => rfl

/-- Nothing is selected when no item fits alone. -/
theorem selectItems_ne_nil_iff {store : PropagationStore}
    {limit : Option Nat} {wants : List Hash32} :
    (LxmfRouter.selectItems P store limit wants ([], 0)).1 ≠ []
      ↔ ∃ id ∈ wants, Serves P store limit id := by
  induction wants with
  | nil => simp [LxmfRouter.selectItems]
  | cons id wants ih =>
      by_cases hserves : Serves P store limit id
      · exact iff_of_true (selectItems_serves wants hserves)
          ⟨id, List.mem_cons_self, hserves⟩
      · rw [selectItems_skips wants hserves, ih]
        simp only [List.mem_cons, exists_eq_or_imp, hserves, false_or]

/-- An encoded entry is longer than the id it holds. -/
theorem toBytes_length (hW : WritesBinaries P) {entry : PropagationEntry}
    {bytes : Bytes} (h : entry.toBytes P = .ok bytes) :
    hashLength < bytes.length := by
  have hwrite := Except.mapError_eq_ok.mp h
  have hlen := hW _ _ entry.transientId.toList hwrite List.mem_cons_self
  rwa [List.Vector.toList_length] at hlen

/-- A payload is read back when something was selected. -/
theorem payload_roundTrips_iff (hP : RmpvCodec P) (hW : WritesBinaries P)
    {store : PropagationStore} {limit : Option Nat} {wants : List Hash32} :
    (PeerSyncResponse.payload
        (LxmfRouter.selectItems P store limit wants ([], 0)).1).RoundTrips P
      ↔ ∃ id ∈ wants, Serves P store limit id := by
  rw [roundTrips_iff hP, ← selectItems_ne_nil_iff]
  constructor
  · intro h hnil
    obtain ⟨item, hitem, -⟩ := h _ rfl
    rw [hnil] at hitem
    cases hitem
  · intro hne items hitems
    cases hitems
    obtain ⟨item, hitem⟩ := List.exists_mem_of_ne_nil _ hne
    refine ⟨item, hitem, ?_⟩
    rcases LxmfRouter.mem_selectItems hitem with hnil | hentry
    · cases hnil
    · obtain ⟨id, -, entry, -, hbytes⟩ := hentry
      have hlong := toBytes_length hW hbytes
      omega

-- ========================================================= the handlers

namespace LxmfRouter

variable {σ : Type}

/-- An offer is answered with an error, a refusal or ids. -/
theorem handlePeerSyncOffer_not_payload (r : LxmfRouter σ) (peerId : Hash16)
    (req : PeerSyncRequest) (nowMs : Nat) (items : List Bytes) :
    (r.handlePeerSyncOffer P peerId req nowMs).1 ≠ .payload items := by
  intro h
  unfold handlePeerSyncOffer at h
  split at h
  case h_1 =>
    dsimp only at h
    split at h
    case isTrue =>
      unfold answerOffer at h
      dsimp only at h
      split at h <;> cases h
    case isFalse => cases h
  case h_2 => cases h

/-- An acknowledgement is answered with a flag or an error. -/
theorem handlePeerSyncAck_not_payload (r : LxmfRouter σ) (peerId : Hash16)
    (req : PeerSyncRequest) (nowMs : Nat) (items : List Bytes) :
    (r.handlePeerSyncAck peerId req nowMs).1 ≠ .payload items := by
  intro h
  unfold handlePeerSyncAck at h
  split at h <;> cases h

/-- Each answer is read back as it was given, but for the payload that
holds none of the messages asked for. -/
theorem peer_sync_answers_round_trip_iff (hP : RmpvCodec P)
    (hW : WritesBinaries P) (r : LxmfRouter σ) (peerId : Hash16)
    (req : PeerSyncRequest) (nowMs : Nat) :
    (r.handlePeerSyncOffer P peerId req nowMs).1.RoundTrips P
      ∧ (r.handlePeerSyncAck peerId req nowMs).1.RoundTrips P
      ∧ ((r.handlePeerSyncMessageGet P peerId req nowMs).1.RoundTrips P
        ↔ ServesSome P r.propagationStore req) := by
  refine ⟨?_, ?_, ?_⟩
  · rw [roundTrips_iff hP]
    intro items hitems
    exact absurd hitems
      (handlePeerSyncOffer_not_payload r peerId req nowMs items)
  · rw [roundTrips_iff hP]
    intro items hitems
    exact absurd hitems
      (handlePeerSyncAck_not_payload r peerId req nowMs items)
  · cases req with
    | messageGet wants haves limit => exact payload_roundTrips_iff hP hW
    | messageGetList =>
        refine iff_of_true ((roundTrips_iff hP _).mpr ?_) trivial
        intro items hitems
        cases hitems
    | offer key available =>
        refine iff_of_true ((roundTrips_iff hP _).mpr ?_) trivial
        intro items hitems
        cases hitems
    | messageAck delivered =>
        refine iff_of_true ((roundTrips_iff hP _).mpr ?_) trivial
        intro items hitems
        cases hitems

section Instance

open Reference

/-- A request for one message, with no limit. -/
def docGet : PeerSyncRequest :=
  .messageGet [List.Vector.replicate 32 0x07] [] none

/-- A request for the one message there is, of at most half a
kilobyte. -/
noncomputable def docServedGet : PeerSyncRequest :=
  .messageGet [fullHash platform docData] [] (some (.fin (1 / 2)))

theorem docServedGet_serves :
    ServesSome platform storingNode.propagationStore docServedGet := by
  have hfits : (storingNode.propagationStore.get
      (fullHash platform docData)).any (fun entry =>
        (entry.toBytes platform).toOption.any fun bytes =>
          decide (satAdd64 0 bytes.length
            ≤ ((F64.fin (1 / 2)).mul (.fin 1000)).toU64)) = true := by
    decide +kernel
  obtain ⟨entry, hentry, hfits⟩ := (Option.any_eq_true _ _).mp hfits
  refine ⟨_, List.mem_singleton_self _, entry, ?_⟩
  cases hbytes : entry.toBytes platform with
  | error e =>
      rw [hbytes] at hfits
      cases hfits
  | ok bytes =>
      rw [hbytes] at hfits
      refine ⟨bytes, hentry, rfl, fun limit hlimit => ?_⟩
      rw [← Option.some.inj hlimit]
      exact of_decide_eq_true hfits

/-- The answer of a router that has the message asked for. -/
theorem peer_sync_answers_round_trip_doc :
    (storingNode.handlePeerSyncMessageGet platform
        docOutbound.sourceIdentity docServedGet 0).1.RoundTrips platform
      ∧ (storingNode.handlePeerSyncMessageGet platform
        docOutbound.sourceIdentity docServedGet 0).1 ≠ .payload [] := by
  have hserved := (peer_sync_answers_round_trip_iff platform_rmpvCodec
    platform_writesBinaries storingNode docOutbound.sourceIdentity
    docServedGet 0).2.2.mpr docServedGet_serves
  refine ⟨hserved, fun hempty => ?_⟩
  rw [hempty, roundTrips_iff platform_rmpvCodec] at hserved
  obtain ⟨item, hitem, -⟩ := hserved [] rfl
  cases hitem

/-- Asked for a message it does not have, the router answers with an
empty payload, which is read back as an empty list of ids. -/
theorem missing_message_read_as_ids :
    (docNode.handlePeerSyncMessageGet platform docOutbound.sourceIdentity
        docGet 0).1 = .payload []
      ∧ encodePeerSyncResponse platform (.payload []) = .ok [0x90]
      ∧ decodePeerSyncResponse platform [0x90] = .ok (.idList [])
      ∧ ¬ (docNode.handlePeerSyncMessageGet platform
        docOutbound.sourceIdentity docGet 0).1.RoundTrips platform := by
  have hempty : (docNode.handlePeerSyncMessageGet platform
      docOutbound.sourceIdentity docGet 0).1 = .payload [] := by
    decide +kernel
  refine ⟨hempty, by decide +kernel, by decide +kernel, ?_⟩
  rw [hempty, roundTrips_iff platform_rmpvCodec]
  intro h
  obtain ⟨item, hitem, -⟩ := h [] rfl
  cases hitem

end Instance

end LxmfRouter

end Lxmf
