/-
The frames of resources, read as they were written
(reticulum-patched/src/resource.rs: the `encode` and `decode` of each
frame).

Each of the six is read back, a request in the form that arrives: with a
last map hash exactly when it has run out of them. Of a request the
reader takes nothing else than what the writer writes, but for the flag:
any byte that is not 0xff says that the hashes are not exhausted.
-/
import Lxmf.Proofs.RequestIds
import Lxmf.Proofs.ResourceReceipts

namespace Lxmf

variable {P : Platform}

-- ====================================================== what was read

theorem toFixed_eq_some {n : Nat} {b : Bytes} {v : FixedBytes n}
    (h : toFixed n b = some v) : b = v.toList := by
  unfold toFixed at h
  by_cases hlen : b.length = n
  · rw [dif_pos hlen] at h
    rw [← Option.some.inj h]
    rfl
  · rw [dif_neg hlen] at h
    cases h

theorem splitFixed_eq_some {n : Nat} {b rest : Bytes} {v : FixedBytes n}
    (h : splitFixed n b = some (v, rest)) : b = v.toList ++ rest := by
  obtain ⟨first, hfirst, heq⟩ := Option.map_eq_some_iff.mp h
  cases heq
  rw [← toFixed_eq_some hfirst, List.take_append_drop]

/-- Bytes in fours are the hashes they are cut into. -/
theorem flatMap_mapHashes {b : Bytes}
    (h : b.length % resourceMaphashLen = 0) :
    (ResourceTracker.mapHashes b).flatMap (·.toList) = b := by
  unfold resourceMaphashLen at h
  induction b using ResourceTracker.mapHashes.induct with
  | case1 a b c d rest ih =>
      have hrest : rest.length % 4 = 0 := by
        simp only [List.length_cons] at h
        omega
      show [a, b, c, d] ++ (ResourceTracker.mapHashes rest).flatMap _ = _
      rw [ih hrest]
      rfl
  | case2 b hshort =>
      match b, h with
      | [], _ => rfl
      | a :: b :: c :: d :: rest, _ =>
          exact absurd rfl (hshort a b c d rest)

namespace ResourceRequest

variable {request : ResourceRequest}

theorem decodeHashes_eq_ok {exhausted : Bool} {last : Option MapHash}
    {buffer : Bytes}
    (h : decodeHashes exhausted last buffer = .ok request) :
    request.hashmapExhausted = exhausted ∧ request.lastMapHash = last
      ∧ buffer = request.resourceId.toList
        ++ request.requestedHashes.flatMap (·.toList) := by
  unfold decodeHashes at h
  split at h
  case h_1 => cases h
  case h_2 id hashes hsplit =>
    split at h
    case isTrue => cases h
    case isFalse hlen =>
      rw [← Except.ok.inj h]
      refine ⟨rfl, rfl, ?_⟩
      rw [flatMap_mapHashes (not_not.mp hlen)]
      exact splitFixed_eq_some hsplit

/-- What is read as a request is the request as it is written, behind a
flag that says the same. -/
theorem encode_of_decode {buffer : Bytes}
    (h : decode buffer = .ok request) :
    ∃ flag rest, buffer = flag :: rest
      ∧ request.encode
        = (if flag = resourceHashmapIsExhausted then flag
            else resourceHashmapIsNotExhausted) :: rest := by
  cases buffer with
  | nil => cases h
  | cons flag rest =>
      refine ⟨flag, rest, rfl, ?_⟩
      unfold decode at h
      dsimp only at h
      unfold encode
      by_cases hflag : flag = resourceHashmapIsExhausted
      · rw [if_pos hflag] at h
        split at h
        case h_1 => cases h
        case h_2 last tail hsplit =>
          obtain ⟨hexhausted, hlast, htail⟩ := decodeHashes_eq_ok h
          rw [hexhausted, hlast, if_pos rfl, if_pos hflag, hflag,
            splitFixed_eq_some hsplit, htail, List.append_assoc]
          rfl
      · rw [if_neg hflag] at h
        obtain ⟨hexhausted, -, htail⟩ := decodeHashes_eq_ok h
        rw [hexhausted, if_neg Bool.false_ne_true, if_neg hflag, htail]
        rfl

/-- A last map hash is named exactly when the hashes are exhausted. -/
def Normal (request : ResourceRequest) : Prop :=
  request.lastMapHash.isSome ↔ request.hashmapExhausted

/-- A request in normal form arrives as it is. -/
theorem onWire_of_normal (h : request.Normal) :
    request.onWire = request := by
  obtain ⟨id, exhausted, last, hashes⟩ := request
  unfold Normal at h
  unfold onWire
  cases exhausted with
  | true =>
      obtain ⟨hash, rfl⟩ := Option.isSome_iff_exists.mp (h.mpr rfl)
      rfl
  | false =>
      cases last with
      | none => rfl
      | some hash => cases h.mp rfl

end ResourceRequest

-- ========================================================== the frames

/-- Every frame is read as it was written, and a request from nothing
else than its own bytes. -/
theorem resource_frames_round_trip (hP : RmpvCodec P) :
    (∀ advert : ResourceAdvertisement, advert.Bounded →
        ResourceAdvertisement.decode advert.encode = .ok advert)
      ∧ (∀ part : ResourcePart, part.partIndex < 2 ^ 32 →
        ResourcePart.decode part.encode = .ok part)
      ∧ (∀ proof : ResourceProof,
        ResourceProof.decode proof.encode = .ok proof)
      ∧ (∀ cancel : ResourceCancel,
        ResourceCancel.decode cancel.encode = .ok cancel)
      ∧ (∀ update : ResourceHashUpdate, update.segment ≤ u32Max →
        ResourceHashUpdate.decode P (update.encode P) = .ok update)
      ∧ (∀ request : ResourceRequest, request.Normal →
        ResourceRequest.decode request.encode = .ok request)
      ∧ ∀ (buffer : Bytes) (request : ResourceRequest),
        ResourceRequest.decode buffer = .ok request →
        ∃ flag rest, buffer = flag :: rest
          ∧ request.encode
            = (if flag = resourceHashmapIsExhausted then flag
                else resourceHashmapIsNotExhausted) :: rest := by
  refine ⟨?_, ?_, ?_, ?_, ?_, ?_, ?_⟩
  · intro advert hbounded
    exact ResourceAdvertisement.decode_encode hbounded
  · intro part hindex
    exact ResourcePart.decode_encode hindex
  · exact ResourceProof.decode_encode
  · exact ResourceCancel.decode_encode
  · intro update hsegment
    exact ResourceHashUpdate.decode_encode hP hsegment
  · intro request hnormal
    rw [ResourceRequest.decode_encode,
      ResourceRequest.onWire_of_normal hnormal]
  · intro buffer request hdecode
    exact ResourceRequest.encode_of_decode hdecode

section Instance

open Reference

def frameId : Hash16 := List.Vector.replicate destinationLength 0x07

/-- An advertisement at the ends of its ranges, with a request id. -/
def docFrameAdvert : ResourceAdvertisement where
  resourceId := frameId
  requestId := some frameId
  totalLen := 2 ^ 32 - 1
  partSize := 0
  totalParts := 2 ^ 32 - 1
  isResponse := true
  isRequest := false

/-- Hashes that ran out at the one named, and none asked for. -/
def docFrameRequest : ResourceRequest where
  resourceId := frameId
  hashmapExhausted := true
  lastMapHash := some (List.Vector.replicate resourceMaphashLen 0x05)
  requestedHashes := []

/-- One frame of each kind. The request that is read has the flag 0x01,
and is written with 0x00. -/
theorem resource_frames_round_trip_doc :
    ResourceAdvertisement.decode docFrameAdvert.encode = .ok docFrameAdvert
      ∧ ResourcePart.decode (ResourcePart.encode ⟨frameId, 3, []⟩)
        = .ok ⟨frameId, 3, []⟩
      ∧ ResourceProof.decode (ResourceProof.encode ⟨frameId, 0xff⟩)
        = .ok ⟨frameId, 0xff⟩
      ∧ ResourceCancel.decode (ResourceCancel.encode ⟨frameId⟩)
        = .ok ⟨frameId⟩
      ∧ ResourceHashUpdate.decode platform
          (ResourceHashUpdate.encode platform ⟨frameId, u32Max, [0x01]⟩)
        = .ok ⟨frameId, u32Max, [0x01]⟩
      ∧ ResourceRequest.decode docFrameRequest.encode = .ok docFrameRequest
      ∧ ∃ flag rest, 0x01 :: frameId.toList = flag :: rest
        ∧ ResourceRequest.encode ⟨frameId, false, none, []⟩
          = (if flag = resourceHashmapIsExhausted then flag
              else resourceHashmapIsNotExhausted) :: rest := by
  obtain ⟨hadvert, hpart, hproof, hcancel, hupdate, hrequest, hread⟩ :=
    resource_frames_round_trip platform_rmpvCodec
  refine ⟨hadvert _ ⟨by decide, by decide, by decide⟩,
    hpart _ (by decide), hproof _, hcancel _, hupdate _ (le_refl _),
    hrequest _ ?_, hread _ _ (by decide)⟩
  exact iff_of_true rfl rfl

end Instance

end Lxmf
