/-
The key one node draws for another.

# Two puzzles

A node that offers to a peer draws a key for its own identity followed
by the peer's, at a cost capped at 15. The peer checks the key for its
own identity followed by the remote's, at the configured cost. Seen from
the two sides these are different puzzles, and `peeringKey_accepted_iff`
says that the peer takes the drawn keys exactly when solving the one
solves the other: at cost zero (`peeringKey_free`), and otherwise by the
accident of a hash.
-/
import Lxmf.Proofs.PeerSync

namespace Lxmf

section PeeringKeys

variable {σ : Type} {P : Platform}

/-- A generator that yields `k` first. -/
def OsRng.drawing (k : FixedBytes stampSize) : OsRng :=
  fun i => k.toList.getD i 0

theorem OsRng.fillBytes_drawing (k : FixedBytes stampSize) :
    (OsRng.drawing k).fillBytes stampSize 0 = k := by
  unfold OsRng.fillBytes OsRng.drawing
  apply List.Vector.ext
  intro i
  rw [List.Vector.get_ofFn, Nat.mul_zero, Nat.zero_add,
    List.Vector.get_eq_get_toList]
  have hlt : (i : Nat) < k.toList.length := by
    rw [k.toList_length]
    exact i.isLt
  rw [List.getD_eq_getElem?_getD, List.getElem?_eq_getElem hlt]
  rfl

/-- What the drawing loop returns passed the check. -/
theorem generateStampLoop_valid {rng : OsRng} {workblock : Bytes}
    {cost k left : Nat} {stamp : FixedBytes stampSize}
    (h : (generateStampLoop P rng workblock cost k left).1 = some stamp) :
    stampValid P workblock stamp.toList cost = true := by
  induction left generalizing k with
  | zero => cases h
  | succ left ih =>
      unfold generateStampLoop at h
      dsimp only at h
      split at h
      case isTrue hvalid =>
        cases h
        exact hvalid
      case isFalse => exact ih h

/-- A generated peering key validates for the id it was drawn for, at
the cost it was drawn at. -/
theorem generatePeeringKey_valid {rng : OsRng} {peeringId : Hash32}
    {cost : Nat} {key : Bytes}
    (h : generatePeeringKey P rng peeringId cost = some key) :
    ∃ k : FixedBytes stampSize, key = k.toList
      ∧ validatePeeringKey P peeringId.toList key cost = true := by
  unfold generatePeeringKey at h
  obtain ⟨k, hk, rfl⟩ := Option.map_eq_some_iff.mp h
  refine ⟨k, rfl, ?_⟩
  unfold generateStamp at hk
  unfold validatePeeringKey
  split at hk
  case h_1 => cases hk
  case h_2 => exact generateStampLoop_valid hk

/-- Every key that validates is drawn by some generator. -/
theorem generatePeeringKey_drawing {peeringId : Hash32} {cost : Nat}
    {k : FixedBytes stampSize}
    (h : validatePeeringKey P peeringId.toList k.toList cost = true) :
    generatePeeringKey P (.drawing k) peeringId cost
      = some k.toList := by
  unfold validatePeeringKey at h
  unfold generatePeeringKey generateStamp
  split at h
  case h_1 => cases h
  case h_2 =>
    have hrounds : maxRounds cost = maxRounds cost - 1 + 1 := by
      unfold maxRounds u32Max
      split
      case isTrue => rfl
      case isFalse =>
        split
        case isTrue => rfl
        case isFalse => rfl
    rw [hrounds]
    unfold generateStampLoop
    dsimp only
    rw [OsRng.fillBytes_drawing, if_pos h]
    rfl

/-- The cost a router draws its own keys at. -/
def cappedCost (targetCost : Nat) : Nat :=
  if 15 < targetCost then 15 else targetCost

namespace LxmfRouter

theorem peeringKeyForPeer_eq (r : LxmfRouter σ) (a b : Hash16) (c : Nat)
    (rng : OsRng) {peeringId : Hash32}
    (hid : peeringId.toList = a.toList ++ b.toList) :
    (r.setPeeringValidation a c).peeringKeyForPeer P b rng
      = (generatePeeringKey P rng peeringId (cappedCost c)).getD [] := by
  have : (r.setPeeringValidation a c).peeringIdForPeer b
      = some peeringId :=
    congrArg some (List.Vector.eq _ _ hid.symm)
  unfold peeringKeyForPeer
  rw [this]
  rfl

/-- An offer is answered with the key error exactly when its key does
not validate. -/
theorem handlePeerSyncOffer_invalidKey_iff (r : LxmfRouter σ)
    (a b : Hash16) (c : Nat) (key : Bytes) (available : List Hash32)
    (nowMs : Nat) :
    ((r.setPeeringValidation b c).handlePeerSyncOffer P a
        (.offer key available) nowMs).1 = .error peerErrorInvalidKey
      ↔ validatePeeringKey P (b.toList ++ a.toList) key c = false := by
  have hkey : (r.setPeeringValidation b c).offerKeyValid P a key
      = validatePeeringKey P (b.toList ++ a.toList) key c := rfl
  unfold handlePeerSyncOffer
  dsimp only
  rw [hkey]
  split
  case isTrue hvalid =>
    rw [hvalid]
    unfold answerOffer
    dsimp only
    split
    case isTrue => simp
    case isFalse => simp
  case isFalse hinvalid => simpa using hinvalid

end LxmfRouter

/-- At cost zero every key solves a puzzle whose workblock there is. -/
theorem validatePeeringKey_zero {id workblock : Bytes}
    (hid : stampWorkblock P id workblockExpandRoundsPeering = .ok workblock)
    (key : Bytes) : validatePeeringKey P id key 0 = true := by
  unfold validatePeeringKey
  rw [hid]
  exact if_pos rfl

/-- So a node that asks for no work answers no offer with the key error,
and at that cost the one puzzle is solved by what solves the other. -/
theorem peeringKey_free (B : LxmfRouter σ) (a b : Hash16)
    {workblock : Bytes} (hid : stampWorkblock P (b.toList ++ a.toList)
      workblockExpandRoundsPeering = .ok workblock) :
    (∀ key available nowMs,
      ((B.setPeeringValidation b 0).handlePeerSyncOffer P a
        (.offer key available) nowMs).1 ≠ .error peerErrorInvalidKey)
      ∧ ∀ k : FixedBytes stampSize,
        validatePeeringKey P (a.toList ++ b.toList) k.toList
          (cappedCost 0) = true →
        validatePeeringKey P (b.toList ++ a.toList) k.toList 0 = true := by
  refine ⟨fun key available nowMs h => ?_,
    fun k _ => validatePeeringKey_zero hid k.toList⟩
  rw [LxmfRouter.handlePeerSyncOffer_invalidKey_iff,
    validatePeeringKey_zero hid] at h
  cases h

/-- Node `a` draws keys for `b` that `b` accepts exactly when every key
that solves the puzzle of `a` then `b` at the capped cost also solves
that of `b` then `a` at the full cost. -/
theorem peeringKey_accepted_iff (A B : LxmfRouter σ) (a b : Hash16)
    (c : Nat) :
    (∀ rng available nowMs,
      (A.setPeeringValidation a c).peeringKeyForPeer P b rng ≠ [] →
      ((B.setPeeringValidation b c).handlePeerSyncOffer P a
        (.offer ((A.setPeeringValidation a c).peeringKeyForPeer P b rng)
          available) nowMs).1 ≠ .error peerErrorInvalidKey)
    ↔ ∀ k : FixedBytes stampSize,
      validatePeeringKey P (a.toList ++ b.toList) k.toList
        (cappedCost c) = true →
      validatePeeringKey P (b.toList ++ a.toList) k.toList c = true := by
  obtain ⟨peeringId, hid⟩ : ∃ id : Hash32,
      id.toList = a.toList ++ b.toList :=
    ⟨⟨a.toList ++ b.toList, by simp [destinationLength, hashLength]⟩, rfl⟩
  constructor
  · intro h k hk
    rw [← hid] at hk
    have hdraw : (A.setPeeringValidation a c).peeringKeyForPeer P b
        (.drawing k) = k.toList := by
      rw [LxmfRouter.peeringKeyForPeer_eq A a b c _ hid,
        generatePeeringKey_drawing hk]
      rfl
    have hne : k.toList ≠ [] := by
      intro hnil
      have := k.toList_length
      rw [hnil] at this
      cases this
    have hok := h (.drawing k) [] 0 (hdraw ▸ hne)
    rw [hdraw, ne_eq, LxmfRouter.handlePeerSyncOffer_invalidKey_iff] at hok
    simpa using hok
  · intro h rng available nowMs hne
    rw [LxmfRouter.peeringKeyForPeer_eq A a b c rng hid] at hne ⊢
    rcases hgen : generatePeeringKey P rng peeringId (cappedCost c) with
      _ | key
    · rw [hgen] at hne
      exact absurd rfl hne
    · obtain ⟨k, rfl, hvalid⟩ := generatePeeringKey_valid hgen
      rw [hid] at hvalid
      rw [ne_eq, LxmfRouter.handlePeerSyncOffer_invalidKey_iff,
        Option.getD_some, h k hvalid]
      simp

end PeeringKeys

section PeeringKeysInstance

open Reference

/-- Two identities. -/
def docIdentity : Hash16 := List.Vector.replicate 16 0x22
def otherIdentity : Hash16 := List.Vector.replicate 16 0x33

def docPeeringId : Hash32 :=
  ⟨docIdentity.toList ++ otherIdentity.toList, rfl⟩

/-- A key that solves the puzzle of `docIdentity` then `otherIdentity`
at cost 15. -/
def docPeeringKey : FixedBytes stampSize :=
  ⟨[0x8f, 0x61, 0x01] ++ List.replicate 29 0x00, rfl⟩

theorem docPeeringKey_solves :
    validatePeeringKey platform docPeeringId.toList docPeeringKey.toList
      (cappedCost defaultPeeringCost) = true := by
  decide +kernel

/-- It does not solve the other one. -/
theorem docPeeringKey_rejected :
    validatePeeringKey platform
      (otherIdentity.toList ++ docIdentity.toList) docPeeringKey.toList
      defaultPeeringCost = false := by
  decide +kernel

/-- At the default cost, a key one router draws for another is answered
with the key error there. -/
theorem docPeeringKey_invalid_at_peer :
    docIdentity ≠ otherIdentity
    ∧ ∃ rng, (docNode.setPeeringValidation docIdentity
        defaultPeeringCost).peeringKeyForPeer platform otherIdentity rng
          = docPeeringKey.toList
      ∧ docPeeringKey.toList ≠ []
      ∧ ((docNode.setPeeringValidation otherIdentity
          defaultPeeringCost).handlePeerSyncOffer platform docIdentity
            (.offer docPeeringKey.toList []) 0).1
          = .error peerErrorInvalidKey := by
  refine ⟨by decide, .drawing docPeeringKey, ?_, by decide, ?_⟩
  · have hid : docPeeringId.toList
        = docIdentity.toList ++ otherIdentity.toList := rfl
    rw [LxmfRouter.peeringKeyForPeer_eq _ _ _ _ _ hid,
      generatePeeringKey_drawing docPeeringKey_solves]
    rfl
  · rw [LxmfRouter.handlePeerSyncOffer_invalidKey_iff]
    exact docPeeringKey_rejected

end PeeringKeysInstance

end Lxmf
