/-
Which peers rotation takes out of the table
(lxmf-rs/src/rns/router.rs: `rotate_peers`).

Those that go are the first of the drop pool in the order of their
acceptance rates, as far as the rate is below the maximum. The pool
holds peers of the table that are idle and not static. The counts are
cast to `u32`, which makes them smaller if anything: so no more go than
the counts themselves ask for, and two peers are left.
-/
import Lxmf.Proofs.PeerTable

namespace Lxmf

namespace LxmfRouter

variable {σ : Type} {r : LxmfRouter σ}

-- =========================================================== the choice

/-- Of a list in the order of its rates, none of the first ones has a
higher rate than one that comes behind them. -/
theorem rate_le_of_taken {α : Type} (rate : α → ℚ) {l : List α} {n : Nat}
    {a b : α}
    (ha : a ∈ (l.mergeSort fun a b => decide (rate a ≤ rate b)).take n)
    (hb : b ∈ l)
    (hout : b ∉ (l.mergeSort fun a b => decide (rate a ≤ rate b)).take n) :
    rate a ≤ rate b := by
  have hsorted : (l.mergeSort fun a b => decide (rate a ≤ rate b)).Pairwise
      fun a b => decide (rate a ≤ rate b) = true := by
    refine List.pairwise_mergeSort ?_ ?_ l
    · intro a b c hab hbc
      exact decide_eq_true
        ((of_decide_eq_true hab).trans (of_decide_eq_true hbc))
    · intro a b
      rw [Bool.or_eq_true, decide_eq_true_iff, decide_eq_true_iff]
      exact le_total (rate a) (rate b)
  have hmem : b ∈ l.mergeSort fun a b => decide (rate a ≤ rate b) :=
    List.mem_mergeSort.mpr hb
  generalize (l.mergeSort fun a b => decide (rate a ≤ rate b)) = sorted
    at ha hout hsorted hmem
  rw [← List.take_append_drop n sorted] at hsorted hmem
  have hbehind := (List.mem_append.mp hmem).resolve_left hout
  exact of_decide_eq_true
    ((List.pairwise_append.mp hsorted).2.2 a ha b hbehind)

theorem lookup_of_mem_rotationBasis {e : Hash16 × Peer}
    (h : e ∈ r.rotationBasis) : r.peers.lookup e.1 = some e.2 := by
  have hall : e ∈ r.peers.entries.map fun e => (e.1, e.2) := by
    unfold rotationBasis at h
    dsimp only at h
    split at h
    case isTrue => exact h
    case isFalse => exact List.mem_of_mem_filter h
  obtain ⟨entry, hentry, heq⟩ := List.mem_map.mp hall
  rw [← heq]
  exact AList.mem_lookup_iff.mpr hentry

/-- The drop pool holds idle peers of the table that are not static. -/
theorem dropPool_spec {e : Hash16 × Peer} (h : e ∈ r.dropPool) :
    r.peers.lookup e.1 = some e.2 ∧ e.1 ∉ r.staticPeers
      ∧ e.2.state = .idle := by
  have hidle : e ∈ r.rotationBasis.filter fun e =>
      decide (e.1 ∉ r.staticPeers) && decide (e.2.state = .idle) := by
    unfold dropPool at h
    dsimp only at h
    split at h
    case isTrue => exact List.mem_of_mem_filter h
    case isFalse =>
      split at h
      case isTrue => exact List.mem_of_mem_filter h
      case isFalse =>
        rcases List.mem_append.mp h with hleft | hright
        · exact List.mem_of_mem_filter hleft
        · exact List.mem_of_mem_filter hright
  obtain ⟨hbasis, hkind⟩ := List.mem_filter.mp hidle
  rw [Bool.and_eq_true, decide_eq_true_iff, decide_eq_true_iff] at hkind
  exact ⟨lookup_of_mem_rotationBasis hbasis, hkind.1, hkind.2⟩

/-- The drop pool in the order of the acceptance rates. -/
def byRate (r : LxmfRouter σ) : List (Hash16 × Peer) :=
  r.dropPool.mergeSort fun a b =>
    decide (acceptanceRate a.2 ≤ acceptanceRate b.2)

/-- How many of them are looked at. -/
def dropCount (r : LxmfRouter σ) (drops : Nat) : Nat :=
  min drops (r.dropPool.length % 2 ^ 32)

theorem mem_lowRatePeers {drops : Nat} {id : Hash16} :
    id ∈ r.lowRatePeers drops
      ↔ ∃ peer, (id, peer) ∈ r.byRate.take (r.dropCount drops)
        ∧ acceptanceRate peer < rotationArMax := by
  unfold lowRatePeers
  constructor
  · intro h
    obtain ⟨e, he, rfl⟩ := List.mem_map.mp h
    obtain ⟨htaken, hrate⟩ := List.mem_filter.mp he
    exact ⟨e.2, htaken, of_decide_eq_true hrate⟩
  · rintro ⟨peer, htaken, hrate⟩
    exact List.mem_map.mpr ⟨(id, peer),
      List.mem_filter.mpr ⟨htaken, decide_eq_true hrate⟩, rfl⟩

theorem length_lowRatePeers_le (drops : Nat) :
    (r.lowRatePeers drops).length ≤ drops := by
  unfold lowRatePeers
  rw [List.length_map]
  refine (List.length_filter_le _ _).trans ?_
  refine (List.length_take_le _ _).trans ?_
  exact Nat.min_le_left ..

/-- A peer that is chosen is in the drop pool, with a low rate. -/
theorem lowRatePeers_spec {drops : Nat} {id : Hash16}
    (h : id ∈ r.lowRatePeers drops) :
    ∃ peer, (id, peer) ∈ r.dropPool
      ∧ acceptanceRate peer < rotationArMax := by
  obtain ⟨peer, htaken, hrate⟩ := mem_lowRatePeers.mp h
  exact ⟨peer, List.mem_mergeSort.mp (List.mem_of_mem_take htaken), hrate⟩

/-- No peer of the pool that is not chosen has a lower rate than one that
is. -/
theorem lowRatePeers_lowest {drops : Nat} {kept gone : Hash16 × Peer}
    (hkept : kept ∈ r.dropPool) (hout : kept.1 ∉ r.lowRatePeers drops)
    (hgone : gone ∈ r.byRate.take (r.dropCount drops))
    (hrate : acceptanceRate gone.2 < rotationArMax) :
    acceptanceRate gone.2 ≤ acceptanceRate kept.2 := by
  by_cases htaken : kept ∈ r.byRate.take (r.dropCount drops)
  · have hhigh : ¬ acceptanceRate kept.2 < rotationArMax :=
      fun hlow => hout (mem_lowRatePeers.mpr ⟨kept.2, htaken, hlow⟩)
    exact hrate.le.trans (not_lt.mp hhigh)
  · unfold byRate at hgone htaken
    exact rate_le_of_taken (fun e : Hash16 × Peer => acceptanceRate e.2)
      hgone hkept htaken

-- ========================================================== the rotation

/-- The peers that rotation takes out of the table. -/
def rotatedOut (r : LxmfRouter σ) : List Hash16 :=
  r.peers.keys.filter fun id => decide (id ∉ r.rotatePeers.peers)

/-- Rotation leaves the table alone, or takes the chosen peers out of it
and leaves two. -/
theorem rotatePeers_cases (r : LxmfRouter σ) :
    (∀ id, r.rotatePeers.peers.lookup id = r.peers.lookup id)
      ∨ ∃ maxPeers, r.maxPeers = some maxPeers
        ∧ 2 ≤ r.peerCount - r.requiredDrops maxPeers
        ∧ ∀ id, r.rotatePeers.peers.lookup id
          = if id ∈ r.lowRatePeers (r.requiredDrops maxPeers) then none
            else r.peers.lookup id := by
  rcases r.rotatePeers_eq with heq | ⟨maxPeers, hmax, hleft, heq⟩
  · rw [heq]
    exact .inl fun id => rfl
  · rw [heq]
    exact .inr ⟨maxPeers, hmax, hleft, foldl_unpeer_lookup _ r⟩

theorem mem_rotatedOut {id : Hash16} :
    id ∈ r.rotatedOut ↔ id ∈ r.peers ∧ id ∉ r.rotatePeers.peers := by
  unfold rotatedOut
  rw [List.mem_filter, decide_eq_true_iff]
  exact Iff.rfl

/-- What rotation may do to the table. -/
structure RotationSound (r : LxmfRouter σ) : Prop where
  removed : ∀ id ∈ r.rotatedOut, ∃ peer, r.peers.lookup id = some peer
    ∧ id ∉ r.staticPeers ∧ peer.state = .idle
    ∧ acceptanceRate peer < rotationArMax
  unlimited : r.maxPeers = none → r.rotatedOut = []
  bounded : ∀ maxPeers, r.maxPeers = some maxPeers →
    r.rotatedOut.length ≤ r.peers.keys.length
      - (maxPeers - max 1 (maxPeers * rotationHeadroomPct / 100))
  remaining : r.rotatedOut ≠ [] → 2 ≤ r.rotatePeers.peers.keys.length
  lowest : ∀ kept ∈ r.dropPool, kept.1 ∉ r.rotatedOut →
    ∀ id ∈ r.rotatedOut, ∀ gone, r.peers.lookup id = some gone →
    acceptanceRate gone ≤ acceptanceRate kept.2
  unchanged : ∀ id, id ∉ r.rotatedOut →
    r.rotatePeers.peers.lookup id = r.peers.lookup id

/-- Where nothing changes, nothing is taken out. -/
theorem rotatedOut_eq_nil
    (h : ∀ id, r.rotatePeers.peers.lookup id = r.peers.lookup id) :
    r.rotatedOut = [] := by
  refine List.eq_nil_iff_forall_not_mem.mpr fun id hid => ?_
  obtain ⟨hin, hout⟩ := mem_rotatedOut.mp hid
  rw [← AList.lookup_isSome, ← h id, AList.lookup_isSome] at hin
  exact hout hin

theorem RotationSound.of_same
    (h : ∀ id, r.rotatePeers.peers.lookup id = r.peers.lookup id) :
    RotationSound r := by
  have hnil := rotatedOut_eq_nil h
  refine ⟨?_, fun _ => hnil, ?_, fun hne => absurd hnil hne, ?_,
    fun id _ => h id⟩
  · intro id hid
    rw [hnil] at hid
    cases hid
  · intro maxPeers _
    rw [hnil]
    exact Nat.zero_le _
  · intro kept _ _ id hid
    rw [hnil] at hid
    cases hid

/-- Every key is taken out or still there. -/
theorem length_keys_le :
    r.peers.keys.length
      ≤ r.rotatePeers.peers.keys.length + r.rotatedOut.length := by
  have hsub : r.peers.keys ⊆ r.rotatePeers.peers.keys ++ r.rotatedOut := by
    intro id hid
    rw [List.mem_append]
    by_cases hin : id ∈ r.rotatePeers.peers
    · exact .inl (AList.mem_keys.mp hin)
    · exact .inr (mem_rotatedOut.mpr ⟨AList.mem_keys.mpr hid, hin⟩)
  have hle := (r.peers.keys_nodup.subperm hsub).length_le
  rwa [List.length_append] at hle

section Chosen

variable {drops : Nat}
  (h : ∀ id, r.rotatePeers.peers.lookup id
    = if id ∈ r.lowRatePeers drops then none else r.peers.lookup id)

include h

/-- What is taken out are the chosen ones. -/
theorem mem_rotatedOut_iff_chosen {id : Hash16} :
    id ∈ r.rotatedOut ↔ id ∈ r.lowRatePeers drops := by
  rw [mem_rotatedOut]
  by_cases hchosen : id ∈ r.lowRatePeers drops
  · refine iff_of_true ⟨?_, ?_⟩ hchosen
    · obtain ⟨peer, hpool, -⟩ := lowRatePeers_spec hchosen
      rw [← AList.lookup_isSome, (dropPool_spec hpool).1]
      rfl
    · rw [← AList.lookup_eq_none, h id, if_pos hchosen]
  · refine iff_of_false ?_ hchosen
    rintro ⟨hin, hout⟩
    rw [← AList.lookup_eq_none, h id, if_neg hchosen,
      AList.lookup_eq_none] at hout
    exact hout hin

theorem length_rotatedOut_le : r.rotatedOut.length ≤ drops := by
  have hnodup : r.rotatedOut.Nodup := r.peers.keys_nodup.filter _
  have hsub : r.rotatedOut ⊆ r.lowRatePeers drops :=
    fun id hid => (mem_rotatedOut_iff_chosen h).mp hid
  exact (hnodup.subperm hsub).length_le.trans (length_lowRatePeers_le drops)

end Chosen

/-- Whatever the table, the limit, the static peers and the flags are,
rotation takes out what it may, and leaves the rest as it is. -/
theorem rotatePeers_sound (r : LxmfRouter σ) : RotationSound r := by
  rcases rotatePeers_cases r with hsame | ⟨maxPeers, hmax, htwo, h⟩
  · exact .of_same hsame
  · have hchosen {id : Hash16} :
        id ∈ r.rotatedOut ↔ id ∈ r.lowRatePeers (r.requiredDrops maxPeers) :=
      mem_rotatedOut_iff_chosen h
    have hcount : r.peerCount ≤ r.peers.keys.length := Nat.mod_le _ _
    have hlength := length_rotatedOut_le h
    refine ⟨?_, ?_, ?_, ?_, ?_, ?_⟩
    · intro id hid
      obtain ⟨peer, hpool, hrate⟩ := lowRatePeers_spec (hchosen.mp hid)
      obtain ⟨hlookup, hstatic, hidle⟩ := dropPool_spec hpool
      exact ⟨peer, hlookup, hstatic, hidle, hrate⟩
    · intro hnone
      rw [hmax] at hnone
      cases hnone
    · intro found hfound
      rw [hmax] at hfound
      cases hfound
      have hdrops : r.requiredDrops maxPeers ≤ r.peers.keys.length
          - (maxPeers - rotationHeadroom maxPeers) :=
        Nat.sub_le_sub_right hcount _
      exact hlength.trans hdrops
    · intro _
      have hkeys := length_keys_le (r := r)
      omega
    · intro kept hkept hout id hid gone hgone
      obtain ⟨peer, htaken, hrate⟩ := mem_lowRatePeers.mp (hchosen.mp hid)
      have hpool := List.mem_mergeSort.mp (List.mem_of_mem_take htaken)
      rw [(dropPool_spec hpool).1] at hgone
      cases hgone
      exact lowRatePeers_lowest hkept (fun hin => hout (hchosen.mpr hin))
        htaken hrate
    · intro id hout
      rw [h id, if_neg fun hin => hout (hchosen.mpr hin)]

end LxmfRouter

end Lxmf
