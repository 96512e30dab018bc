/-
What a propagation node announces, and what is made of it elsewhere
(lxmf-rs/src/rns/router.rs: `get_propagation_node_app_data`,
`get_outbound_propagation_cost`; lxmf-rs/src/pn.rs).

The announce is built as a whole and taken apart by position: the
directory checks six of its seven elements and reads the name and the
stamp cost, and the router that chose the node reads the cost once more.
Each of them reads back what the settings of the node were, whatever
they are.
-/
import Lxmf.Proofs.PnDir
import Lxmf.Proofs.PeerSync
import Lxmf.Router.Operations

namespace Lxmf

-- =============================================================== strings

/-- A string is read back from its bytes. -/
theorem fromUTF8_strBytes (s : String) :
    String.fromUTF8? ⟨(strBytes s).toArray⟩ = some s := by
  have hbytes : (⟨(strBytes s).toArray⟩ : ByteArray) = s.toByteArray := by
    unfold strBytes
    rw [Array.toArray_toList]
    rfl
  rw [hbytes]
  unfold String.fromUTF8?
  rw [dif_pos s.isValidUTF8]
  rfl

theorem asU64_ofU64 {n : Nat} (h : n < 2 ^ 64) :
    (Integer.ofU64 n).asU64 = some n := by
  have hmod : n % 2 ^ 64 = n := Nat.mod_eq_of_lt h
  unfold Integer.asU64 Integer.ofU64
  dsimp only
  rw [if_pos (Int.natCast_nonneg _), Int.toNat_natCast, hmod]

-- ========================================================== the announce

namespace LxmfRouter

variable {σ : Type} {P : Platform} {r : LxmfRouter σ} {bytes : Bytes}

/-- The metadata of an announce name the node. -/
theorem nameFromMetadata_announced (r : LxmfRouter σ) :
    nameFromMetadata (r.getPropagationNodeAnnounceMetadata.entries.map
      fun e => (Value.integer (.ofU8 e.1), .binary e.2)) = r.name := by
  unfold getPropagationNodeAnnounceMetadata
  cases r.name with
  | none => rfl
  | some name => exact fromUTF8_strBytes name

theorem announce_isValid (h : P.readValue bytes = .ok r.announceData) :
    pnAnnounceDataIsValid P bytes = true := by
  unfold pnAnnounceDataIsValid
  rw [h]
  rfl

theorem announce_name (h : P.readValue bytes = .ok r.announceData) :
    pnNameFromAppData P bytes = r.name := by
  unfold pnNameFromAppData
  rw [if_pos (announce_isValid h), h]
  exact nameFromMetadata_announced r

theorem announce_stampCost (h : P.readValue bytes = .ok r.announceData)
    (hcost : r.announcedStampCost < 2 ^ 32) :
    pnStampCostFromAppData P bytes = some r.announcedStampCost := by
  have h64 : r.announcedStampCost < 2 ^ 64 := hcost.trans (by decide)
  unfold pnStampCostFromAppData
  rw [h]
  exact asU64_ofU64 h64

/-- A router that chose the node asks for the cost of its announce. -/
theorem getOutboundPropagationCost_of_lookup {node : Hash16}
    {entry : PnDirectoryEntry} (hnode : r.outboundPropagationNode = some node)
    (hentry : r.pnDirectory.lookup node = some entry) :
    (r.getOutboundPropagationCost P).1
      = (pnStampCostFromAppData P entry.appData).map (· % 2 ^ 32) := by
  unfold getOutboundPropagationCost
  rw [hnode]
  dsimp only
  rw [hentry]

theorem upsertAnnounce_of_valid (d : PnDirectory) (node : Hash16)
    (nowMs : Nat) (h : pnAnnounceDataIsValid P bytes = true) :
    d.upsertAnnounce P node bytes nowMs
      = .ok (d.insert node {
          destinationHash := node
          appData := bytes
          name := pnNameFromAppData P bytes
          stampCost := pnStampCostFromAppData P bytes
          lastSeenMs := nowMs
          acked := ((d.lookup node).map (·.acked)).getD false }) := by
  unfold PnDirectory.upsertAnnounce
  rw [h]
  rfl

/-- Every directory accepts the announce of a router, whatever its
settings are, and takes over its name and its stamp cost; and a router
that has this announce of the node it chose asks for the same cost. The
cost is a `u32`. -/
theorem announce_is_understood (hP : RmpvCodec P) (r : LxmfRouter σ)
    (hcost : r.announcedStampCost < 2 ^ 32) :
    ∃ bytes, r.getPropagationNodeAppData P = some bytes
      ∧ ∀ (d : PnDirectory) (node : Hash16) (nowMs : Nat),
        ∃ (d' : PnDirectory) (entry : PnDirectoryEntry),
          d.upsertAnnounce P node bytes nowMs = .ok d'
          ∧ d'.lookup node = some entry
          ∧ entry.name = r.name
          ∧ entry.stampCost = some r.announcedStampCost
          ∧ ∀ (τ : Type) (other : LxmfRouter τ),
            other.outboundPropagationNode = some node →
            other.pnDirectory.lookup node = some entry →
            (other.getOutboundPropagationCost P).1
              = some r.announcedStampCost := by
  obtain ⟨bytes, hwrite⟩ := hP.write_ok r.announceData
  have hread := hP.read_write _ _ hwrite
  have hstamp := announce_stampCost hread hcost
  have hencode : r.getPropagationNodeAppData P = some bytes := by
    unfold getPropagationNodeAppData
    rw [hwrite]
    rfl
  refine ⟨bytes, hencode, fun d node nowMs => ?_⟩
  refine ⟨_, _, upsertAnnounce_of_valid d node nowMs
    (announce_isValid hread), AList.lookup_insert _, announce_name hread,
    hstamp, fun τ other hnode hentry => ?_⟩
  rw [getOutboundPropagationCost_of_lookup hnode hentry, hstamp,
    Option.map_some, Nat.mod_eq_of_lt hcost]

section Instance

open Reference

/-- A router with a name, and every setting else as it is built. -/
def docAnnouncer : LxmfRouter InMemoryStore :=
  docNode.set (.name (some "relay"))

theorem announce_is_understood_doc :
    ∃ bytes, docAnnouncer.getPropagationNodeAppData platform = some bytes
      ∧ ∀ (d : PnDirectory) (node : Hash16) (nowMs : Nat),
        ∃ (d' : PnDirectory) (entry : PnDirectoryEntry),
          d.upsertAnnounce platform node bytes nowMs = .ok d'
          ∧ d'.lookup node = some entry
          ∧ entry.name = some "relay"
          ∧ entry.stampCost = some defaultPropagationStampCost
          ∧ ∀ (τ : Type) (other : LxmfRouter τ),
            other.outboundPropagationNode = some node →
            other.pnDirectory.lookup node = some entry →
            (other.getOutboundPropagationCost platform).1
              = some defaultPropagationStampCost :=
  announce_is_understood platform_rmpvCodec docAnnouncer (by decide)

end Instance

end LxmfRouter

end Lxmf
