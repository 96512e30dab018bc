/-
One rule for stamps, one id for a message.

A node that checks PN stamps files a message under the hash of its data
without the stamp, and a node that does not under the hash of all of
it. Where every node checks, or none does, a message keeps its id
wherever it goes, and what a node acknowledges is what it was sent: of
the two conditions on a payload only the second is left.

# What a node stores

Whatever a node stores was stored before or passed this node's own
check (`Grows`), and whatever it sends is stored. Both hold of every
step, so along a run every stored and every sent entry passed some
node's check.
-/
import Lxmf.Proofs.Network

namespace Lxmf

open Run

section OneNode

variable {σ : Type} {P : Platform}

-- ======================================================== one message

/-- The entry is filed under the hash of its data without the stamp. -/
def PropagationEntry.Stamped (P : Platform) (entry : PropagationEntry) :
    Prop :=
  entry.transientId
    = fullHash P (entry.lxmData.take (entry.lxmData.length - stampSize))

namespace LxmfRouter

/-- Where no stamps are checked an entry stays as it came. -/
theorem stampChecked_none {sent entry : PropagationEntry}
    (h : stampChecked P none sent = some entry) : entry = sent := by
  injection h with h
  exact h.symm

/-- A check that passes leaves the data alone and gives the id of the
data without its stamp. -/
theorem stampChecked_some {cost : Nat} {sent entry : PropagationEntry}
    (h : stampChecked P (some cost) sent = some entry) :
    entry.lxmData = sent.lxmData ∧ entry.Stamped P := by
  simp only [stampChecked] at h
  split at h
  case h_2 => cases h
  case h_1 id unstamped value stamp hvalid =>
    cases h
    simp only [validatePnStamp] at hvalid
    split at hvalid
    case isTrue => cases hvalid
    case isFalse =>
      split at hvalid
      case h_1 => cases hvalid
      case h_2 =>
        split at hvalid
        case isFalse => cases hvalid
        case isTrue =>
          cases hvalid
          unfold PropagationEntry.Stamped
          dsimp only
          rw [List.take_append_drop]
          exact ⟨rfl, rfl⟩

/-- What is already under the right id stays there. -/
theorem stampChecked_same_id {cost : Nat} {sent entry : PropagationEntry}
    (h : stampChecked P (some cost) sent = some entry)
    (hsent : sent.Stamped P) : entry.transientId = sent.transientId := by
  obtain ⟨hdata, hentry⟩ := stampChecked_some h
  unfold PropagationEntry.Stamped at hsent hentry
  rw [hentry, hsent, hdata]

-- ========================================================== one node

/-- What a handler may do to a store: drop entries, and add ones that
pass the node's own check. -/
structure Grows (P : Platform) (r r' : LxmfRouter σ) : Prop where
  validation : r'.propagationValidation = r.propagationValidation
  stored : ∀ id entry, r'.propagationStore.get id = some entry →
    r.propagationStore.get id = some entry
      ∨ ∃ sent, stampChecked P r.minStampCost sent = some entry

theorem Grows.minStampCost {r r' : LxmfRouter σ} (h : Grows P r r') :
    r'.minStampCost = r.minStampCost := by
  unfold LxmfRouter.minStampCost
  rw [h.validation]

/-- A router with the same store and the same rule. -/
theorem Grows.of_eq {r r' : LxmfRouter σ}
    (hvalidation : r'.propagationValidation = r.propagationValidation)
    (hstore : r'.propagationStore = r.propagationStore) :
    Grows P r r' := by
  refine ⟨hvalidation, ?_⟩
  intro id entry h
  rw [hstore] at h
  exact .inl h

theorem Grows.trans {r r' r'' : LxmfRouter σ} (h : Grows P r r')
    (h' : Grows P r' r'') : Grows P r r'' := by
  refine ⟨h'.validation.trans h.validation, ?_⟩
  intro id entry hget
  rcases h'.stored id entry hget with hold | hchecked
  · exact h.stored id entry hold
  · rw [h.minStampCost] at hchecked
    exact .inr hchecked

/-- A loop of such steps. -/
theorem Grows.foldl {α : Type} {f : LxmfRouter σ → α → LxmfRouter σ}
    (hf : ∀ r a, Grows P r (f r a)) (as : List α) (r : LxmfRouter σ) :
    Grows P r (as.foldl f r) := by
  induction as generalizing r with
  | nil => exact .of_eq rfl rfl
  | cons a as ih => exact (hf r a).trans (ih (f r a))

/-- An entry that passed the check is filed. -/
theorem fileEntry_grows {r : LxmfRouter σ}
    {sent entry : PropagationEntry}
    (h : stampChecked P r.minStampCost sent = some entry) (nowMs : Nat) :
    Grows P r (r.fileEntry P entry nowMs) := by
  obtain ⟨root, hfile⟩ := fileEntry_eq (P := P) r entry nowMs
  rw [hfile]
  refine ⟨rfl, ?_⟩
  intro id found hfound
  change (r.propagationStore.entries.insert entry.transientId
    entry).lookup id = _ at hfound
  by_cases hid : id = entry.transientId
  · subst hid
    rw [AList.lookup_insert] at hfound
    injection hfound with hfound
    subst hfound
    exact .inr ⟨sent, h⟩
  · rw [AList.lookup_insert_ne hid] at hfound
    exact .inl hfound

/-- To remove an entry adds none. -/
theorem removeEntry_grows (r : LxmfRouter σ) (t : Hash32) :
    Grows P r (r.removeEntry t) := by
  obtain ⟨root, hremove⟩ := removeEntry_eq r t
  rw [hremove]
  refine ⟨rfl, ?_⟩
  intro id found hfound
  change (r.propagationStore.entries.erase t).lookup id = _ at hfound
  exact .inl (HashMap.lookup_of_lookup_erase hfound).2

theorem processPropagated_grows (r : LxmfRouter σ) (timestamp : F64)
    (lxmData : Bytes) (nowMs : Nat) (source : Option Hash16)
    (count : Bool) :
    Grows P r (r.processPropagated P timestamp lxmData nowMs source
      count).2 := by
  unfold processPropagated
  split
  case h_1 => exact .of_eq rfl rfl
  case h_2 entry hchecked =>
    split
    case isTrue => exact .of_eq rfl rfl
    case isFalse =>
      have hfiled := fileEntry_grows hchecked nowMs
      exact ⟨hfiled.validation, hfiled.stored⟩

/-- The loop checks every item by the same rule, the node's own. -/
theorem applyItem_grows {minCost : Option Nat} (nowMs : Nat)
    (acc : PayloadTally × LxmfRouter σ) (item : Bytes)
    (hcost : acc.2.minStampCost = minCost) :
    Grows P acc.2 (applyItem P minCost nowMs acc item).2 := by
  unfold applyItem
  dsimp only
  split
  case h_1 => exact .of_eq rfl rfl
  case h_2 =>
    split
    case h_2 => exact .of_eq rfl rfl
    case h_1 entry hchecked =>
      unfold acceptItem
      dsimp only
      split
      case isTrue => exact .of_eq rfl rfl
      case isFalse =>
        rw [← hcost] at hchecked
        exact fileEntry_grows hchecked nowMs

theorem applyItems_grows (r : LxmfRouter σ) (response : PeerSyncResponse)
    (nowMs : Nat) : Grows P r (r.applyItems P response nowMs).2 := by
  unfold applyItems
  split
  case h_2 => exact .of_eq rfl rfl
  case h_1 items =>
    suffices ∀ acc : PayloadTally × LxmfRouter σ,
        acc.2.minStampCost = r.minStampCost →
        Grows P acc.2
          (items.foldl (applyItem P r.minStampCost nowMs) acc).2 from
      this ({}, r) rfl
    induction items with
    | nil => exact fun acc _ => .of_eq rfl rfl
    | cons item items ih =>
        intro acc hcost
        have hone := applyItem_grows (P := P) nowMs acc item hcost
        exact hone.trans (ih _ (hone.minStampCost.trans hcost))

theorem handlePeerSyncAck_grows (r : LxmfRouter σ) (peerId : Hash16)
    (req : PeerSyncRequest) (nowMs : Nat) :
    Grows P r (r.handlePeerSyncAck peerId req nowMs).2 := by
  unfold handlePeerSyncAck
  split
  case h_1 delivered =>
    have hdropped : Grows P r (delivered.foldl removeEntry r) :=
      .foldl removeEntry_grows delivered r
    exact ⟨hdropped.validation, hdropped.stored⟩
  case h_2 => exact .of_eq rfl rfl

end LxmfRouter

end OneNode

-- ========================================================= the network

namespace Network

section Rule

variable {ι σ : Type} {P : Platform}

/-- Every item of a payload is an entry some node stores. -/
def SendsStored (P : Platform) (s : Network ι σ) (e : Envelope ι) : Prop :=
  ∀ response, e.leg = .payload response → ∀ item ∈ payloadItems response,
    ∃ node id entry,
      (s.nodes node).propagationStore.get id = some entry
        ∧ entry.toBytes P = .ok item

/-- What a step does to the stores and to the payloads in flight. -/
structure Spreads (P : Platform) (s s' : Network ι σ) : Prop where
  nodes : ∀ node, LxmfRouter.Grows P (s.nodes node) (s'.nodes node)
  inFlight : ∀ e ∈ s'.inFlight, e ∈ s.inFlight ∨ SendsStored P s e

theorem Spreads.accept {s s' : Network ι σ} (h : Spreads P s s')
    (ids : List Hash32) : Spreads P s (s'.accept ids) :=
  ⟨h.nodes, h.inFlight⟩

/-- A message that carries what is stored may go. -/
theorem Spreads.send {s s' : Network ι σ} (h : Spreads P s s')
    {e : Envelope ι} (he : SendsStored P s e) : Spreads P s (s'.send e) := by
  refine ⟨h.nodes, ?_⟩
  intro e' he'
  rcases List.mem_append.mp he' with hold | hnew
  · exact h.inFlight e' hold
  · rw [List.mem_singleton.mp hnew]
    exact .inr he

-- ============================================================ one rule

/-- No node checks stamps, or every node does and every entry, stored or
sent, is under the id of its data without the stamp. -/
def OneRule (P : Platform) (s : Network ι σ) : Prop :=
  (∀ node, (s.nodes node).minStampCost = none)
  ∨ (∀ node, (s.nodes node).minStampCost ≠ none)
    ∧ (∀ node id entry,
      (s.nodes node).propagationStore.get id = some entry →
        entry.Stamped P)
    ∧ ∀ e ∈ s.inFlight, ∀ response, e.leg = .payload response →
      ∀ item ∈ payloadItems response, ∀ sent,
        PropagationEntry.fromBytes P item = .ok sent → sent.Stamped P

/-- A step that only spreads keeps the rule. -/
theorem OneRule.step (hP : RmpvCodec P) {s s' : Network ι σ}
    (h : OneRule P s) (hspreads : Spreads P s s') : OneRule P s' := by
  rcases h with hnone | hall
  · refine .inl fun node => ?_
    rw [(hspreads.nodes node).minStampCost]
    exact hnone node
  · obtain ⟨hcost, hstored, hsent⟩ := hall
    refine .inr ⟨?_, ?_, ?_⟩
    · intro node
      rw [(hspreads.nodes node).minStampCost]
      exact hcost node
    · intro node id entry hget
      rcases (hspreads.nodes node).stored id entry hget with hold | hchecked
      · exact hstored node id entry hold
      · obtain ⟨sent, hchecked⟩ := hchecked
        obtain ⟨cost, hsome⟩ :=
          Option.ne_none_iff_exists'.mp (hcost node)
        rw [hsome] at hchecked
        exact (LxmfRouter.stampChecked_some hchecked).2
    · intro e he response hleg item hitem sent hfrom
      rcases hspreads.inFlight e he with hold | hnew
      · exact hsent e hold response hleg item hitem sent hfrom
      · obtain ⟨node, id, entry, hget, hto⟩ :=
          hnew response hleg item hitem
        obtain ⟨hid, hdata⟩ := hP.fromBytes_toBytes hto hfrom
        unfold PropagationEntry.Stamped
        rw [hid, hdata]
        exact hstored node id entry hget

/-- What a payload brings and the node processed before, it still
holds. -/
def HoldsProcessed (P : Platform) (s : Network ι σ) :
    NetworkAction ι → Prop
  | .deliver index _ _ => ∀ p ∈ s.payloadAt index, ∀ item ∈ p.2,
      ∀ sent entry, PropagationEntry.fromBytes P item = .ok sent →
      LxmfRouter.stampChecked P (s.nodes p.1).minStampCost sent
        = some entry →
      entry.transientId ∈ (s.nodes p.1).locallyProcessed →
        (s.nodes p.1).propagationStore.has entry.transientId = true
  | _ => True

/-- Under one rule an item is filed under the id it was sent under. -/
theorem OneRule.same_id {s : Network ι σ} (h : OneRule P s)
    {index : Nat} {p : ι × List Bytes} (hp : p ∈ s.payloadAt index)
    {item : Bytes} (hitem : item ∈ p.2) {sent entry : PropagationEntry}
    (hsent : PropagationEntry.fromBytes P item = .ok sent)
    (hchecked : LxmfRouter.stampChecked P (s.nodes p.1).minStampCost sent
      = some entry) : entry.transientId = sent.transientId := by
  rcases h with hnone | hall
  · rw [hnone p.1] at hchecked
    rw [LxmfRouter.stampChecked_none hchecked]
  · obtain ⟨hcost, _, hflight⟩ := hall
    obtain ⟨cost, hsome⟩ := Option.ne_none_iff_exists'.mp (hcost p.1)
    rw [hsome] at hchecked
    refine LxmfRouter.stampChecked_same_id hchecked ?_
    unfold payloadAt at hp
    split at hp
    case h_2 => cases hp
    case h_1 src dst items hindex =>
      cases hp
      exact hflight _ (List.mem_of_getElem? hindex) _ rfl item hitem sent
        hsent

-- ============================================================ one step

variable [DecidableEq ι]

/-- A node may file by its own check. -/
theorem Spreads.setNode {s : Network ι σ} {node : ι} {r : LxmfRouter σ}
    (h : LxmfRouter.Grows P (s.nodes node) r) :
    Spreads P s (s.setNode node r) := by
  refine ⟨?_, fun e he => .inl he⟩
  intro other
  by_cases hother : other = node
  · subst hother
    rw [setNode_self]
    exact h
  · rw [setNode_of_ne s r hother]
    exact .of_eq rfl rfl

/-- Every leg of a sync does no more. -/
theorem deliverLeg_spreads (s : Network ι σ) (address : ι → Hash16)
    (src dst : ι) (limit : Option F64) (nowMs : Nat) (leg : PeerSyncLeg) :
    Spreads P s (s.deliverLeg P address src dst limit nowMs leg) := by
  cases leg with
  | offer req =>
      obtain ⟨peers, hr⟩ := LxmfRouter.handlePeerSyncOffer_eq (P := P)
        (s.nodes dst) (address src) req nowMs
      have hgrows : LxmfRouter.Grows P (s.nodes dst)
          ((s.nodes dst).handlePeerSyncOffer P (address src) req nowMs).2 :=
        .of_eq (by rw [hr]) (by rw [hr])
      exact Spreads.send (.setNode hgrows) (fun _ h => by cases h)
  | answer response =>
      obtain ⟨peers, hr⟩ := LxmfRouter.peerSyncMessageGet_eq (s.nodes src)
        (address dst) response limit nowMs
      have hgrows : LxmfRouter.Grows P (s.nodes src)
          ((s.nodes src).peerSyncMessageGet (address dst) response limit
            nowMs).2 := .of_eq (by rw [hr]) (by rw [hr])
      simp only [deliverLeg]
      split
      case h_1 req r hget =>
        rw [hget] at hgrows
        exact Spreads.send (.setNode hgrows) (fun _ h => by cases h)
      case h_2 r hget =>
        rw [hget] at hgrows
        exact .setNode hgrows
  | get req =>
      obtain ⟨peers, stats, hr⟩ := LxmfRouter.handlePeerSyncMessageGet_eq
        (P := P) (s.nodes dst) (address src) req nowMs
      have hgrows : LxmfRouter.Grows P (s.nodes dst)
          ((s.nodes dst).handlePeerSyncMessageGet P (address src) req
            nowMs).2 := .of_eq (by rw [hr]) (by rw [hr])
      refine Spreads.send (.setNode hgrows) ?_
      intro response hresponse item hitem
      injection hresponse with hresponse
      rw [← hresponse] at hitem
      obtain ⟨id, _, entry, hget, hto⟩ :=
        LxmfRouter.handlePeerSyncMessageGet_items nowMs hitem
      exact ⟨dst, id, entry, hget, hto⟩
  | payload response =>
      have hgrows := LxmfRouter.applyItems_grows (P := P) (s.nodes dst)
        response nowMs
      have happlied : LxmfRouter.Grows P (s.nodes dst)
          ((s.nodes dst).applyPeerSyncPayload P (address src) response
            nowMs).2 := ⟨hgrows.validation, hgrows.stored⟩
      simp only [deliverLeg]
      split
      case h_1 req r heq =>
        rw [heq] at happlied
        refine Spreads.send (.accept (.setNode happlied) _) ?_
        intro response hleg
        cases hleg
      case h_2 r heq =>
        rw [heq] at happlied
        exact .setNode happlied
  | ack req => exact .setNode (LxmfRouter.handlePeerSyncAck_grows ..)

/-- Nor does any action. -/
theorem apply_spreads {s s' : Network ι σ} {address : ι → Hash16}
    {a : NetworkAction ι} (happly : apply P address a s = some s') :
    Spreads P s s' := by
  cases a with
  | processPropagated node timestamp lxmData nowMs source count =>
      have hgrows := LxmfRouter.processPropagated_grows (P := P)
        (s.nodes node) timestamp lxmData nowMs source count
      simp only [apply] at happly
      split at happly
      case h_1 heq =>
        rw [heq] at hgrows
        cases happly
        exact .accept (.setNode hgrows) _
      case h_2 heq =>
        rw [heq] at hgrows
        cases happly
        exact .setNode hgrows
  | peerSyncOffer src dst peeringKey nowMs =>
      have hgrows : LxmfRouter.Grows P (s.nodes src)
          ((s.nodes src).peerSyncOffer (address dst) peeringKey nowMs).2 :=
        .of_eq rfl rfl
      cases happly
      exact Spreads.send (.setNode hgrows) (fun _ h => by cases h)
  | deliver index limit nowMs =>
      simp only [apply] at happly
      split at happly
      case h_2 => cases happly
      case h_1 e _ =>
        cases happly
        exact deliverLeg_spreads s address e.src e.dst limit nowMs e.leg

/-- Where every node checks stamps, or none does, nodes that hold what
they processed hold what they acknowledge. -/
theorem reaches_holdsWhatItAcks (hP : RmpvCodec P)
    {address : ι → Hash16} {nodes : ι → LxmfRouter σ}
    (hempty : ∀ node, (nodes node).propagationStore = .new)
    (hrule : (∀ node, (nodes node).minStampCost = none)
      ∨ ∀ node, (nodes node).minStampCost ≠ none)
    {s : Network ι σ}
    (hrun : Reaches (apply P address) (HoldsProcessed P) (.start nodes)
      s) :
    Reaches (apply P address) (HoldsWhatItAcks P) (.start nodes) s := by
  have hstart : OneRule P (start nodes) := by
    refine hrule.imp id fun hcost => ⟨hcost, ?_, ?_⟩
    · intro node id entry hget
      change (nodes node).propagationStore.get id = some entry at hget
      rw [hempty node] at hget
      cases hget
    · intro e he
      cases he
  refine hrun.weaken hstart ?_ ?_
  · intro s a s' h _ happly
    exact h.step hP (apply_spreads happly)
  · intro s a h hok
    cases a with
    | processPropagated => trivial
    | peerSyncOffer => trivial
    | deliver index limit nowMs =>
        intro p hp item hitem sent entry hsent hchecked
        exact ⟨h.same_id hp hitem hsent hchecked,
          hok p hp item hitem sent entry hsent hchecked⟩

end Rule

end Network

end Lxmf
