/-
Peer sync between any number of nodes.

# The network

A message in flight is one leg of an exchange between two nodes. It is
never taken out of flight: it may be delivered late, more than once or
not at all. The answer to an offer is kept with the node that gave it,
which asks for what the answer wants at any later time.

# What can be lost

An acknowledgement makes its receiver drop what it names. A node that
holds what it acknowledges took it after the node it acknowledges it
to, so the copies are the holders of a ledger (`Custody`) and the last
one to take a message keeps it. A node that acknowledges what it only
remembers breaks the chain.
-/
import Lxmf.Library.Custody
import Lxmf.Library.Run
import Lxmf.Proofs.PeerSync

namespace Lxmf

open Run Custody

-- ========================================================= the network

/-- One message of an exchange. -/
inductive PeerSyncLeg where
  | offer (req : PeerSyncRequest)
  | answer (response : PeerSyncResponse)
  | get (req : PeerSyncRequest)
  | payload (response : PeerSyncResponse)
  | ack (req : PeerSyncRequest)

structure Envelope (ι : Type) where
  src : ι
  dst : ι
  leg : PeerSyncLeg

structure Network (ι σ : Type) where
  nodes : ι → LxmfRouter σ
  inFlight : List (Envelope ι)
  /-- The ids some node accepted, from outside or from a peer. -/
  accepted : List Hash32

inductive NetworkAction (ι : Type) where
  | processPropagated (node : ι) (timestamp : F64) (lxmData : Bytes)
      (nowMs : Nat) (sourceHash : Option Hash16) (countClientReceive : Bool)
  | peerSyncOffer (src dst : ι) (peeringKey : Bytes) (nowMs : Nat)
  | deliver (index : Nat) (transferLimitKb : Option F64) (nowMs : Nat)

namespace Network

variable {ι σ : Type} (P : Platform)

def start (nodes : ι → LxmfRouter σ) : Network ι σ := ⟨nodes, [], []⟩

def setNode [DecidableEq ι] (s : Network ι σ) (node : ι)
    (r : LxmfRouter σ) : Network ι σ :=
  { s with nodes := Function.update s.nodes node r }

def send (s : Network ι σ) (e : Envelope ι) : Network ι σ :=
  { s with inFlight := s.inFlight ++ [e] }

def accept (s : Network ι σ) (ids : List Hash32) : Network ι σ :=
  { s with accepted := s.accepted ++ ids }

section Steps

variable [DecidableEq ι] (address : ι → Hash16)

/-- What the node at the other end of a leg does. -/
def deliverLeg (s : Network ι σ) (src dst : ι)
    (transferLimitKb : Option F64) (nowMs : Nat) :
    PeerSyncLeg → Network ι σ
  | .offer req =>
      let (response, r) := (s.nodes dst).handlePeerSyncOffer P
        (address src) req nowMs
      (s.setNode dst r).send ⟨dst, src, .answer response⟩
  | .answer response =>
      -- the node that answered asks for what its answer wants
      match (s.nodes src).peerSyncMessageGet (address dst) response
          transferLimitKb nowMs with
      | (some req, r) => (s.setNode src r).send ⟨src, dst, .get req⟩
      | (none, r) => s.setNode src r
  | .get req =>
      let (response, r) := (s.nodes dst).handlePeerSyncMessageGet P
        (address src) req nowMs
      (s.setNode dst r).send ⟨dst, src, .payload response⟩
  | .payload response =>
      match (s.nodes dst).applyPeerSyncPayload P (address src) response
          nowMs with
      | (some req, r) =>
          ((s.setNode dst r).accept (LxmfRouter.acknowledged req)).send
            ⟨dst, src, .ack req⟩
      | (none, r) => s.setNode dst r
  | .ack req =>
      s.setNode dst ((s.nodes dst).handlePeerSyncAck (address src) req
        nowMs).2

def apply : NetworkAction ι → Network ι σ → Option (Network ι σ)
  | .processPropagated node timestamp lxmData nowMs source count, s =>
      match (s.nodes node).processPropagated P timestamp lxmData nowMs
          source count with
      | (some id, r) => some ((s.setNode node r).accept [id])
      | (none, r) => some (s.setNode node r)
  | .peerSyncOffer src dst peeringKey nowMs, s =>
      let (req, r) := (s.nodes src).peerSyncOffer (address dst) peeringKey
        nowMs
      some ((s.setNode src r).send ⟨src, dst, .offer req⟩)
  | .deliver index limit nowMs, s =>
      match s.inFlight[index]? with
      | some e =>
          some (s.deliverLeg P address e.src e.dst limit nowMs e.leg)
      | none => none

end Steps

-- ======================================================= the condition

/-- Who holds what. -/
def held (s : Network ι σ) : Set (ι × Hash32) :=
  { p | (s.nodes p.1).propagationStore.has p.2 = true }

/-- A payload that reaches this node is filed under the ids it was sent
under, and what the node processed before it still holds. -/
def Holds (r : LxmfRouter σ) (items : List Bytes) : Prop :=
  ∀ item ∈ items, ∀ sent entry,
    PropagationEntry.fromBytes P item = .ok sent →
    LxmfRouter.stampChecked P r.minStampCost sent = some entry →
    entry.transientId = sent.transientId
      ∧ (entry.transientId ∈ r.locallyProcessed →
        r.propagationStore.has entry.transientId = true)

/-- The payload a delivery brings, with the node it is for. -/
def payloadAt (s : Network ι σ) (index : Nat) : Option (ι × List Bytes) :=
  match s.inFlight[index]? with
  | some ⟨_, dst, .payload (.payload items)⟩ => some (dst, items)
  | _ => none

/-- Every node holds what it acknowledges. -/
def HoldsWhatItAcks (s : Network ι σ) : NetworkAction ι → Prop
  | .deliver index _ _ =>
      ∀ p ∈ s.payloadAt index, Holds P (s.nodes p.1) p.2
  | _ => True

/-- The test `Holds` makes of one item. -/
def holdsItem (r : LxmfRouter σ) (item : Bytes) : Bool :=
  match PropagationEntry.fromBytes P item with
  | .error _ => true
  | .ok sent =>
      match LxmfRouter.stampChecked P r.minStampCost sent with
      | none => true
      | some entry =>
          decide (entry.transientId = sent.transientId)
            && (!decide (entry.transientId ∈ r.locallyProcessed)
              || r.propagationStore.has entry.transientId)

theorem holdsItem_iff (r : LxmfRouter σ) (items : List Bytes) :
    (∀ item ∈ items, holdsItem P r item = true) ↔ Holds P r items := by
  constructor
  · intro h item hitem sent entry hsent hchecked
    have hone := h item hitem
    unfold holdsItem at hone
    rw [hsent] at hone
    dsimp only at hone
    rw [hchecked] at hone
    simpa [or_iff_not_imp_left] using hone
  · intro h item hitem
    unfold holdsItem
    split
    case h_1 => rfl
    case h_2 sent hsent =>
      split
      case h_1 => rfl
      case h_2 entry hchecked =>
        have hone := h item hitem sent entry hsent hchecked
        simpa [or_iff_not_imp_left] using hone

instance (r : LxmfRouter σ) (items : List Bytes) :
    Decidable (Holds P r items) :=
  decidable_of_iff _ (holdsItem_iff P r items)

instance (s : Network ι σ) (a : NetworkAction ι) :
    Decidable (HoldsWhatItAcks P s a) :=
  match a with
  | .deliver index _ _ =>
      inferInstanceAs (Decidable
        (∀ p ∈ s.payloadAt index, Holds P (s.nodes p.1) p.2))
  | .processPropagated .. => .isTrue trivial
  | .peerSyncOffer .. => .isTrue trivial

end Network

-- ==================================================== what travels

/-- The ids an offer names. -/
def offeredIds : PeerSyncRequest → List Hash32
  | .offer _ available => available
  | _ => []

/-- The ids a get asks for. -/
def gotIds : PeerSyncRequest → List Hash32
  | .messageGet wants _ _ => wants
  | _ => []

def payloadItems : PeerSyncResponse → List Bytes
  | .payload items => items
  | _ => []

/-- Every entry is stored under its own id. -/
def PropagationStore.Keyed (s : PropagationStore) : Prop :=
  ∀ id entry, s.get id = some entry → entry.transientId = id

section Travels

variable {σ : Type} {P : Platform}

namespace PropagationStore

theorem keyed_new : Keyed .new := by
  intro id entry h
  cases h

theorem Keyed.insert {s : PropagationStore} (h : s.Keyed)
    (entry : PropagationEntry) : (s.insert P entry).Keyed := by
  intro id found hfound
  change (s.entries.insert entry.transientId entry).lookup id = _ at hfound
  by_cases hid : id = entry.transientId
  · subst hid
    rw [AList.lookup_insert] at hfound
    cases hfound
    rfl
  · rw [AList.lookup_insert_ne hid] at hfound
    exact h id found hfound

theorem Keyed.remove {s : PropagationStore} (h : s.Keyed) (t : Hash32) :
    (s.remove t).Keyed := by
  intro id found hfound
  change (s.entries.erase t).lookup id = _ at hfound
  exact h id found (HashMap.lookup_of_lookup_erase hfound).2

end PropagationStore

/-- An entry that is sent arrives under its own id. -/
theorem RmpvCodec.fromBytes_toBytes (hP : RmpvCodec P)
    {entry sent : PropagationEntry} {bytes : Bytes}
    (hto : entry.toBytes P = .ok bytes)
    (hfrom : PropagationEntry.fromBytes P bytes = .ok sent) :
    sent.transientId = entry.transientId
      ∧ sent.lxmData = entry.lxmData := by
  have hread : readRns P bytes = .ok entry.toValue := by
    unfold PropagationEntry.toBytes writeRns at hto
    rw [Except.mapError_eq_ok] at hto
    unfold readRns
    rw [hP.read_write _ _ hto]
    rfl
  obtain ⟨arr, harr, hfrom⟩ := Except.bind_eq_ok.mp hfrom
  obtain ⟨id, hid, hfrom⟩ := Except.bind_eq_ok.mp hfrom
  obtain ⟨lxmData, hdata, hfrom⟩ := Except.bind_eq_ok.mp hfrom
  obtain ⟨timestamp, _, hfrom⟩ := Except.bind_eq_ok.mp hfrom
  unfold readFields at harr
  rw [hread] at harr
  cases harr
  change orMsgpack _ (valueToFixedBytes hashLength
    (.binary entry.transientId.toList)) = .ok id at hid
  rw [valueToFixedBytes_binary] at hid
  cases hid
  cases hdata
  cases hfrom
  exact ⟨rfl, rfl⟩

namespace LxmfRouter

/-- An answer wants what was offered and is not stored. -/
theorem handlePeerSyncOffer_wants {r : LxmfRouter σ} {peerId : Hash16}
    {req : PeerSyncRequest} {nowMs : Nat} {store : PropagationStore}
    {t : Hash32}
    (h : t ∈ wantedIds store
      (r.handlePeerSyncOffer P peerId req nowMs).1) :
    t ∈ offeredIds req ∧ ¬ r.propagationStore.has t = true := by
  unfold handlePeerSyncOffer at h
  split at h
  case h_1 peeringKey available =>
    dsimp only at h
    split at h
    case isTrue =>
      unfold answerOffer at h
      dsimp only at h
      split at h
      case isTrue => cases h
      case isFalse =>
        obtain ⟨hmem, hnot⟩ := List.mem_filter.mp h
        refine ⟨hmem, ?_⟩
        intro hhas
        rw [hhas] at hnot
        cases hnot
    case isFalse => cases h
  case h_2 => cases h

/-- A get asks for what the answer wants. -/
theorem peerSyncMessageGet_got {r r' : LxmfRouter σ} {peerId : Hash16}
    {response : PeerSyncResponse} {limit : Option F64} {nowMs : Nat}
    {req : PeerSyncRequest}
    (h : r.peerSyncMessageGet peerId response limit nowMs = (some req, r'))
    {t : Hash32} (ht : t ∈ gotIds req) :
    t ∈ wantedIds r.propagationStore response := by
  unfold peerSyncMessageGet at h
  dsimp only at h
  split at h
  case isTrue => cases h
  case isFalse =>
    cases h
    exact ht

/-- A payload holds stored entries that were asked for. -/
theorem mem_selectItems {store : PropagationStore} {limit : Option Nat}
    {wants : List Hash32} {acc : List Bytes × Nat} {item : Bytes}
    (h : item ∈ (selectItems P store limit wants acc).1) :
    item ∈ acc.1 ∨ ∃ id ∈ wants, ∃ entry, store.get id = some entry
      ∧ entry.toBytes P = .ok item := by
  induction wants generalizing acc with
  | nil => exact .inl h
  | cons id wants ih =>
      unfold selectItems at h
      cases ih h with
      | inr hlater =>
          obtain ⟨id', hid, hentry⟩ := hlater
          exact .inr ⟨id', List.mem_cons_of_mem id hid, hentry⟩
      | inl hacc =>
          split at hacc
          case h_1 bytes hbytes =>
            obtain ⟨entry, hget, hto⟩ := Option.map_eq_some_iff.mp hbytes
            dsimp only at hacc
            split_ifs at hacc
            case pos => exact .inl hacc
            case neg =>
              rcases List.mem_append.mp hacc with hold | hnew
              · exact .inl hold
              · rw [List.mem_singleton.mp hnew]
                exact .inr ⟨id, List.mem_cons_self, entry, hget, hto⟩
          case h_2 => exact .inl hacc

theorem handlePeerSyncMessageGet_items {r : LxmfRouter σ}
    {peerId : Hash16} {req : PeerSyncRequest} (nowMs : Nat) {item : Bytes}
    (h : item ∈ payloadItems
      (r.handlePeerSyncMessageGet P peerId req nowMs).1) :
    ∃ id ∈ gotIds req, ∃ entry, r.propagationStore.get id = some entry
      ∧ entry.toBytes P = .ok item := by
  unfold handlePeerSyncMessageGet at h
  split at h
  case h_1 => cases h
  case h_2 =>
    rcases mem_selectItems h with hnil | hentry
    · cases hnil
    · exact hentry
  case h_3 => cases h

end LxmfRouter

end Travels

-- ========================================================== the ledger

namespace Network

section Ledger

variable {ι σ : Type} {P : Platform}

/-- Why a leg may be in flight. -/
def Justified (P : Platform) (c : Ledger ι Hash32) (src dst : ι) :
    PeerSyncLeg → Prop
  | .offer req => ∀ t ∈ offeredIds req, (src, t) ∈ c.log
  | .answer response => ∀ store,
      ∀ t ∈ LxmfRouter.wantedIds store response, Asked c t dst src
  | .get req => ∀ t ∈ gotIds req, Asked c t dst src
  | .payload response => ∀ item ∈ payloadItems response, ∀ sent,
      PropagationEntry.fromBytes P item = .ok sent →
        Asked c sent.transientId src dst
  | .ack req => ∀ t ∈ LxmfRouter.acknowledged req,
      Later c.log (dst, t) (src, t)

theorem Justified.steps {c c' : Ledger ι Hash32} {src dst : ι}
    {leg : PeerSyncLeg} (h : Justified P c src dst leg)
    (hsteps : Steps c c') : Justified P c' src dst leg := by
  cases leg with
  | offer req =>
      intro t ht
      exact hsteps.mem_log (h t ht)
  | answer response =>
      intro store t ht
      exact hsteps.asked (h store t ht)
  | get req =>
      intro t ht
      exact hsteps.asked (h t ht)
  | payload response =>
      intro item hitem sent hsent
      exact hsteps.asked (h item hitem sent hsent)
  | ack req =>
      intro t ht
      exact hsteps.later (h t ht)

/-- The log of who took which message stands behind a network. -/
structure Tracks (P : Platform) (s : Network ι σ)
    (log : List (ι × Hash32)) : Prop where
  sound : Sound ⟨log, s.held⟩
  processed : ∀ p ∈ log, p.2 ∈ (s.nodes p.1).locallyProcessed
  keyed : ∀ node, (s.nodes node).propagationStore.Keyed
  accepted : ∀ t ∈ s.accepted, ∃ node, (node, t) ∈ log
  inFlight : ∀ e ∈ s.inFlight,
    Justified P ⟨log, s.held⟩ e.src e.dst e.leg

/-- Some log stands behind the network. -/
def Tracked (P : Platform) (s : Network ι σ) : Prop :=
  ∃ log, Tracks P s log

theorem Tracks.send {s : Network ι σ} {log : List (ι × Hash32)}
    (h : Tracks P s log) {e : Envelope ι}
    (he : Justified P ⟨log, s.held⟩ e.src e.dst e.leg) :
    Tracks P (s.send e) log := by
  refine ⟨h.sound, h.processed, h.keyed, h.accepted, ?_⟩
  intro e' he'
  rcases List.mem_append.mp he' with hold | hnew
  · exact h.inFlight e' hold
  · rw [List.mem_singleton.mp hnew]
    exact he

theorem Tracks.accept {s : Network ι σ} {log : List (ι × Hash32)}
    (h : Tracks P s log) {ids : List Hash32}
    (hids : ∀ t ∈ ids, ∃ node, (node, t) ∈ log) :
    Tracks P (s.accept ids) log := by
  refine ⟨h.sound, h.processed, h.keyed, ?_, h.inFlight⟩
  intro t ht
  rcases List.mem_append.mp ht with hold | hnew
  · exact h.accepted t hold
  · exact hids t hnew

variable [DecidableEq ι]

@[simp] theorem setNode_self (s : Network ι σ) (node : ι)
    (r : LxmfRouter σ) : (s.setNode node r).nodes node = r := by
  unfold setNode
  dsimp only
  rw [Function.update_self]

@[simp] theorem setNode_setNode (s : Network ι σ) (node : ι)
    (r r' : LxmfRouter σ) :
    (s.setNode node r).setNode node r' = s.setNode node r' := by
  unfold setNode
  dsimp only
  rw [Function.update_idem]

theorem setNode_of_ne (s : Network ι σ) {node other : ι}
    (r : LxmfRouter σ) (h : other ≠ node) :
    (s.setNode node r).nodes other = s.nodes other := by
  unfold setNode
  dsimp only
  rw [Function.update_of_ne h]

theorem mem_held_setNode (s : Network ι σ) (node : ι)
    (r : LxmfRouter σ) (p : ι × Hash32) :
    p ∈ (s.setNode node r).held
      ↔ (p.1 = node ∧ r.propagationStore.has p.2 = true)
        ∨ (p.1 ≠ node ∧ p ∈ s.held) := by
  obtain ⟨other, t⟩ := p
  show ((s.setNode node r).nodes other).propagationStore.has t = true ↔ _
  by_cases hother : other = node
  · subst hother
    simp
  · rw [setNode_of_ne s r hother]
    simp [hother, held]

/-- A change of one node the ledger allows. -/
theorem Tracks.change {s : Network ι σ} {log log' : List (ι × Hash32)}
    (h : Tracks P s log) {node : ι} {r : LxmfRouter σ}
    (hsteps : Steps ⟨log, s.held⟩ ⟨log', (s.setNode node r).held⟩)
    (hprocessed : ∀ t, (node, t) ∈ log' → t ∈ r.locallyProcessed)
    (hothers : ∀ p ∈ log', p.1 ≠ node → p ∈ log)
    (hkeyed : r.propagationStore.Keyed) :
    Tracks P (s.setNode node r) log' := by
  refine ⟨h.sound.steps hsteps, ?_, ?_, ?_, ?_⟩
  · rintro ⟨other, t⟩ hp
    by_cases hother : other = node
    · subst hother
      rw [setNode_self]
      exact hprocessed t hp
    · rw [setNode_of_ne s r hother]
      exact h.processed _ (hothers _ hp hother)
  · intro other
    by_cases hother : other = node
    · subst hother
      rw [setNode_self]
      exact hkeyed
    · rw [setNode_of_ne s r hother]
      exact h.keyed other
  · intro t ht
    obtain ⟨other, hlog⟩ := h.accepted t ht
    exact ⟨other, hsteps.mem_log hlog⟩
  · intro e he
    exact (h.inFlight e he).steps hsteps

/-- A handler that leaves the store and the cache alone. -/
theorem Tracks.keep {s : Network ι σ} {log : List (ι × Hash32)}
    (h : Tracks P s log) (node : ι) (r : LxmfRouter σ)
    (hstore : r.propagationStore = (s.nodes node).propagationStore)
    (hprocessed : r.locallyProcessed = (s.nodes node).locallyProcessed) :
    Tracks P (s.setNode node r) log := by
  have hheld : (s.setNode node r).held = s.held := by
    ext ⟨other, t⟩
    rw [mem_held_setNode, hstore]
    by_cases hother : other = node
    · subst hother
      simp [held]
    · simp [hother]
  refine h.change ?_ ?_ (fun p hp _ => hp) ?_
  · rw [hheld]
  · intro t ht
    rw [hprocessed]
    exact h.processed _ ht
  · rw [hstore]
    exact h.keyed node

/-- The peer table is not part of the ledger. -/
theorem Tracks.setPeers {s : Network ι σ} {log : List (ι × Hash32)}
    {node : ι} {r : LxmfRouter σ} (h : Tracks P (s.setNode node r) log)
    (peers : PeerTable) :
    Tracks P (s.setNode node { r with peers := peers }) log := by
  have hkeep := h.keep node { r with peers := peers }
    (by rw [setNode_self]) (by rw [setNode_self])
  rw [setNode_setNode] at hkeep
  exact hkeep

/-- A node files an entry it has not seen: it takes the message. -/
theorem Tracks.file {s : Network ι σ} {log : List (ι × Hash32)}
    (h : Tracks P s log) (node : ι) (entry : PropagationEntry)
    (nowMs : Nat)
    (hseen : ¬ (s.nodes node).seen entry.transientId = true) :
    Tracks P (s.setNode node ((s.nodes node).fileEntry P entry nowMs))
      (log ++ [(node, entry.transientId)]) := by
  obtain ⟨root, hfile⟩ :=
    LxmfRouter.fileEntry_eq (P := P) (s.nodes node) entry nowMs
  have hfresh : (node, entry.transientId) ∉ log := by
    intro hlog
    refine hseen ?_
    unfold LxmfRouter.seen
    rw [decide_eq_true (h.processed _ hlog), Bool.or_true]
  rw [hfile]
  refine h.change ?_ ?_ ?_ ((h.keyed node).insert entry)
  · refine .single ?_
    convert Step.take (c := ⟨log, s.held⟩) _ hfresh using 2
    ext ⟨other, t⟩
    rw [mem_held_setNode, Set.mem_insert_iff, Prod.mk.injEq]
    by_cases hother : other = node
    · subst hother
      simp [held]
    · simp [hother]
  · intro t ht
    refine (AList.mem_insert _).mpr ?_
    rcases List.mem_append.mp ht with hold | hnew
    · exact .inr (h.processed _ hold)
    · cases List.mem_singleton.mp hnew
      exact .inl rfl
  · intro p hp hne
    rcases List.mem_append.mp hp with hold | hnew
    · exact hold
    · rw [List.mem_singleton.mp hnew] at hne
      exact absurd rfl hne

/-- A node drops a message another took after it. -/
theorem Tracks.release {s : Network ι σ} {log : List (ι × Hash32)}
    (h : Tracks P s log) {node other : ι} {t : Hash32}
    (hlater : Later log (node, t) (other, t)) :
    Tracks P (s.setNode node ((s.nodes node).removeEntry t)) log := by
  obtain ⟨root, hremove⟩ := LxmfRouter.removeEntry_eq (s.nodes node) t
  rw [hremove]
  refine h.change ?_ (fun t ht => h.processed _ ht) (fun p hp _ => hp)
    ((h.keyed node).remove t)
  refine .single ?_
  convert Step.release (c := ⟨log, s.held⟩) (node, t) other hlater using 2
  ext ⟨n, u⟩
  rw [mem_held_setNode, Set.mem_sdiff, Set.mem_singleton_iff,
    Prod.mk.injEq]
  by_cases hn : n = node
  · subst hn
    simp [held, and_comm]
  · simp [hn]

-- ============================================================ one step

theorem Tracks.processPropagated {s s' : Network ι σ}
    {log : List (ι × Hash32)} (h : Tracks P s log) {address : ι → Hash16}
    {node : ι} {timestamp : F64} {lxmData : Bytes} {nowMs : Nat}
    {source : Option Hash16} {count : Bool}
    (happly : apply P address
      (.processPropagated node timestamp lxmData nowMs source count) s
        = some s') : Tracked P s' := by
  simp only [apply, LxmfRouter.processPropagated] at happly
  split at happly
  case h_1 id r hr =>
    cases happly
    split at hr
    case h_1 => cases hr
    case h_2 entry _ =>
      split at hr
      case isTrue => cases hr
      case isFalse hseen =>
        cases hr
        -- the counters come first; filing reads neither
        have hcounted := h.keep node
          { s.nodes node with
            nodeStats := (s.nodes node).countPropagated entry source count }
          rfl rfl
        have hfiled := hcounted.file node entry nowMs
          (by rw [setNode_self]; exact hseen)
        rw [setNode_self, setNode_setNode] at hfiled
        refine ⟨_, hfiled.accept ?_⟩
        intro t ht
        rw [List.mem_singleton.mp ht]
        exact ⟨node, List.mem_append_right _ (List.mem_singleton_self _)⟩
  case h_2 r hr =>
    cases happly
    split at hr
    case h_1 =>
      cases hr
      exact ⟨log, h.keep node _ rfl rfl⟩
    case h_2 =>
      split at hr
      case isTrue =>
        cases hr
        exact ⟨log, h.keep node _ rfl rfl⟩
      case isFalse => cases hr

theorem Tracks.peerSyncOffer {s s' : Network ι σ}
    {log : List (ι × Hash32)} (h : Tracks P s log) {address : ι → Hash16}
    {src dst : ι} {peeringKey : Bytes} {nowMs : Nat}
    (happly : apply P address (.peerSyncOffer src dst peeringKey nowMs) s
      = some s') : Tracks P s' log := by
  have hkeep := h.keep src
    ((s.nodes src).peerSyncOffer (address dst) peeringKey nowMs).2 rfl rfl
  cases happly
  refine hkeep.send ?_
  intro t ht
  exact h.sound.logged _ (PropagationStore.mem_listIds.mp ht)

theorem Tracks.deliverOffer {s : Network ι σ} {log : List (ι × Hash32)}
    (h : Tracks P s log) {address : ι → Hash16} {src dst : ι}
    {req : PeerSyncRequest} (he : ⟨src, dst, .offer req⟩ ∈ s.inFlight)
    (limit : Option F64) (nowMs : Nat) :
    Tracks P (s.deliverLeg P address src dst limit nowMs (.offer req))
      log := by
  obtain ⟨peers, hr⟩ := LxmfRouter.handlePeerSyncOffer_eq (P := P)
    (s.nodes dst) (address src) req nowMs
  have hkeep := h.keep dst
    ((s.nodes dst).handlePeerSyncOffer P (address src) req nowMs).2
    (by rw [hr]) (by rw [hr])
  refine hkeep.send ?_
  intro store t ht
  obtain ⟨hoffered, hnot⟩ := LxmfRouter.handlePeerSyncOffer_wants ht
  refine ⟨h.inFlight _ he t hoffered, fun _ => .inr ?_⟩
  rw [mem_held_setNode, hr]
  intro hor
  rcases hor with ⟨_, hhas⟩ | ⟨hne, _⟩
  · exact hnot hhas
  · exact hne rfl

theorem Tracks.deliverAnswer {s : Network ι σ} {log : List (ι × Hash32)}
    (h : Tracks P s log) {address : ι → Hash16} {src dst : ι}
    {response : PeerSyncResponse}
    (he : ⟨src, dst, .answer response⟩ ∈ s.inFlight)
    (limit : Option F64) (nowMs : Nat) :
    Tracks P (s.deliverLeg P address src dst limit nowMs
      (.answer response)) log := by
  obtain ⟨peers, hr⟩ := LxmfRouter.peerSyncMessageGet_eq (s.nodes src)
    (address dst) response limit nowMs
  have hkeep := h.keep src
    ((s.nodes src).peerSyncMessageGet (address dst) response limit nowMs).2
    (by rw [hr]) (by rw [hr])
  simp only [deliverLeg]
  split
  case h_1 req r hget =>
    rw [hget] at hkeep
    refine hkeep.send ?_
    intro t ht
    exact hkeep.inFlight _ he _ t
      (LxmfRouter.peerSyncMessageGet_got hget ht)
  case h_2 r hget =>
    rw [hget] at hkeep
    exact hkeep

theorem Tracks.deliverGet {s : Network ι σ} {log : List (ι × Hash32)}
    (hP : RmpvCodec P) (h : Tracks P s log) {address : ι → Hash16}
    {src dst : ι} {req : PeerSyncRequest}
    (he : ⟨src, dst, .get req⟩ ∈ s.inFlight) (limit : Option F64)
    (nowMs : Nat) :
    Tracks P (s.deliverLeg P address src dst limit nowMs (.get req))
      log := by
  obtain ⟨peers, stats, hr⟩ := LxmfRouter.handlePeerSyncMessageGet_eq
    (P := P) (s.nodes dst) (address src) req nowMs
  have hkeep := h.keep dst
    ((s.nodes dst).handlePeerSyncMessageGet P (address src) req nowMs).2
    (by rw [hr]) (by rw [hr])
  refine hkeep.send ?_
  intro item hitem sent hsent
  obtain ⟨id, hid, entry, hget, hto⟩ :=
    LxmfRouter.handlePeerSyncMessageGet_items nowMs hitem
  rw [(hP.fromBytes_toBytes hto hsent).1, h.keyed dst id entry hget]
  exact hkeep.inFlight _ he id hid

/-- Filing an entry keeps what the rest of a payload needs. -/
theorem Holds.fileEntry {r : LxmfRouter σ} {items : List Bytes}
    (h : Holds P r items) (entry : PropagationEntry) (nowMs : Nat) :
    Holds P (r.fileEntry P entry nowMs) items := by
  obtain ⟨root, hfile⟩ := LxmfRouter.fileEntry_eq (P := P) r entry nowMs
  rw [hfile]
  intro item hitem sent checked hsent hchecked
  obtain ⟨hid, hheld⟩ := h item hitem sent checked hsent hchecked
  refine ⟨hid, ?_⟩
  intro hprocessed
  rw [PropagationStore.has_insert]
  rcases (AList.mem_insert _).mp hprocessed with hnew | hold
  · exact .inl hnew
  · exact .inr (hheld hold)

/-- One item of a payload: the node ends up with it, later than the node
that sent it. -/
theorem Tracks.applyItem {s : Network ι σ} {log : List (ι × Hash32)}
    {src dst : ι} {all rest : List Bytes} {item : Bytes}
    {tally : LxmfRouter.PayloadTally} {r : LxmfRouter σ}
    (h : Tracks P (s.setNode dst r) log)
    (he : ⟨src, dst, .payload (.payload all)⟩ ∈ s.inFlight)
    (hitem : item ∈ all) (hholds : Holds P r (item :: rest))
    (hdelivered : ∀ t ∈ tally.delivered, Later log (src, t) (dst, t))
    (nowMs : Nat) :
    ∃ log' tally' r',
      LxmfRouter.applyItem P r.minStampCost nowMs (tally, r) item
        = (tally', r')
      ∧ Tracks P (s.setNode dst r') log'
      ∧ r'.minStampCost = r.minStampCost
      ∧ Holds P r' rest
      ∧ ∀ t ∈ tally'.delivered, Later log' (src, t) (dst, t) := by
  have hrest : Holds P r rest := fun item hitem =>
    hholds item (List.mem_cons_of_mem _ hitem)
  unfold LxmfRouter.applyItem
  dsimp only
  split
  case h_1 => exact ⟨log, _, r, rfl, h, rfl, hrest, hdelivered⟩
  case h_2 sent hsent =>
    split
    case h_2 => exact ⟨log, _, r, rfl, h, rfl, hrest, hdelivered⟩
    case h_1 entry hchecked =>
      obtain ⟨hid, hheld⟩ :=
        hholds item List.mem_cons_self sent entry hsent hchecked
      have hasked := h.inFlight _ he item hitem sent hsent
      rw [← hid] at hasked
      unfold LxmfRouter.acceptItem
      split
      case isTrue hseen =>
        have hhas : r.propagationStore.has entry.transientId = true := by
          unfold LxmfRouter.seen at hseen
          rw [Bool.or_eq_true, decide_eq_true_eq] at hseen
          exact hseen.elim id hheld
        have hlater : Later log (src, entry.transientId)
            (dst, entry.transientId) := by
          refine hasked.later h.sound ?_
          rw [mem_held_setNode]
          exact .inl ⟨rfl, hhas⟩
        refine ⟨log, _, r, rfl, h, rfl, hrest, ?_⟩
        intro t ht
        rcases List.mem_append.mp ht with hold | hnew
        · exact hdelivered t hold
        · rw [List.mem_singleton.mp hnew]
          exact hlater
      case isFalse hseen =>
        have hfiled := h.file dst entry nowMs
          (by rw [setNode_self]; exact hseen)
        rw [setNode_self, setNode_setNode] at hfiled
        refine ⟨_, _, _, rfl, hfiled, rfl, hrest.fileEntry entry nowMs, ?_⟩
        intro t ht
        rcases List.mem_append.mp ht with hold | hnew
        · exact (hdelivered t hold).append _
        · rw [List.mem_singleton.mp hnew]
          exact later_of_mem hasked.1 _

/-- The loop over a payload. -/
theorem Tracks.applyItems {s : Network ι σ} {src dst : ι}
    {all : List Bytes}
    (he : ⟨src, dst, .payload (.payload all)⟩ ∈ s.inFlight)
    (nowMs : Nat) (items : List Bytes) (hitems : items ⊆ all)
    {log : List (ι × Hash32)} {tally : LxmfRouter.PayloadTally}
    {r : LxmfRouter σ} (h : Tracks P (s.setNode dst r) log)
    (hholds : Holds P r items)
    (hdelivered : ∀ t ∈ tally.delivered, Later log (src, t) (dst, t)) :
    ∃ log' tally' r',
      items.foldl (LxmfRouter.applyItem P r.minStampCost nowMs) (tally, r)
        = (tally', r')
      ∧ Tracks P (s.setNode dst r') log'
      ∧ ∀ t ∈ tally'.delivered, Later log' (src, t) (dst, t) := by
  induction items generalizing log tally r with
  | nil => exact ⟨log, tally, r, rfl, h, hdelivered⟩
  | cons item items ih =>
      obtain ⟨log', tally', r', hitem, h', hcost, hrest, hlater⟩ :=
        h.applyItem he (hitems List.mem_cons_self) hholds hdelivered nowMs
      rw [List.foldl_cons, hitem, ← hcost]
      exact ih (fun _ hmem => hitems (List.mem_cons_of_mem _ hmem)) h' hrest
        hlater

theorem Tracks.deliverPayload {s : Network ι σ} {log : List (ι × Hash32)}
    (h : Tracks P s log) {address : ι → Hash16} {src dst : ι}
    {response : PeerSyncResponse}
    (he : ⟨src, dst, .payload response⟩ ∈ s.inFlight)
    (hholds : ∀ items, response = .payload items →
      Holds P (s.nodes dst) items)
    (limit : Option F64) (nowMs : Nat) :
    Tracked P (s.deliverLeg P address src dst limit nowMs
      (.payload response)) := by
  have hself : Tracks P (s.setNode dst (s.nodes dst)) log :=
    h.keep dst _ rfl rfl
  obtain ⟨log', tally, r, happlied, h', hlater⟩ :
      ∃ log' tally r,
        (s.nodes dst).applyItems P response nowMs = (tally, r)
        ∧ Tracks P (s.setNode dst r) log'
        ∧ ∀ t ∈ tally.delivered, Later log' (src, t) (dst, t) := by
    unfold LxmfRouter.applyItems
    split
    case h_1 items =>
      exact Tracks.applyItems he nowMs items (fun _ hmem => hmem) hself
        (hholds items rfl) (fun t ht => by cases ht)
    case h_2 => exact ⟨log, _, _, rfl, hself, fun t ht => by cases ht⟩
  have hpeers := h'.setPeers (r.peers.upsert (address src) nowMs
    (LxmfRouter.tallyPeer tally nowMs))
  refine ⟨log', ?_⟩
  simp only [deliverLeg, LxmfRouter.applyPeerSyncPayload, happlied]
  split
  case h_1 req r' hreq =>
    split at hreq
    case isTrue => cases hreq
    case isFalse =>
      cases hreq
      refine Tracks.send (hpeers.accept ?_) ?_
      · intro t ht
        exact ⟨dst, (hlater t ht).subset (by simp)⟩
      · exact hlater
  case h_2 r' hreq =>
    split at hreq
    case isTrue =>
      cases hreq
      exact hpeers
    case isFalse => cases hreq

theorem Tracks.deliverAck {s : Network ι σ} {log : List (ι × Hash32)}
    (h : Tracks P s log) {address : ι → Hash16} {src dst : ι}
    {req : PeerSyncRequest} (he : ⟨src, dst, .ack req⟩ ∈ s.inFlight)
    (limit : Option F64) (nowMs : Nat) :
    Tracks P (s.deliverLeg P address src dst limit nowMs (.ack req))
      log := by
  have hlater := h.inFlight _ he
  simp only [deliverLeg, LxmfRouter.handlePeerSyncAck]
  split
  case h_1 delivered =>
    -- one release for each id the acknowledgement names
    have hdropped (ids : List Hash32) (r : LxmfRouter σ)
        (hr : Tracks P (s.setNode dst r) log)
        (hids : ∀ t ∈ ids, Later log (dst, t) (src, t)) :
        Tracks P (s.setNode dst (ids.foldl LxmfRouter.removeEntry r))
          log := by
      induction ids generalizing r with
      | nil => exact hr
      | cons id ids ih =>
          refine ih _ ?_ fun t ht => hids t (List.mem_cons_of_mem id ht)
          have hone := hr.release (hids id List.mem_cons_self)
          rw [setNode_self, setNode_setNode] at hone
          exact hone
    have hall := hdropped delivered (s.nodes dst)
      (h.keep dst _ rfl rfl) hlater
    exact hall.setPeers _
  case h_2 => exact h.keep dst _ rfl rfl

theorem Tracks.step {s s' : Network ι σ} {log : List (ι × Hash32)}
    (hP : RmpvCodec P) (h : Tracks P s log) {address : ι → Hash16}
    {a : NetworkAction ι} (hok : HoldsWhatItAcks P s a)
    (happly : apply P address a s = some s') :
    Tracked P s' := by
  cases a with
  | processPropagated node timestamp lxmData nowMs source count =>
      exact h.processPropagated happly
  | peerSyncOffer src dst peeringKey nowMs =>
      exact ⟨log, h.peerSyncOffer happly⟩
  | deliver index limit nowMs =>
      simp only [apply] at happly
      split at happly
      case h_2 => cases happly
      case h_1 e hindex =>
        cases happly
        obtain ⟨src, dst, leg⟩ := e
        have he := List.mem_of_getElem? hindex
        cases leg with
        | offer req => exact ⟨log, h.deliverOffer he limit nowMs⟩
        | answer response => exact ⟨log, h.deliverAnswer he limit nowMs⟩
        | get req => exact ⟨log, h.deliverGet hP he limit nowMs⟩
        | payload response =>
            refine h.deliverPayload he ?_ limit nowMs
            intro items hitems
            subst hitems
            refine hok (dst, items) ?_
            unfold payloadAt
            rw [hindex]
            rfl
        | ack req => exact ⟨log, h.deliverAck he limit nowMs⟩

end Ledger

-- ======================================================== what is kept

section Kept

variable {ι σ : Type} {P : Platform}

theorem tracks_start {nodes : ι → LxmfRouter σ}
    (hempty : ∀ node, (nodes node).propagationStore = .new) :
    Tracks P (.start nodes) [] := by
  have hheld : (start nodes).held = ∅ := by
    ext ⟨node, t⟩
    show (nodes node).propagationStore.has t = true ↔ False
    rw [hempty node]
    simp [PropagationStore.has, PropagationStore.new]
  refine ⟨?_, ?_, ?_, ?_, ?_⟩
  · rw [hheld]
    exact sound_empty
  · intro p hp
    cases hp
  · intro node
    show (nodes node).propagationStore.Keyed
    rw [hempty node]
    exact PropagationStore.keyed_new
  · intro t ht
    cases ht
  · intro e he
    cases he

variable [DecidableEq ι]

theorem tracks_of_reaches (hP : RmpvCodec P) {address : ι → Hash16}
    {nodes : ι → LxmfRouter σ}
    (hempty : ∀ node, (nodes node).propagationStore = .new)
    {s : Network ι σ}
    (hrun : Reaches (apply P address) (HoldsWhatItAcks P) (.start nodes) s) :
    Tracked P s := by
  refine hrun.invariant ?_ ?_
  · exact ⟨[], tracks_start hempty⟩
  · rintro s a s' ⟨log, h⟩ hok happly
    exact h.step hP hok happly

/-- Peer sync between nodes that hold what they acknowledge loses no
message. -/
theorem peer_sync_keeps_accepted (hP : RmpvCodec P)
    (address : ι → Hash16) (nodes : ι → LxmfRouter σ)
    (hempty : ∀ node, (nodes node).propagationStore = .new)
    (s : Network ι σ)
    (hrun : Reaches (apply P address) (HoldsWhatItAcks P) (.start nodes)
      s) :
    ∀ t ∈ s.accepted, ∃ node,
      (s.nodes node).propagationStore.has t = true := by
  obtain ⟨log, h⟩ := tracks_of_reaches hP hempty hrun
  intro t ht
  obtain ⟨node, hlog⟩ := h.accepted t ht
  exact h.sound.exists_holder hlog

end Kept

end Network

section NetworkInstance

open Reference

/-- A node that checks neither keys nor stamps. -/
noncomputable def openNode : LxmfRouter InMemoryStore :=
  docNode.clearPeeringValidation.clearPropagationValidation

/-- Two of them, and their addresses. -/
noncomputable def openNetwork : Network Bool InMemoryStore :=
  .start fun _ => openNode

def openAddress (node : Bool) : Hash16 :=
  List.Vector.replicate 16 (if node then 1 else 0)

/-- The first node takes a message and hands it to the second. -/
def handOver : List (NetworkAction Bool) :=
  [.processPropagated false (.fin 1) docData 0 none true,
   .peerSyncOffer false true [] 0,
   .deliver 0 none 0, .deliver 1 none 0, .deliver 2 none 0,
   .deliver 3 none 0, .deliver 4 none 0]

/-- The second node offers it back. -/
def handBack : List (NetworkAction Bool) :=
  [.peerSyncOffer true false [] 0,
   .deliver 5 none 0, .deliver 6 none 0, .deliver 7 none 0,
   .deliver 8 none 0, .deliver 9 none 0]

/-- After one exchange the message is with the second node. -/
theorem peer_sync_keeps_accepted_doc :
    ∃ s, runWhere (Network.apply platform openAddress)
        (Network.HoldsWhatItAcks platform) handOver openNetwork = some s
      ∧ fullHash platform docData ∈ s.accepted
      ∧ ∃ node, (s.nodes node).propagationStore.has
          (fullHash platform docData) = true := by
  have haccepted : (runWhere (Network.apply platform openAddress)
      (Network.HoldsWhatItAcks platform) handOver openNetwork).map
        (fun s => decide (fullHash platform docData ∈ s.accepted))
        = some true := by
    decide +kernel
  obtain ⟨s, hs, haccepted⟩ := Option.map_eq_some_iff.mp haccepted
  have haccepted := of_decide_eq_true haccepted
  refine ⟨s, hs, haccepted, ?_⟩
  exact Network.peer_sync_keeps_accepted platform_rmpvCodec openAddress
    (fun _ => openNode) (fun _ => rfl) s (reaches_of_runWhere hs) _ haccepted

/-- After two the first node, which remembers the message, has
acknowledged it without storing it, and nobody has it. -/
theorem peer_sync_loses_accepted :
    ∃ s, run (Network.apply platform openAddress) (handOver ++ handBack)
        openNetwork = some s
      ∧ fullHash platform docData ∈ s.accepted
      ∧ ∀ node, (s.nodes node).propagationStore.has
          (fullHash platform docData) = false := by
  have hlost : (run (Network.apply platform openAddress)
      (handOver ++ handBack) openNetwork).map
        (fun s => decide (fullHash platform docData ∈ s.accepted
          ∧ ∀ node, (s.nodes node).propagationStore.has
            (fullHash platform docData) = false)) = some true := by
    decide +kernel
  obtain ⟨s, hs, hlost⟩ := Option.map_eq_some_iff.mp hlost
  exact ⟨s, hs, of_decide_eq_true hlost⟩

end NetworkInstance

end Lxmf
