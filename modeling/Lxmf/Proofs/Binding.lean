/-
Stored ids are bound to what is stored, unless a peer names them.

# Three ways in

`process_propagated` and `process_propagation_resource` hash the data
they are given, and a node that checks stamps files every entry under
the hash of its data without the stamp. A node that does not check them
files an entry of a peer's payload under the id the payload names.

# A run

The ledger of a run is the router together with all data it was given.
The ids are bound after every event of a run exactly when every entry
that is filed as a peer named it is named by its data.
-/
import Lxmf.Library.Run
import Lxmf.Proofs.NetworkStamps
import Lxmf.Proofs.ShelfEvents
import Lxmf.Proofs.Store

namespace Lxmf

/-- The id is the hash of the data, or of the data without a stamp. -/
def IdOf (P : Platform) (data : Bytes) (id : Hash32) : Prop :=
  id = fullHash P data
    ∨ id = fullHash P (data.take (data.length - stampSize))

/-- The entry is filed under an id of its data. -/
def PropagationEntry.Bound (P : Platform) (entry : PropagationEntry) :
    Prop :=
  IdOf P entry.lxmData entry.transientId

namespace LxmfRouter

section Data

variable {σ : Type} {P : Platform}

-- ===================================================== what was received

/-- The data of the items of a payload. -/
def payloadData (P : Platform) : PeerSyncResponse → List Bytes
  | .payload items => items.filterMap fun item =>
      match PropagationEntry.fromBytes P item with
      | .ok entry => some entry.lxmData
      | .error _ => none
  | _ => []

/-- The data the bytes of a response hold. -/
def responseData (P : Platform) (payload : Bytes) : List Bytes :=
  match decodePeerSyncResponse P payload with
  | .ok response => payloadData P response
  | .error _ => []

/-- The data an item of the inbound queue holds. -/
def receivedData (P : Platform) : Received → List Bytes
  | .propagated _ lxmData _ _ _ => [lxmData]
  | .propagationResource payload _ =>
      match decodePropagationResourcePayload P payload with
      | .ok messages => messages
      | .error _ => []
  | .response response _ =>
      ((valueToBytes response.data).map (responseData P)).getD []
  | _ => []

/-- The data an event gives the router. -/
def eventData (P : Platform) : RouterEvent → List Bytes
  | .processPropagated _ lxmData _ _ _ => [lxmData]
  | .processPropagationResource _ _ messages _ _ => messages
  | .applyPeerSyncPayload _ response _ => payloadData P response
  | .handlePeerSyncResponse _ payload _ => responseData P payload
  | .handleReceived received _ _ => receivedData P received
  | _ => []

/-- The entries an event brings that a peer named. -/
def namedEntries (P : Platform) (r : LxmfRouter σ) :
    RouterEvent → List PropagationEntry
  | .applyPeerSyncPayload _ response _ =>
      payloadEntries P r.minStampCost response
  | .handlePeerSyncResponse requestId payload _ =>
      responseEntries P r requestId payload
  | .handleReceived (.response response source) nowMs _ =>
      receivedEntries P r nowMs (.response response source)
  | _ => []

-- ------------------------------------------------------ past the check

/-- A check leaves the data alone. -/
theorem stampChecked_data {minCost : Option Nat}
    {sent entry : PropagationEntry}
    (h : stampChecked P minCost sent = some entry) :
    entry.lxmData = sent.lxmData := by
  cases minCost with
  | none => rw [stampChecked_none h]
  | some cost => exact (stampChecked_some h).1

/-- What passes a check is bound, and so is what is bound without one. -/
theorem stampChecked_bound {minCost : Option Nat}
    {sent entry : PropagationEntry}
    (h : stampChecked P minCost sent = some entry)
    (hsent : minCost = none → sent.Bound P) : entry.Bound P := by
  cases minCost with
  | none =>
      rw [stampChecked_none h]
      exact hsent rfl
  | some cost => exact .inr (stampChecked_some h).2

theorem propagatedEntry_bound (timestamp : F64) (lxmData : Bytes) :
    (propagatedEntry P timestamp lxmData).Bound P :=
  .inl rfl

/-- Propagated data is filed under an id of its own. -/
theorem stampChecked_propagated {minCost : Option Nat} {timestamp : F64}
    {lxmData : Bytes} {entry : PropagationEntry}
    (h : stampChecked P minCost (propagatedEntry P timestamp lxmData)
      = some entry) : entry.Bound P ∧ entry.lxmData = lxmData :=
  ⟨stampChecked_bound h fun _ => propagatedEntry_bound timestamp lxmData,
    stampChecked_data h⟩

theorem resourceEntries_spec {minCost : Option Nat} {messages : List Bytes}
    {nowMs : Nat} {entry : PropagationEntry}
    (h : entry ∈ resourceEntries P minCost messages nowMs) :
    entry.Bound P ∧ entry.lxmData ∈ messages := by
  obtain ⟨msg, hmsg, hchecked⟩ := List.mem_filterMap.mp h
  obtain ⟨hbound, hdata⟩ := stampChecked_propagated hchecked
  rw [hdata]
  exact ⟨hbound, hmsg⟩

/-- An entry of a payload comes from an item of it. -/
theorem payloadEntries_data {minCost : Option Nat}
    {response : PeerSyncResponse} {entry : PropagationEntry}
    (h : entry ∈ payloadEntries P minCost response) :
    (minCost ≠ none → entry.Bound P)
      ∧ entry.lxmData ∈ payloadData P response := by
  cases response with
  | error code => cases h
  | bool flag => cases h
  | idList ids => cases h
  | payload items =>
      obtain ⟨item, hitem, hentry⟩ := List.mem_filterMap.mp h
      unfold itemEntry at hentry
      split at hentry
      case h_2 => cases hentry
      case h_1 sent hsent =>
        refine ⟨?_, ?_⟩
        · intro hcost
          exact stampChecked_bound hentry fun hnone => absurd hnone hcost
        · refine List.mem_filterMap.mpr ⟨item, hitem, ?_⟩
          rw [hsent, stampChecked_data hentry]

theorem responseEntries_data {r : LxmfRouter σ} {requestId : Hash16}
    {payload : Bytes} {entry : PropagationEntry}
    (h : entry ∈ responseEntries P r requestId payload) :
    (r.minStampCost ≠ none → entry.Bound P)
      ∧ entry.lxmData ∈ responseData P payload := by
  unfold responseEntries at h
  unfold responseData
  cases hpending : r.peerSyncPending.lookup requestId with
  | none =>
      rw [hpending] at h
      cases h
  | some pending =>
      rw [hpending] at h
      cases hdecode : decodePeerSyncResponse P payload with
      | error e =>
          rw [hdecode] at h
          cases h
      | ok response =>
          rw [hdecode] at h
          dsimp only at h
          split at h
          case h_1 => exact payloadEntries_data h
          case h_2 => exact payloadEntries_data h
          case h_3 => cases h

theorem propagatedEntries_spec {minCost : Option Nat} {timestamp : F64}
    {lxmData : Bytes} {entry : PropagationEntry}
    (h : entry ∈ (stampChecked P minCost
      (propagatedEntry P timestamp lxmData)).toList) :
    entry.Bound P ∧ entry.lxmData ∈ [lxmData] := by
  obtain ⟨hbound, hdata⟩ :=
    stampChecked_propagated (Option.mem_toList.mp h)
  rw [hdata]
  exact ⟨hbound, List.mem_singleton_self lxmData⟩

/-- Of named entries only a check tells that they are bound. -/
theorem bound_of_checked_or_unnamed {minCost : Option Nat}
    {named : List PropagationEntry} {entry : PropagationEntry}
    (hmem : entry ∈ named) (hbound : minCost ≠ none → entry.Bound P)
    (h : minCost ≠ none ∨ entry ∉ named) : entry.Bound P := by
  rcases h with hcost | hnamed
  · exact hbound hcost
  · exact absurd hmem hnamed

theorem receivedEntries_spec {r : LxmfRouter σ} {received : Received}
    {nowMs : Nat} {sv : Bool} {entry : PropagationEntry}
    (h : entry ∈ receivedEntries P r nowMs received) :
    (r.minStampCost ≠ none
        ∨ entry ∉ namedEntries P r (.handleReceived received nowMs sv) →
      entry.Bound P) ∧ entry.lxmData ∈ receivedData P received := by
  cases received with
  | propagated timestamp lxmData id sourceHash count =>
      obtain ⟨hbound, hdata⟩ := propagatedEntries_spec h
      exact ⟨fun _ => hbound, hdata⟩
  | propagationResource payload sourceHash =>
      simp only [receivedEntries] at h
      simp only [receivedData]
      cases hdecode : decodePropagationResourcePayload P payload with
      | error e =>
          rw [hdecode] at h
          cases h
      | ok messages =>
          rw [hdecode] at h
          dsimp only at h
          split at h
          case isFalse => cases h
          case isTrue =>
            obtain ⟨hbound, hdata⟩ := resourceEntries_spec h
            exact ⟨fun _ => hbound, hdata⟩
  | response response source =>
      have hmem := h
      simp only [receivedEntries] at hmem
      simp only [receivedData]
      cases hbytes : valueToBytes response.data with
      | none =>
          rw [hbytes] at hmem
          cases hmem
      | some payload =>
          rw [hbytes] at hmem
          obtain ⟨hbound, hdata⟩ := responseEntries_data hmem
          exact ⟨bound_of_checked_or_unnamed h hbound, hdata⟩
  | message m => cases h
  | request req sourceHash => cases h
  | controlRequest req sourceHash => cases h

/-- What an event brings is data the router was given, and bound unless a
peer named it and stamps are not checked. -/
theorem eventEntries_spec {r : LxmfRouter σ} {e : RouterEvent}
    {entry : PropagationEntry} (h : entry ∈ eventEntries P r e) :
    (r.minStampCost ≠ none ∨ entry ∉ namedEntries P r e →
      entry.Bound P) ∧ entry.lxmData ∈ eventData P e := by
  cases e with
  | processPropagated timestamp lxmData nowMs sourceHash count =>
      obtain ⟨hbound, hdata⟩ := propagatedEntries_spec h
      exact ⟨fun _ => hbound, hdata⟩
  | processPropagationResource remoteHash peeringKey messages limit nowMs =>
      simp only [eventEntries] at h
      split at h
      case isFalse => cases h
      case isTrue =>
        obtain ⟨hbound, hdata⟩ := resourceEntries_spec h
        exact ⟨fun _ => hbound, hdata⟩
  | applyPeerSyncPayload peerId response nowMs =>
      obtain ⟨hbound, hdata⟩ := payloadEntries_data h
      exact ⟨bound_of_checked_or_unnamed h hbound, hdata⟩
  | handlePeerSyncResponse requestId payload nowMs =>
      obtain ⟨hbound, hdata⟩ := responseEntries_data h
      exact ⟨bound_of_checked_or_unnamed h hbound, hdata⟩
  | handleReceived received nowMs sv => exact receivedEntries_spec h
  | _ => cases h

end Data

end LxmfRouter

-- ========================================================= on the shelf

namespace Shelf

variable {P : Platform} {received : List Bytes}

/-- Every entry is under an id of its data, and every processed id is one
of received data. -/
structure IdsBound (P : Platform) (received : List Bytes) (s : Shelf) :
    Prop where
  stored : ∀ id entry, s.entries.lookup id = some entry → entry.Bound P
  processed : ∀ id ∈ s.processed, ∃ data ∈ received, IdOf P data id

theorem IdsBound.mono {received' : List Bytes} {s : Shelf}
    (h : IdsBound P received s) (hle : received ⊆ received') :
    IdsBound P received' s := by
  refine ⟨h.stored, ?_⟩
  intro id hid
  obtain ⟨data, hdata, hof⟩ := h.processed id hid
  exact ⟨data, hle hdata, hof⟩

theorem IdsBound.file {s : Shelf} (h : IdsBound P received s)
    {entry : PropagationEntry} (hbound : entry.Bound P)
    (hdata : entry.lxmData ∈ received) (nowMs : Nat) :
    IdsBound P received (s.apply P (.file entry nowMs)) := by
  refine ⟨?_, ?_⟩
  · intro id found hfound
    simp only [apply] at hfound
    by_cases hid : id = entry.transientId
    · subst hid
      rw [AList.lookup_insert] at hfound
      injection hfound with hfound
      rw [← hfound]
      exact hbound
    · rw [AList.lookup_insert_ne hid] at hfound
      exact h.stored id found hfound
  · intro id hid
    simp only [apply, AList.mem_insert] at hid
    rcases hid with heq | hold
    · rw [heq]
      exact ⟨entry.lxmData, hdata, hbound⟩
    · exact h.processed id hold

theorem IdsBound.removes {s : Shelf} (h : IdsBound P received s)
    {op : ShelfOp} (hop : op.Removes) :
    IdsBound P received (s.apply P op) := by
  refine ⟨?_, ?_⟩
  · intro id entry hentry
    exact h.stored id entry (lookup_of_removes hop hentry)
  · intro id hid
    exact h.processed id (processed_of_removes hop hid)

theorem IdsBound.receive {s : Shelf} (h : IdsBound P received s)
    (nowMs : Nat) {entries : List PropagationEntry}
    (hentries : ∀ entry ∈ fresh s.seen entries,
      entry.Bound P ∧ entry.lxmData ∈ received) :
    IdsBound P received (s.receive P nowMs entries) := by
  unfold Shelf.receive
  generalize fresh s.seen entries = filed at hentries
  induction filed generalizing s with
  | nil => exact h
  | cons entry filed ih =>
      rw [List.map_cons, run_cons]
      obtain ⟨hbound, hdata⟩ := hentries entry List.mem_cons_self
      refine ih (h.file hbound hdata nowMs) ?_
      intro other hother
      exact hentries other (List.mem_cons_of_mem entry hother)

end Shelf

-- ============================================================== one step

namespace LxmfRouter

/-- A router with all data it was given. -/
structure Ledger (σ : Type) where
  router : LxmfRouter σ
  received : List Bytes

section Steps

variable {σ : Type} {P : Platform}

/-- Every stored entry is under an id of its data, and every processed id
is one of data the router was given. -/
structure IdsBound (P : Platform) (s : Ledger σ) : Prop where
  stored : ∀ id entry, s.router.propagationStore.get id = some entry →
    entry.Bound P
  processed : ∀ id ∈ s.router.locallyProcessed,
    ∃ data ∈ s.received, IdOf P data id

theorem idsBound_iff {s : Ledger σ} :
    IdsBound P s ↔ s.router.shelf.IdsBound P s.received :=
  ⟨fun h => ⟨h.stored, h.processed⟩, fun h => ⟨h.stored, h.processed⟩⟩

/-- Stamps are checked, or every entry that is filed as a peer named it is
named by its data. -/
def NamesMatch (P : Platform) (s : Ledger σ) (e : RouterEvent) : Prop :=
  s.router.propagationValidation ≠ none
    ∨ ∀ entry ∈ Shelf.fresh s.router.seen (namedEntries P s.router e),
      entry.Bound P

theorem minStampCost_eq_none {r : LxmfRouter σ} :
    r.minStampCost = none ↔ r.propagationValidation = none := by
  unfold minStampCost
  exact Option.map_eq_none_iff

variable [MessageStore σ]

/-- One event. -/
def Ledger.step (P : Platform) (s : Ledger σ) (e : RouterEvent) :
    Ledger σ where
  router := s.router.handle P e
  received := s.received ++ eventData P e

/-- An event with entries a peer named does nothing but file them. -/
theorem handle_named {r : LxmfRouter σ} {e : RouterEvent}
    (h : namedEntries P r e ≠ []) :
    eventEntries P r e = namedEntries P r e
      ∧ (r.handle P e).shelf
        = r.shelf.receive P e.nowMs (namedEntries P r e) := by
  cases e with
  | applyPeerSyncPayload peerId response nowMs =>
      exact ⟨rfl, applyPeerSyncPayload_shelf ..⟩
  | handlePeerSyncResponse requestId payload nowMs =>
      exact ⟨rfl, handlePeerSyncResponseBytes_shelf ..⟩
  | handleReceived received nowMs sv =>
      cases received with
      | response response source =>
          exact ⟨rfl, receiveResponse_shelf ..⟩
      | _ => exact absurd rfl h
  | _ => exact absurd rfl h

/-- An event keeps the ids bound exactly when the names match. -/
theorem IdsBound.step_iff {s : Ledger σ} (h : IdsBound P s)
    (e : RouterEvent) :
    IdsBound P (s.step P e) ↔ NamesMatch P s e := by
  rw [idsBound_iff] at h ⊢
  constructor
  · intro hafter
    by_cases hvalidation : s.router.propagationValidation = none
    · refine .inr fun entry hentry => ?_
      have hsome : namedEntries P s.router e ≠ [] :=
        List.ne_nil_of_mem (Shelf.mem_fresh hentry).1
      refine hafter.stored entry.transientId entry ?_
      show (s.router.handle P e).shelf.entries.lookup _ = _
      rw [(handle_named hsome).2]
      exact Shelf.lookup_receive_of_fresh e.nowMs hentry
    · exact .inl hvalidation
  · intro hnames
    have hreceived : Shelf.IdsBound P (s.received ++ eventData P e)
        s.router.shelf := h.mono (List.subset_append_left _ _)
    refine (handle_shelf P s.router e).invariant
      (hreceived.receive e.nowMs ?_) fun _ _ hs hop => hs.removes hop
    intro entry hentry
    obtain ⟨hbound, hdata⟩ :=
      eventEntries_spec (Shelf.mem_fresh hentry).1
    refine ⟨?_, List.mem_append_right _ hdata⟩
    by_cases hnamed : entry ∈ namedEntries P s.router e
    · rcases hnames with hvalidation | hmatch
      · exact hbound (.inl fun hnone =>
          hvalidation (minStampCost_eq_none.mp hnone))
      · rw [(handle_named (List.ne_nil_of_mem hnamed)).1] at hentry
        exact hmatch entry hentry
    · exact hbound (.inr hnamed)

end Steps

-- ============================================================= whole runs

/-- The ids are bound after every prefix of a run exactly when the names
match at every event of it. -/
theorem ids_bound_throughout_iff {σ : Type} [MessageStore σ]
    (P : Platform) (s₀ : Ledger σ) (h₀ : IdsBound P s₀)
    (events : List RouterEvent) :
    (∀ done, done <+: events → IdsBound P (done.foldl (Ledger.step P) s₀))
      ↔ ∀ done e, done ++ [e] <+: events →
        NamesMatch P (done.foldl (Ledger.step P) s₀) e :=
  Run.throughout_iff h₀ fun _ e h => h.step_iff e

section BindingInstance

open Reference
open PropagationStore (docEntry)

/-- A node that does not check stamps, before it was given anything. -/
def openLedger : Ledger InMemoryStore :=
  ⟨docNode.clearPropagationValidation, []⟩

theorem openLedger_idsBound : IdsBound platform openLedger where
  stored := fun _ _ h => nomatch h
  processed := fun _ h => (List.not_mem_nil h).elim

/-- Data handed in by a client is under its hash. -/
theorem ids_bound_throughout_doc :
    IdsBound platform (openLedger.step platform
      (.processPropagated (.fin 1) docData 0 none true)) := by
  refine (ids_bound_throughout_iff platform openLedger openLedger_idsBound
    [.processPropagated (.fin 1) docData 0 none true]).mpr ?_ _
    (List.prefix_refl _)
  intro done e hprefix
  refine .inr fun entry hentry => ?_
  rw [(Run.prefix_singleton hprefix).2] at hentry
  cases hentry

/-- A peer's payload with an entry under an id that is not its own. -/
noncomputable def forgedPayload : RouterEvent :=
  .applyPeerSyncPayload (List.Vector.replicate 16 0x55)
    (.payload [((docEntry.toBytes platform).toOption).getD []]) 0

theorem forgedPayload_stored :
    (openLedger.step platform forgedPayload).router.propagationStore.get
      docEntry.transientId = some docEntry := by
  decide +kernel

theorem docEntry_not_bound : ¬ docEntry.Bound platform := by
  unfold PropagationEntry.Bound IdOf
  decide +kernel

/-- Its id is filed as it came. -/
theorem forgedPayload_not_bound :
    ¬ ∀ (s₀ : Ledger InMemoryStore), IdsBound platform s₀ →
      ∀ (events done : List RouterEvent), done <+: events →
        IdsBound platform (done.foldl (Ledger.step platform) s₀) := by
  intro h
  have hbound := h openLedger openLedger_idsBound [forgedPayload]
    [forgedPayload] (List.prefix_refl _)
  exact docEntry_not_bound (hbound.stored _ _ forgedPayload_stored)

end BindingInstance

end LxmfRouter

end Lxmf
