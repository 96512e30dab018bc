/-
The five maps of a propagation store stay in step, and when they do not.

# Two ways out of the store

`remove_older_than` drops an id from all five maps. `remove` drops it
from the three that describe the entry and leaves its two peer sets
behind, so that a listing for a peer names a message that is gone. A
sequence of operations keeps the maps in step exactly when no `remove`
names an id that has a peer set at that moment.
-/
import Lxmf.Library.Run
import Lxmf.Proofs.PeerSync

namespace Lxmf

namespace PropagationStore

-- ======================================================== the operations

/-- The public operations that change a store. -/
inductive Op where
  | insert (entry : PropagationEntry)
  | insertWithStampValue (entry : PropagationEntry) (stampValue : Nat)
  | insertWithStampValueAndFilename (entry : PropagationEntry)
      (stampValue : Nat) (filename : String)
  | remove (transientId : Hash32)
  | removeOlderThan (nowMs maxAgeMs : Nat)
  | addHandledPeer (transientId : Hash32) (peerId : Hash16)
  | removeHandledPeer (transientId : Hash32) (peerId : Hash16)
  | addUnhandledPeer (transientId : Hash32) (peerId : Hash16)
  | removeUnhandledPeer (transientId : Hash32) (peerId : Hash16)

def Op.apply (P : Platform) (s : PropagationStore) : Op → PropagationStore
  | .insert entry => s.insert P entry
  | .insertWithStampValue entry stampValue =>
      s.insertWithStampValue entry stampValue
  | .insertWithStampValueAndFilename entry stampValue filename =>
      s.insertWithStampValueAndFilename entry stampValue filename
  | .remove transientId => s.remove transientId
  | .removeOlderThan nowMs maxAgeMs => (s.removeOlderThan nowMs maxAgeMs).2
  | .addHandledPeer transientId peerId =>
      (s.addHandledPeer transientId peerId).2
  | .removeHandledPeer transientId peerId =>
      s.removeHandledPeer transientId peerId
  | .addUnhandledPeer transientId peerId =>
      (s.addUnhandledPeer transientId peerId).2
  | .removeUnhandledPeer transientId peerId =>
      s.removeUnhandledPeer transientId peerId

/-- A store after some operations on a new one. -/
def after (P : Platform) (ops : List Op) : PropagationStore :=
  ops.foldl (Op.apply P) new

-- ========================================================= the invariant

/-- Peer sets belong to stored ids, and none is empty. -/
def SetsOk (entries : HashMap Hash32 PropagationEntry)
    (sets : HashMap Hash32 (Finset Hash16)) : Prop :=
  ∀ id peers, sets.lookup id = some peers → id ∈ entries ∧ peers ≠ ∅

structure RepInv (s : PropagationStore) : Prop where
  stampValues : ∀ id, id ∈ s.stampValues ↔ id ∈ s.entries
  filenames : ∀ id, id ∈ s.filenames ↔ id ∈ s.entries
  handled : SetsOk s.entries s.handledPeers
  unhandled : SetsOk s.entries s.unhandledPeers

/-- A listing for a peer names stored messages only. -/
def ListsStored (s : PropagationStore) : Prop :=
  ∀ peerId id, id ∈ s.handledMessagesForPeer peerId
    ∨ id ∈ s.unhandledMessagesForPeer peerId → s.has id = true

/-- The operation is not a `remove` of an id that has a peer set. -/
def LeavesNoSet (s : PropagationStore) : Op → Prop
  | .remove transientId =>
      transientId ∉ s.handledPeers ∧ transientId ∉ s.unhandledPeers
  | _ => True

section Invariant

variable {P : Platform} {s : PropagationStore}
  {entries : HashMap Hash32 PropagationEntry}
  {sets : HashMap Hash32 (Finset Hash16)}

theorem mem_messagesForPeer {peerId : Hash16} {id : Hash32} :
    id ∈ messagesForPeer sets peerId
      ↔ ∃ peers, sets.lookup id = some peers ∧ peerId ∈ peers := by
  unfold messagesForPeer
  rw [List.mem_map]
  constructor
  · rintro ⟨⟨_, peers⟩, h, rfl⟩
    rw [List.mem_filter, decide_eq_true_iff] at h
    exact ⟨peers, AList.mem_lookup_iff.mpr h.1, h.2⟩
  · rintro ⟨peers, hlookup, hpeer⟩
    refine ⟨⟨id, peers⟩, ?_, rfl⟩
    rw [List.mem_filter, decide_eq_true_iff]
    exact ⟨AList.mem_lookup_iff.mp hlookup, hpeer⟩

theorem RepInv.listsStored (h : RepInv s) : ListsStored s := by
  intro peerId id hid
  rw [has_iff]
  rcases hid with hid | hid
  · obtain ⟨peers, hlookup, _⟩ := mem_messagesForPeer.mp hid
    exact (h.handled id peers hlookup).1
  · obtain ⟨peers, hlookup, _⟩ := mem_messagesForPeer.mp hid
    exact (h.unhandled id peers hlookup).1

-- ---------------------------------------------------------- the peer sets

theorem SetsOk.insertEntry (h : SetsOk entries sets) (id : Hash32)
    (entry : PropagationEntry) : SetsOk (entries.insert id entry) sets := by
  intro t peers hlookup
  obtain ⟨hmem, hne⟩ := h t peers hlookup
  exact ⟨(AList.mem_insert entries).mpr (.inr hmem), hne⟩

/-- An id without a peer set can go. -/
theorem SetsOk.eraseEntry (h : SetsOk entries sets) {id : Hash32}
    (hid : id ∉ sets) : SetsOk (entries.erase id) sets := by
  intro t peers hlookup
  obtain ⟨hmem, hne⟩ := h t peers hlookup
  refine ⟨AList.mem_erase.mpr ⟨?_, hmem⟩, hne⟩
  rintro rfl
  rw [AList.lookup_eq_none.mpr hid] at hlookup
  cases hlookup

theorem SetsOk.eraseSet (h : SetsOk entries sets) (id : Hash32) :
    SetsOk entries (sets.erase id) := by
  intro t peers hlookup
  exact h t peers (HashMap.lookup_of_lookup_erase hlookup).2

theorem SetsOk.insertSet (h : SetsOk entries sets) {id : Hash32}
    (hid : id ∈ entries) {peers : Finset Hash16} (hne : peers ≠ ∅) :
    SetsOk entries (sets.insert id peers) := by
  intro t peers' hlookup
  by_cases ht : t = id
  · rw [ht, AList.lookup_insert] at hlookup
    injection hlookup with hlookup
    exact ⟨ht ▸ hid, hlookup ▸ hne⟩
  · rw [AList.lookup_insert_ne ht] at hlookup
    exact h t peers' hlookup

theorem SetsOk.addPeer (h : SetsOk s.entries sets) (id : Hash32)
    (peerId : Hash16) : SetsOk s.entries (s.addPeer sets id peerId).2 := by
  unfold PropagationStore.addPeer
  split
  case isTrue hhas =>
    refine h.insertSet (has_iff.mp hhas) ?_
    exact Finset.insert_ne_empty peerId _
  case isFalse => exact h

theorem SetsOk.removePeer (h : SetsOk s.entries sets) (id : Hash32)
    (peerId : Hash16) : SetsOk s.entries (s.removePeer sets id peerId) := by
  unfold PropagationStore.removePeer
  split
  case isFalse => exact h
  case isTrue hhas =>
    split
    case h_2 => exact h
    case h_1 peers _ =>
      split
      case isTrue => exact h.eraseSet id
      case isFalse hne => exact h.insertSet (has_iff.mp hhas) hne

-- ------------------------------------------------------ one operation

theorem repInv_new : RepInv new where
  stampValues _ := Iff.rfl
  filenames _ := Iff.rfl
  handled id peers h := by cases h
  unhandled id peers h := by cases h

theorem RepInv.insertWithStampValueAndFilename (h : RepInv s)
    (entry : PropagationEntry) (stampValue : Nat) (filename : String) :
    RepInv (s.insertWithStampValueAndFilename entry stampValue filename)
    where
  stampValues id := by
    unfold PropagationStore.insertWithStampValueAndFilename
    rw [AList.mem_insert, AList.mem_insert, h.stampValues]
  filenames id := by
    unfold PropagationStore.insertWithStampValueAndFilename
    rw [AList.mem_insert, AList.mem_insert, h.filenames]
  handled := h.handled.insertEntry entry.transientId entry
  unhandled := h.unhandled.insertEntry entry.transientId entry

theorem RepInv.remove (h : RepInv s) {id : Hash32}
    (hhandled : id ∉ s.handledPeers) (hunhandled : id ∉ s.unhandledPeers) :
    RepInv (s.remove id) where
  stampValues t := by
    unfold PropagationStore.remove
    rw [AList.mem_erase, AList.mem_erase, h.stampValues]
  filenames t := by
    unfold PropagationStore.remove
    rw [AList.mem_erase, AList.mem_erase, h.filenames]
  handled := h.handled.eraseEntry hhandled
  unhandled := h.unhandled.eraseEntry hunhandled

/-- Without its sets an id can be removed. -/
theorem RepInv.forget (h : RepInv s) (id : Hash32) :
    RepInv (s.forget id) := by
  have hsets : RepInv { s with
      handledPeers := s.handledPeers.erase id
      unhandledPeers := s.unhandledPeers.erase id } :=
    ⟨h.stampValues, h.filenames, h.handled.eraseSet id,
      h.unhandled.eraseSet id⟩
  refine hsets.remove ?_ ?_
  · exact fun hmem => (AList.mem_erase.mp hmem).1 rfl
  · exact fun hmem => (AList.mem_erase.mp hmem).1 rfl

theorem RepInv.removeOlderThan (h : RepInv s) (nowMs maxAgeMs : Nat) :
    RepInv (s.removeOlderThan nowMs maxAgeMs).2 := by
  unfold PropagationStore.removeOlderThan
  dsimp only
  generalize List.map _ _ = ids
  induction ids generalizing s with
  | nil => exact h
  | cons id ids ih => exact ih (h.forget id)

theorem RepInv.apply (h : RepInv s) {op : Op} (hop : LeavesNoSet s op) :
    RepInv (op.apply P s) := by
  cases op with
  | insert entry => exact h.insertWithStampValueAndFilename entry _ _
  | insertWithStampValue entry stampValue =>
      exact h.insertWithStampValueAndFilename entry stampValue _
  | insertWithStampValueAndFilename entry stampValue filename =>
      exact h.insertWithStampValueAndFilename entry stampValue filename
  | remove id => exact h.remove hop.1 hop.2
  | removeOlderThan nowMs maxAgeMs => exact h.removeOlderThan nowMs maxAgeMs
  | addHandledPeer id peerId =>
      exact ⟨h.stampValues, h.filenames, h.handled.addPeer id peerId,
        h.unhandled⟩
  | removeHandledPeer id peerId =>
      exact ⟨h.stampValues, h.filenames, h.handled.removePeer id peerId,
        h.unhandled⟩
  | addUnhandledPeer id peerId =>
      exact ⟨h.stampValues, h.filenames, h.handled,
        h.unhandled.addPeer id peerId⟩
  | removeUnhandledPeer id peerId =>
      exact ⟨h.stampValues, h.filenames, h.handled,
        h.unhandled.removePeer id peerId⟩

/-- A peer set a `remove` leaves behind belongs to no entry. -/
theorem RepInv.leavesNoSet {op : Op} (h : RepInv (op.apply P s)) :
    LeavesNoSet s op := by
  cases op with
  | remove id =>
      have hgone : id ∉ (s.remove id).entries :=
        fun hmem => (AList.mem_erase.mp hmem).1 rfl
      refine ⟨?_, ?_⟩
      · intro hmem
        obtain ⟨peers, hpeers⟩ := HashMap.mem_iff_lookup.mp hmem
        exact hgone (h.handled id peers hpeers).1
      · intro hmem
        obtain ⟨peers, hpeers⟩ := HashMap.mem_iff_lookup.mp hmem
        exact hgone (h.unhandled id peers hpeers).1
  | _ => trivial

end Invariant

/-- The maps are in step after every prefix of a sequence of operations
exactly when each `remove` in it is of an id without a peer set. -/
theorem repInv_throughout_iff (P : Platform) (ops : List Op) :
    (∀ done, done <+: ops →
        RepInv (after P done) ∧ ListsStored (after P done))
      ↔ ∀ done op, done ++ [op] <+: ops →
        LeavesNoSet (after P done) op := by
  refine @Run.holds_throughout_iff PropagationStore Op (Op.apply P)
    LeavesNoSet RepInv new ops (fun _ _ => True)
    (fun s => RepInv s ∧ ListsStored s) repInv_new ?_ ?_ ?_
    (fun _ _ _ => trivial)
  · exact fun _ hinv => ⟨hinv, hinv.listsStored⟩
  · exact fun _ _ hinv _ hgood => hinv.apply hgood
  · exact fun _ _ _ _ hafter => hafter.1.leavesNoSet

section Instance

open Reference

def docEntry : PropagationEntry where
  transientId := List.Vector.replicate 32 0x11
  lxmData := docData
  timestamp := .fin 1
  destinationHash := destinationPrefix docData
  filepath := none
  msgSize := some 20

/-- A message handled for one peer, then removed. -/
def removedAfterHandling : List Op :=
  [.insertWithStampValue docEntry 0,
   .addHandledPeer docEntry.transientId (List.Vector.replicate 16 0x55),
   .remove docEntry.transientId]

/-- The store still lists the message for the peer. -/
theorem removedAfterHandling_listed :
    ¬ ∀ ops done, done <+: ops → RepInv (after platform done)
      ∧ ListsStored (after platform done) := by
  intro h
  have hlists := (h removedAfterHandling removedAfterHandling
    (List.prefix_refl _)).2
  have hstored := hlists (List.Vector.replicate 16 0x55)
    docEntry.transientId (.inl (by decide +kernel))
  have hgone : (after platform removedAfterHandling).has
      docEntry.transientId = false := by decide +kernel
  rw [hgone] at hstored
  cases hstored

end Instance

end PropagationStore

end Lxmf
