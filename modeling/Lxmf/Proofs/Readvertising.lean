/-
What a repeated advertisement does to a resource in progress
(reticulum-patched/src/resource.rs: `ResourceTracker`).

An advertisement of a completed resource is told apart, one of a resource
in progress is not: a new assembly takes the place of the old one, with
every slot empty. Progress is kept exactly when there was none, and where
every repeat finds the assembly as the last one left it, the resource
completes as soon as each of its parts has come once.

# The transfer

The frames of one resource arrive, in any order and any number of times.
The state is the tracker, its events and, for the statement only, the
parts that came since the first advertisement.
-/
import Lxmf.Library.Run
import Lxmf.Proofs.HashUpdates

namespace Lxmf

open Assembly (filled piece pieceCount)

variable {P : Platform}

-- ============================================================== arrivals

/-- A frame of the resource, and when it comes. -/
inductive TransferFrame where
  | advertisement (linkId : Hash16) (now : Nat)
  | part (part : ResourcePart) (now : Nat)

structure Transfer where
  tracker : ResourceTracker
  events : List ResourceEvent
  /-- The parts since the first advertisement, when there was one. -/
  arrived : Option (List ResourcePart)

/-- The event a call to the tracker returned. -/
def eventOf (result : Except ReticulumError (Option ResourceEvent)) :
    List ResourceEvent :=
  match result with
  | .ok (some event) => [event]
  | _ => []

namespace Transfer

def start (tracker : ResourceTracker) : Transfer := ⟨tracker, [], none⟩

def arrive (P : Platform) (advert : ResourceAdvertisement) (s : Transfer) :
    TransferFrame → Transfer
  | .advertisement linkId now =>
      { s with
        tracker := (s.tracker.handleAdvertisement advert linkId now).2
        arrived := some (s.arrived.getD []) }
  | .part part now =>
      { tracker := (s.tracker.handlePart P part now).2
        events := s.events ++ eventOf (s.tracker.handlePart P part now).1
        arrived := s.arrived.map (part :: ·) }

/-- The transfer after these frames. -/
def after (P : Platform) (advert : ResourceAdvertisement)
    (t : ResourceTracker) (done : List TransferFrame) : Transfer :=
  done.foldl (arrive P advert) (start t)

/-- The `Complete` event of the resource was produced. -/
def Completed (id : Hash16) (s : Transfer) : Prop :=
  ∃ c, ResourceEvent.complete c ∈ s.events ∧ c.resourceId = id

/-- Each part has come since the first advertisement. -/
def AllArrived (parts : List ResourcePart) (s : Transfer) : Prop :=
  ∃ arrived, s.arrived = some arrived ∧ ∀ part ∈ parts, part ∈ arrived

end Transfer

/-- The tracker has not seen the resource. -/
def ResourceTracker.Unknown (t : ResourceTracker) (id : Hash16) : Prop :=
  t.incoming.lookup id = none ∧ id ∉ t.completed.set

/-- No part is in its slot and no hash is known. -/
def ResourceAssembly.Blank (a : ResourceAssembly) : Prop :=
  (∀ slot ∈ a.received, slot = none) ∧ ∀ slot ∈ a.hashmap, slot = none

/-- The part belongs to a slot, and is no longer than a part may be. -/
def ResourceAdvertisement.Takes (advert : ResourceAdvertisement)
    (index : Nat) (part : ResourcePart) : Prop :=
  part.partIndex = index ∧ part.data.length ≤ advert.partSize

/-- There are slots, and a part for each. -/
def Fits (advert : ResourceAdvertisement) (parts : List ResourcePart) :
    Prop :=
  advert.totalParts ≠ 0
    ∧ ∀ index < advert.totalParts, ∃ part ∈ parts, advert.Takes index part

-- ========================================================== one assembly

section Assembly

variable {advert : ResourceAdvertisement} {parts : List ResourcePart}
  {a : ResourceAssembly}

/-- An assembly of this resource that lacks some of its parts. -/
structure InProgress (advert : ResourceAdvertisement)
    (parts : List ResourcePart) (a : ResourceAssembly) : Prop where
  resourceId : a.resourceId = advert.resourceId
  totalParts : a.totalParts = advert.totalParts
  partSize : a.partSize = advert.partSize
  slots : a.received.length = advert.totalParts
  hashes : a.hashmap.length = advert.totalParts
  count : a.receivedCount = filled a.received
  filledBy : ∀ (index : Nat) (data : Bytes),
    a.received[index]? = some (some data) →
    ∃ part ∈ parts, advert.Takes index part

theorem inProgress_ofAdvertisement (linkId : Hash16) (now : Nat) :
    InProgress advert parts (.ofAdvertisement advert linkId now) where
  resourceId := rfl
  totalParts := rfl
  partSize := rfl
  slots := List.length_replicate
  hashes := List.length_replicate
  count := (Assembly.filled_replicate _).symm
  filledBy index data h := by
    have hslot : (List.replicate advert.totalParts
        (none : Option Bytes))[index]? = some (some data) := h
    rw [List.getElem?_replicate] at hslot
    split at hslot <;> cases hslot

/-- A part of the resource goes to its slot. -/
theorem InProgress.store (h : InProgress advert parts a)
    {part : ResourcePart} (hpart : part ∈ parts)
    (hslot : part.partIndex < a.received.length)
    (hsize : part.data.length ≤ advert.partSize) :
    InProgress advert parts (a.store part.partIndex part.data) := by
  unfold ResourceAssembly.store
  split
  case h_1 => exact h
  case h_2 hnone =>
    have hempty : a.received[part.partIndex]? = some none := by
      rw [List.getD_eq_getElem?_getD, List.getElem?_eq_getElem hslot,
        Option.getD_some] at hnone
      rw [List.getElem?_eq_getElem hslot, hnone]
    refine ⟨h.resourceId, h.totalParts, h.partSize,
      List.length_set.trans h.slots, h.hashes, ?_, ?_⟩
    · show a.receivedCount + 1 = filled (a.received.set _ (some part.data))
      rw [Assembly.filled_set hempty, h.count]
    · intro index data hdata
      have hset : (a.received.set part.partIndex (some part.data))[index]?
          = some (some data) := hdata
      rw [List.getElem?_set] at hset
      split at hset
      case isTrue heq => exact ⟨part, hpart, heq, hsize⟩
      case isFalse => exact h.filledBy index data hset

theorem InProgress.hashSlot (h : InProgress advert parts a) (P : Platform)
    (index : Nat) : InProgress advert parts (a.hashSlot P index) := by
  unfold ResourceAssembly.hashSlot
  split
  case h_1 =>
    exact ⟨h.resourceId, h.totalParts, h.partSize, h.slots,
      List.length_set.trans h.hashes, h.count, h.filledBy⟩
  case h_2 => exact h

theorem InProgress.accept (h : InProgress advert parts a)
    {part : ResourcePart} (hpart : part ∈ parts)
    (hslot : part.partIndex < a.received.length)
    (hsize : part.data.length ≤ advert.partSize) (P : Platform) (now : Nat) :
    InProgress advert parts (a.accept P part now) := by
  have hstored := (h.store hpart hslot hsize).hashSlot P part.partIndex
  exact ⟨hstored.resourceId, hstored.totalParts, hstored.partSize,
    hstored.slots, hstored.hashes, hstored.count, hstored.filledBy⟩

theorem accept_received (a : ResourceAssembly) (P : Platform)
    (part : ResourcePart) (now : Nat) :
    (a.accept P part now).received
      = (a.store part.partIndex part.data).received := by
  unfold ResourceAssembly.accept ResourceAssembly.hashSlot
  split <;> rfl

/-- The slot is filled. -/
def ResourceAssembly.Has (a : ResourceAssembly) (index : Nat) : Prop :=
  ∃ data, a.received[index]? = some (some data)

/-- What is in a slot stays there. -/
theorem has_accept {part : ResourcePart} {now index : Nat}
    (h : a.Has index) : (a.accept P part now).Has index := by
  obtain ⟨data, hdata⟩ := h
  unfold ResourceAssembly.Has
  rw [accept_received]
  unfold ResourceAssembly.store
  split
  case h_1 => exact ⟨data, hdata⟩
  case h_2 hnone =>
    refine ⟨data, ?_⟩
    show (a.received.set part.partIndex (some part.data))[index]? = _
    have hne : part.partIndex ≠ index := by
      intro heq
      rw [heq, List.getD_eq_getElem?_getD, hdata] at hnone
      cases hnone
    rw [List.getElem?_set_ne hne]
    exact hdata

theorem has_accept_self {part : ResourcePart} {now : Nat}
    (hslot : part.partIndex < a.received.length) :
    (a.accept P part now).Has part.partIndex := by
  unfold ResourceAssembly.Has
  rw [accept_received]
  unfold ResourceAssembly.store
  split
  case h_1 data hsome =>
    refine ⟨data, ?_⟩
    rw [List.getD_eq_getElem?_getD, List.getElem?_eq_getElem hslot,
      Option.getD_some] at hsome
    rw [List.getElem?_eq_getElem hslot, hsome]
  case h_2 =>
    exact ⟨part.data, List.getElem?_set_self hslot⟩

/-- With every slot filled the counter is at its end. -/
theorem InProgress.full (h : InProgress advert parts a)
    (hall : ∀ index < advert.totalParts, a.Has index) :
    a.receivedCount = a.totalParts := by
  rw [h.count, h.totalParts, ← h.slots]
  refine List.countP_eq_length.mpr ?_
  intro slot hslot
  obtain ⟨index, hindex, rfl⟩ := List.mem_iff_getElem.mp hslot
  obtain ⟨data, hdata⟩ := hall index (h.slots ▸ hindex)
  rw [List.getElem?_eq_getElem hindex] at hdata
  rw [Option.some.inj hdata]
  rfl

/-- With the counter at its end every slot is filled. -/
theorem InProgress.covered (h : InProgress advert parts a)
    (hfull : a.receivedCount = a.totalParts) :
    ∀ index < advert.totalParts,
      ∃ part ∈ parts, advert.Takes index part := by
  intro index hindex
  have hcount : filled a.received = a.received.length := by
    rw [← h.count, hfull, h.totalParts, h.slots]
  have hslot : index < a.received.length := h.slots ▸ hindex
  have hsome := List.countP_eq_length.mp hcount _ (List.getElem_mem hslot)
  obtain ⟨data, hdata⟩ := Option.isSome_iff_exists.mp hsome
  refine h.filledBy index data ?_
  rw [List.getElem?_eq_getElem hslot, hdata]

/-- A new assembly is the old one, as far as progress goes, exactly when
the old one was blank. -/
theorem InProgress.intact_iff (h : InProgress advert parts a)
    (linkId : Hash16) (now : Nat) :
    ((ResourceAssembly.ofAdvertisement advert linkId now).received
        = a.received
      ∧ (ResourceAssembly.ofAdvertisement advert linkId now).hashmap
        = a.hashmap) ↔ a.Blank := by
  unfold ResourceAssembly.Blank
  refine and_congr ?_ ?_
  · show List.replicate advert.totalParts none = a.received ↔ _
    rw [eq_comm, List.eq_replicate_iff, and_iff_right h.slots]
  · show List.replicate advert.totalParts none = a.hashmap ↔ _
    rw [eq_comm, List.eq_replicate_iff, and_iff_right h.hashes]

end Assembly

-- ============================================================= one step

namespace Transfer

section Steps

variable {advert : ResourceAdvertisement} {parts : List ResourcePart}
  {s : Transfer}

/-- What holds of the transfer of a resource after any of its frames. -/
structure Sound (advert : ResourceAdvertisement)
    (parts : List ResourcePart) (s : Transfer) : Prop where
  progress : ∀ a, s.tracker.incoming.lookup advert.resourceId = some a →
    InProgress advert parts a ∧ a.receivedCount ≠ a.totalParts
  pending : ∀ a, s.tracker.incoming.lookup advert.resourceId = some a →
    advert.resourceId ∉ s.tracker.completed.set ∧ advert.totalParts ≠ 0
  cached : advert.resourceId ∈ s.tracker.completed.set →
    s.Completed advert.resourceId
  fits : s.Completed advert.resourceId → Fits advert parts

theorem sound_start {t : ResourceTracker}
    (h : t.Unknown advert.resourceId) : Sound advert parts (start t) where
  progress a ha := by
    rw [show (start t).tracker.incoming.lookup _ = none from h.1] at ha
    cases ha
  pending a ha := by
    rw [show (start t).tracker.incoming.lookup _ = none from h.1] at ha
    cases ha
  cached hmem := absurd hmem h.2
  fits hdone := by
    obtain ⟨c, hc, -⟩ := hdone
    cases hc

theorem Sound.advertisement (h : Sound advert parts s) (linkId : Hash16)
    (now : Nat) :
    Sound advert parts (s.arrive P advert (.advertisement linkId now)) := by
  unfold arrive
  dsimp only
  rcases handleAdvertisement_cases s.tracker advert linkId now with
    ⟨-, hsame, -⟩ | ⟨hnew, hpending, hslots⟩
  · rw [hsame]
    exact ⟨h.progress, h.pending, h.cached, h.fits⟩
  · rw [hnew]
    refine ⟨?_, ?_, h.cached, h.fits⟩
    · intro a ha
      rw [show AList.lookup advert.resourceId (AList.insert _ _ _) = _ from
        AList.lookup_insert _] at ha
      rw [← Option.some.inj ha]
      exact ⟨inProgress_ofAdvertisement linkId now, Ne.symm hslots⟩
    · exact fun a _ => ⟨hpending, hslots⟩

/-- An advertisement of a resource in progress starts it again. -/
theorem Sound.again (h : Sound advert parts s) {a : ResourceAssembly}
    (ha : s.tracker.incoming.lookup advert.resourceId = some a)
    {linkId : Hash16} {now : Nat} :
    (s.tracker.handleAdvertisement advert linkId now).2.incoming.lookup
        advert.resourceId
      = some (.ofAdvertisement advert linkId now) := by
  obtain ⟨hpending, hslots⟩ := h.pending a ha
  rcases handleAdvertisement_cases s.tracker advert linkId now with
    ⟨-, -, hcached | hzero⟩ | ⟨hfresh, -⟩
  · exact absurd hcached hpending
  · exact absurd hzero hslots
  · rw [hfresh]
    exact AList.lookup_insert _

/-- What a part of the resource does: nothing, when no assembly takes it,
or it completes its resource, or it fills its slot. -/
theorem arrive_part_cases {part : ResourcePart}
    (hid : part.resourceId = advert.resourceId) (now : Nat) :
    (s.arrive P advert (.part part now)
          = { s with arrived := s.arrived.map (part :: ·) }
        ∧ ∀ a, s.tracker.incoming.lookup advert.resourceId = some a →
          a.partSize < part.data.length
            ∨ a.received.length ≤ part.partIndex)
      ∨ ∃ a, s.tracker.incoming.lookup advert.resourceId = some a
        ∧ part.data.length ≤ a.partSize
        ∧ part.partIndex < a.received.length
        ∧ (((a.accept P part now).receivedCount
                = (a.accept P part now).totalParts
              ∧ s.arrive P advert (.part part now)
                = { tracker := s.tracker.conclude
                      (a.accept P part now).resourceId
                    events := s.events
                      ++ [.complete (a.accept P part now).completion]
                    arrived := s.arrived.map (part :: ·) })
          ∨ ((a.accept P part now).receivedCount
                ≠ (a.accept P part now).totalParts
              ∧ s.arrive P advert (.part part now)
                = { tracker := { s.tracker with
                      incoming := s.tracker.incoming.insert
                        advert.resourceId (a.accept P part now) }
                    events := s.events
                      ++ [.progress (a.accept P part now).progress]
                    arrived := s.arrived.map (part :: ·) })) := by
  unfold arrive ResourceTracker.handlePart
  dsimp only
  rw [hid]
  cases hlookup : s.tracker.incoming.lookup advert.resourceId with
  | none =>
      refine .inl ⟨?_, fun a ha => nomatch ha⟩
      simp only [eventOf, List.append_nil]
  | some a =>
      dsimp only
      by_cases hsize : a.partSize < part.data.length
      · refine .inl ⟨?_, ?_⟩
        · rw [if_pos hsize]
          simp only [eventOf, List.append_nil]
        · intro b hb
          rw [← Option.some.inj hb]
          exact .inl hsize
      rw [if_neg hsize]
      by_cases hslot : a.received.length ≤ part.partIndex
      · refine .inl ⟨?_, ?_⟩
        · rw [if_pos hslot]
          simp only [eventOf, List.append_nil]
        · intro b hb
          rw [← Option.some.inj hb]
          exact .inr hslot
      rw [if_neg hslot]
      refine .inr ⟨a, rfl, Nat.not_lt.mp hsize, Nat.not_le.mp hslot, ?_⟩
      by_cases hfull : (a.accept P part now).receivedCount
          = (a.accept P part now).totalParts
      · exact .inl ⟨hfull, by rw [if_pos hfull]; rfl⟩
      · exact .inr ⟨hfull, by rw [if_neg hfull]; rfl⟩

theorem completed_append {id : Hash16} (events : List ResourceEvent)
    (tracker : ResourceTracker) (arrived : Option (List ResourcePart))
    (h : s.Completed id) :
    Completed id ⟨tracker, s.events ++ events, arrived⟩ := by
  obtain ⟨c, hc, hid⟩ := h
  exact ⟨c, List.mem_append_left events hc, hid⟩

theorem Sound.part (h : Sound advert parts s) {part : ResourcePart}
    (hpart : part ∈ parts) (hid : part.resourceId = advert.resourceId)
    (now : Nat) :
    Sound advert parts (s.arrive P advert (.part part now)) := by
  rcases arrive_part_cases (P := P) hid now with
    ⟨hsame, -⟩ | ⟨a, hlookup, hsize, hslot, hcases⟩
  · rw [hsame]
    exact ⟨h.progress, h.pending, h.cached, h.fits⟩
  · obtain ⟨hbefore, -⟩ := h.progress a hlookup
    obtain ⟨hpending, hslots⟩ := h.pending a hlookup
    have haccept := hbefore.accept hpart hslot (hbefore.partSize ▸ hsize)
      P now
    have hfits : (a.accept P part now).receivedCount
        = (a.accept P part now).totalParts → Fits advert parts :=
      fun hfull => ⟨hslots, haccept.covered hfull⟩
    rcases hcases with ⟨hfull, hnext⟩ | ⟨hshort, hnext⟩
    · rw [hnext, haccept.resourceId]
      have hdone : Completed advert.resourceId
          ⟨s.tracker.conclude advert.resourceId,
            s.events ++ [.complete (a.accept P part now).completion],
            s.arrived.map (part :: ·)⟩ :=
        ⟨_, List.mem_append_right _ List.mem_cons_self, haccept.resourceId⟩
      refine ⟨?_, ?_, fun _ => hdone, fun _ => hfits hfull⟩
      · intro b hb
        have hgone : AList.lookup advert.resourceId
            (s.tracker.incoming.erase advert.resourceId) = some b := hb
        rw [AList.lookup_erase] at hgone
        cases hgone
      · intro b hb
        have hgone : AList.lookup advert.resourceId
            (s.tracker.incoming.erase advert.resourceId) = some b := hb
        rw [AList.lookup_erase] at hgone
        cases hgone
    · rw [hnext]
      refine ⟨?_, fun _ _ => ⟨hpending, hslots⟩, ?_, ?_⟩
      · intro b hb
        have hnew : AList.lookup advert.resourceId
            (s.tracker.incoming.insert advert.resourceId
              (a.accept P part now)) = some b := hb
        rw [AList.lookup_insert] at hnew
        rw [← Option.some.inj hnew]
        exact ⟨haccept, hshort⟩
      · exact fun hmem => absurd hmem hpending
      · rintro ⟨c, hc, hcid⟩
        rcases List.mem_append.mp hc with hold | hnew
        · exact h.fits ⟨c, hold, hcid⟩
        · cases List.mem_singleton.mp hnew

/-- A resource that is not complete has every part that came, as far as
it has a slot for it. -/
def Filling (advert : ResourceAdvertisement) (s : Transfer) : Prop :=
  s.Completed advert.resourceId
    ∨ (s.arrived = none
      ∧ s.tracker.incoming.lookup advert.resourceId = none)
    ∨ ∃ arrived a, s.arrived = some arrived
      ∧ s.tracker.incoming.lookup advert.resourceId = some a
      ∧ ∀ part ∈ arrived, part.data.length ≤ a.partSize →
        part.partIndex < a.received.length → a.Has part.partIndex

/-- A repeat that finds a blank assembly loses nothing. -/
theorem Filling.advertisement (h : Filling advert s)
    (hsound : Sound advert parts s) (hslots : advert.totalParts ≠ 0)
    (hblank : ∀ a, s.tracker.incoming.lookup advert.resourceId = some a →
      a.Blank) (linkId : Hash16) (now : Nat) :
    Filling advert (s.arrive P advert (.advertisement linkId now)) := by
  unfold arrive
  dsimp only
  rcases h with hdone | hopen
  · exact .inl hdone
  rcases handleAdvertisement_cases s.tracker advert linkId now with
    ⟨-, hsame, hold⟩ | ⟨hnew, -, -⟩
  · exact .inl (hsound.cached (hold.resolve_right hslots))
  · rw [hnew]
    refine .inr (.inr ⟨s.arrived.getD [], _, rfl, AList.lookup_insert _, ?_⟩)
    rcases hopen with ⟨hnone, -⟩ | ⟨arrived, a, harrived, hlookup, hhas⟩
    · rw [hnone]
      exact fun part hpart => nomatch hpart
    · rw [harrived]
      intro part hpart hsize hslot
      obtain ⟨hprogress, -⟩ := hsound.progress a hlookup
      have hfresh : part.partIndex < advert.totalParts :=
        lt_of_lt_of_eq hslot List.length_replicate
      -- the slot would be filled in the old assembly, which is blank
      obtain ⟨data, hdata⟩ := hhas part hpart
        (hprogress.partSize ▸ hsize) (hprogress.slots ▸ hfresh)
      cases (hblank a hlookup).1 _ (List.mem_of_getElem? hdata)

theorem Filling.part (h : Filling advert s) {part : ResourcePart}
    (hid : part.resourceId = advert.resourceId)
    (hsound : Sound advert parts s) (hpart : part ∈ parts) (now : Nat) :
    Filling advert (s.arrive P advert (.part part now)) := by
  rcases arrive_part_cases (P := P) hid now with
    ⟨hsame, hrefused⟩ | ⟨a, hlookup, hsize, hslot, hcases⟩
  · rw [hsame]
    rcases h with hdone | ⟨hnone, hlookup⟩ | ⟨arrived, a, harrived, hlookup,
      hhas⟩
    · exact .inl hdone
    · exact .inr (.inl ⟨by rw [hnone]; rfl, hlookup⟩)
    · refine .inr (.inr ⟨part :: arrived, a, by rw [harrived]; rfl, hlookup,
        ?_⟩)
      intro other hother hsize hslot
      rcases List.mem_cons.mp hother with heq | hold
      · rw [heq] at hsize hslot
        have hno := hrefused a hlookup
        omega
      · exact hhas other hold hsize hslot
  · have haccept := (hsound.progress a hlookup).1.accept hpart hslot
      ((hsound.progress a hlookup).1.partSize ▸ hsize) P now
    rcases hcases with ⟨-, hnext⟩ | ⟨-, hnext⟩
    · rw [hnext]
      exact .inl ⟨_, List.mem_append_right _ List.mem_cons_self,
        haccept.resourceId⟩
    · rw [hnext]
      rcases h with hdone | ⟨-, hgone⟩ | ⟨arrived, b, harrived, hb, hhas⟩
      · exact .inl (completed_append _ _ _ hdone)
      · rw [hlookup] at hgone
        cases hgone
      · rw [hlookup] at hb
        cases hb
        refine .inr (.inr ⟨part :: arrived, a.accept P part now,
          by rw [harrived]; rfl, AList.lookup_insert _, ?_⟩)
        intro other hother hsize' hslot'
        rcases List.mem_cons.mp hother with heq | hold
        · rw [heq]
          exact has_accept_self hslot
        · have hprogress := (hsound.progress a hlookup).1
          rw [haccept.partSize, ← hprogress.partSize] at hsize'
          rw [haccept.slots, ← hprogress.slots] at hslot'
          exact has_accept (hhas other hold hsize' hslot')

/-- A resource all of whose parts came is complete. -/
theorem Filling.completed (h : Filling advert s)
    (hsound : Sound advert parts s) (hfits : Fits advert parts)
    (harrived : s.AllArrived parts) : s.Completed advert.resourceId := by
  obtain ⟨all, hall, hmem⟩ := harrived
  rcases h with hdone | ⟨hnone, -⟩ | ⟨arrived, a, heq, hlookup, hhas⟩
  · exact hdone
  · rw [hall] at hnone
    cases hnone
  · rw [hall] at heq
    cases heq
    obtain ⟨hprogress, hshort⟩ := hsound.progress a hlookup
    refine absurd (hprogress.full ?_) hshort
    intro index hindex
    obtain ⟨part, hpart, hslot, hsize⟩ := hfits.2 index hindex
    rw [← hslot] at hindex ⊢
    exact hhas part (hmem part hpart) (hprogress.partSize ▸ hsize)
      (hprogress.slots ▸ hindex)

end Steps

-- ============================================================ whole runs

section Runs

variable {advert : ResourceAdvertisement} {parts : List ResourcePart}
  {t : ResourceTracker} {arrivals done : List TransferFrame}

/-- No repeated advertisement costs the assembly a part or a hash, and a
resource all of whose parts came is complete. -/
structure KeepsProgress (P : Platform) (advert : ResourceAdvertisement)
    (parts : List ResourcePart) (t : ResourceTracker)
    (arrivals : List TransferFrame) : Prop where
  intact : ∀ done linkId now,
    done ++ [.advertisement linkId now] <+: arrivals → ∀ a,
    (after P advert t done).tracker.incoming.lookup advert.resourceId
      = some a →
    ∃ b, ((after P advert t done).tracker.handleAdvertisement advert linkId
          now).2.incoming.lookup advert.resourceId = some b
      ∧ b.received = a.received ∧ b.hashmap = a.hashmap
  completes : ∀ done, done <+: arrivals →
    (after P advert t done).AllArrived parts →
    (after P advert t done).Completed advert.resourceId

/-- Every repeated advertisement finds nothing to lose, and the parts, if
all of them come, are such that the assembly takes them. -/
structure Harmless (P : Platform) (advert : ResourceAdvertisement)
    (parts : List ResourcePart) (t : ResourceTracker)
    (arrivals : List TransferFrame) : Prop where
  blank : ∀ done linkId now,
    done ++ [.advertisement linkId now] <+: arrivals → ∀ a,
    (after P advert t done).tracker.incoming.lookup advert.resourceId
      = some a → a.Blank
  fits : (after P advert t arrivals).AllArrived parts → Fits advert parts

/-- The parts that came stay. -/
theorem allArrived_arrive {s : Transfer} (h : s.AllArrived parts)
    (arrival : TransferFrame) :
    (s.arrive P advert arrival).AllArrived parts := by
  obtain ⟨arrived, harrived, hall⟩ := h
  cases arrival with
  | advertisement linkId now =>
      refine ⟨arrived, ?_, hall⟩
      show some (s.arrived.getD []) = some arrived
      rw [harrived]
      rfl
  | part part now =>
      refine ⟨part :: arrived, ?_, fun p hp => List.mem_cons_of_mem _
        (hall p hp)⟩
      show s.arrived.map (part :: ·) = some (part :: arrived)
      rw [harrived]
      rfl

theorem allArrived_of_initial (h : done <+: arrivals)
    (hall : (after P advert t done).AllArrived parts) :
    (after P advert t arrivals).AllArrived parts := by
  obtain ⟨rest, rfl⟩ := h
  unfold after at hall ⊢
  rw [List.foldl_append]
  generalize done.foldl (arrive P advert) (start t) = s at hall
  induction rest generalizing s with
  | nil => exact hall
  | cons arrival rest ih => exact ih _ (allArrived_arrive hall arrival)

/-- The parts that arrive are the ones that were sent. -/
def Own (parts : List ResourcePart) (arrivals : List TransferFrame) : Prop :=
  ∀ part now, .part part now ∈ arrivals → part ∈ parts

theorem sound_after (hid : ∀ part ∈ parts,
      part.resourceId = advert.resourceId)
    (hnew : t.Unknown advert.resourceId) (hown : Own parts arrivals)
    (hdone : done <+: arrivals) :
    Sound advert parts (after P advert t done) := by
  refine @Run.throughout Transfer TransferFrame (arrive P advert)
    (fun _ arrival => ∀ part now, arrival = .part part now → part ∈ parts)
    (Sound advert parts) (start t) arrivals (sound_start hnew) ?_ ?_ done
    hdone
  · intro s arrival hsound hpart
    cases arrival with
    | advertisement linkId now => exact hsound.advertisement linkId now
    | part part now =>
        have hmem := hpart part now rfl
        exact hsound.part hmem (hid part hmem) now
  · intro done arrival hinitial part now heq
    refine hown part now (hinitial.subset ?_)
    rw [heq]
    exact List.mem_append_right _ List.mem_cons_self

theorem filling_after (hid : ∀ part ∈ parts,
      part.resourceId = advert.resourceId)
    (hnew : t.Unknown advert.resourceId) (hown : Own parts arrivals)
    (hslots : advert.totalParts ≠ 0)
    (hblank : ∀ done linkId now,
      done ++ [.advertisement linkId now] <+: arrivals → ∀ a,
      (after P advert t done).tracker.incoming.lookup advert.resourceId
        = some a → a.Blank)
    (hdone : done <+: arrivals) :
    Filling advert (after P advert t done) := by
  induction done using List.reverseRecOn with
  | nil => exact .inr (.inl ⟨rfl, hnew.1⟩)
  | append_singleton done arrival ih =>
      have hbefore : done <+: arrivals :=
        (List.prefix_append done [arrival]).trans hdone
      have hsound := sound_after (P := P) hid hnew hown hbefore
      have hnext : after P advert t (done ++ [arrival])
          = (after P advert t done).arrive P advert arrival :=
        List.foldl_append
      rw [hnext]
      cases arrival with
      | advertisement linkId now =>
          exact (ih hbefore).advertisement hsound hslots
            (hblank done linkId now hdone) linkId now
      | part part now =>
          have hmem : part ∈ parts := hown part now
            (hdone.subset (List.mem_append_right _ List.mem_cons_self))
          exact (ih hbefore).part (hid part hmem) hsound hmem now

/-- Repeated advertisements leave a resource in progress as it is, and it
completes with its last part, exactly when each of them finds a blank
assembly. -/
theorem readvertising_keeps_progress_iff {data : Bytes} {partSize : Nat}
    {requestId : Option Hash16} {isResponse isRequest : Bool}
    (hsplit : ResourceSender.split P data partSize requestId isResponse
      isRequest = .ok (advert, parts))
    (hnew : t.Unknown advert.resourceId) (hown : Own parts arrivals) :
    KeepsProgress P advert parts t arrivals
      ↔ Harmless P advert parts t arrivals := by
  have hid := resourceId_of_split hsplit
  constructor
  · intro h
    refine ⟨?_, ?_⟩
    · intro done linkId now hprefix a ha
      have hsound := sound_after (P := P) hid hnew hown
        ((List.prefix_append done _).trans hprefix)
      obtain ⟨b, hb, hreceived, hhashmap⟩ := h.intact done linkId now hprefix
        a ha
      rw [hsound.again ha] at hb
      refine ((hsound.progress a ha).1.intact_iff linkId now).mp ?_
      rw [Option.some.inj hb]
      exact ⟨hreceived, hhashmap⟩
    · intro hall
      exact (sound_after (P := P) hid hnew hown List.prefix_rfl).fits
        (h.completes arrivals List.prefix_rfl hall)
  · intro h
    refine ⟨?_, ?_⟩
    · intro done linkId now hprefix a ha
      have hsound := sound_after (P := P) hid hnew hown
        ((List.prefix_append done _).trans hprefix)
      exact ⟨_, hsound.again ha,
        ((hsound.progress a ha).1.intact_iff linkId now).mpr
          (h.blank done linkId now hprefix a ha)⟩
    · intro done hdone hall
      have hfits := h.fits (allArrived_of_initial hdone hall)
      exact (filling_after hid hnew hown hfits.1 h.blank hdone).completed
        (sound_after (P := P) hid hnew hown hdone) hfits hall

end Runs

end Transfer

/-- A payload of 32-bit sizes fits the assembly of its resource. -/
theorem fits_of_split {data : Bytes} {partSize : Nat}
    {requestId : Option Hash16} {isResponse isRequest : Bool}
    {advert : ResourceAdvertisement} {parts : List ResourcePart}
    (hsplit : ResourceSender.split P data partSize requestId isResponse
      isRequest = .ok (advert, parts))
    (hdata : data ≠ []) (hsize : partSize < 2 ^ 32)
    (hcount : pieceCount partSize data.length < 2 ^ 32) :
    Fits advert parts := by
  unfold ResourceSender.split at hsplit
  split at hsplit
  case isTrue => cases hsplit
  case isFalse hpos =>
    cases hsplit
    have hcover := Assembly.le_pieceCount_mul (Nat.pos_of_ne_zero hpos)
      data.length
    have hlength := List.length_pos_of_ne_nil hdata
    refine ⟨?_, ?_⟩
    · show pieceCount partSize data.length % 2 ^ 32 ≠ 0
      rw [Nat.mod_eq_of_lt hcount]
      intro hzero
      rw [hzero, Nat.zero_mul] at hcover
      omega
    · intro index hindex
      have hlt : index < pieceCount partSize data.length :=
        lt_of_lt_of_eq hindex (Nat.mod_eq_of_lt hcount)
      refine ⟨_, List.mem_map.mpr ⟨index, List.mem_range.mpr hlt, rfl⟩,
        Nat.mod_eq_of_lt (hlt.trans hcount), ?_⟩
      show (piece partSize data index).length ≤ partSize % 2 ^ 32
      rw [Nat.mod_eq_of_lt hsize]
      exact List.length_take_le _ _

section Instance

open Reference Sending Transfer

/-- The advertisement twice, and the parts of the five bytes, the last one
first. -/
noncomputable def docArrivals : List TransferFrame :=
  [.advertisement (List.Vector.replicate 16 0) 0,
   .advertisement (List.Vector.replicate 16 0) 1, .part (docPart 2) 2,
   .part (docPart 0) 3, .part (docPart 1) 4]

theorem docArrivals_own :
    Own [docPart 0, docPart 1, docPart 2] docArrivals := by
  intro part now hmem
  simp only [docArrivals, List.mem_cons, List.not_mem_nil, or_false,
    reduceCtorEq, false_or, TransferFrame.part.injEq] at hmem
  rcases hmem with ⟨rfl, -⟩ | ⟨rfl, -⟩ | ⟨rfl, -⟩ <;> simp

/-- The first advertisement finds no assembly, the second a blank one. -/
theorem docArrivals_harmless :
    Harmless platform docAdvert [docPart 0, docPart 1, docPart 2] (.new 10)
      docArrivals := by
  have hblank : ((after platform docAdvert (.new 10)
      [.advertisement (List.Vector.replicate 16 0)
        0]).tracker.incoming.lookup docAdvert.resourceId).all (fun a =>
        a.received.all (·.isNone) && a.hashmap.all (·.isNone)) = true := by
    decide +kernel
  refine ⟨?_, fun _ => fits_of_split docSending_split (by decide)
    (by decide) (by decide)⟩
  rintro done linkId now ⟨rest, hrest⟩ a ha
  rcases done with _ | ⟨first, _ | ⟨second, done⟩⟩
  · cases ha
  · obtain ⟨rfl, -⟩ : first = .advertisement (List.Vector.replicate 16 0) 0
        ∧ _ := List.cons.inj hrest
    rw [ha, Option.all_some, Bool.and_eq_true] at hblank
    exact ⟨fun slot hslot => Option.isNone_iff_eq_none.mp
        (List.all_eq_true.mp hblank.1 slot hslot),
      fun slot hslot => Option.isNone_iff_eq_none.mp
        (List.all_eq_true.mp hblank.2 slot hslot)⟩
  · -- what follows the two is no advertisement
    rcases done with _ | ⟨_, _ | ⟨_, _ | ⟨_, done⟩⟩⟩ <;>
      simp [docArrivals] at hrest

/-- The repeated advertisement loses nothing, and the bytes come out. -/
theorem readvertising_keeps_progress_doc :
    (after platform docAdvert (.new 10) docArrivals).Completed
      docAdvert.resourceId := by
  have hkeeps := (readvertising_keeps_progress_iff docSending_split
    ⟨rfl, Finset.notMem_empty _⟩ docArrivals_own).mpr docArrivals_harmless
  refine hkeeps.completes docArrivals (List.prefix_refl _)
    ⟨[docPart 1, docPart 0, docPart 2], rfl, ?_⟩
  intro part hpart
  simp only [List.mem_cons, List.not_mem_nil, or_false] at hpart ⊢
  rcases hpart with rfl | rfl | rfl <;> simp

/-- The first part, the advertisement again, the other parts. -/
noncomputable def docRepeat : List TransferFrame :=
  [.advertisement (List.Vector.replicate 16 0) 0, .part (docPart 0) 1,
   .advertisement (List.Vector.replicate 16 0) 2, .part (docPart 1) 3,
   .part (docPart 2) 4]

theorem docRepeat_incomplete :
    ((after platform docAdvert (.new 10) docRepeat).events.all fun
      | .progress _ => true
      | .complete _ => false) = true := by
  decide +kernel

/-- Every part came since the first advertisement, and the resource is
not complete. -/
theorem docRepeat_loses_progress :
    docSending.split platform
        = .ok (docAdvert, [docPart 0, docPart 1, docPart 2])
      ∧ (after platform docAdvert (.new 10) docRepeat).AllArrived
        [docPart 0, docPart 1, docPart 2]
      ∧ ¬ (after platform docAdvert (.new 10) docRepeat).Completed
        docAdvert.resourceId
      ∧ ¬ KeepsProgress platform docAdvert [docPart 0, docPart 1, docPart 2]
        (.new 10) docRepeat := by
  have harrived : (after platform docAdvert (.new 10) docRepeat).AllArrived
      [docPart 0, docPart 1, docPart 2] := by
    refine ⟨[docPart 2, docPart 1, docPart 0], rfl, ?_⟩
    intro part hpart
    simp only [List.mem_cons, List.not_mem_nil, or_false] at hpart ⊢
    rcases hpart with rfl | rfl | rfl <;> simp
  have hopen : ¬ (after platform docAdvert (.new 10) docRepeat).Completed
      docAdvert.resourceId := by
    rintro ⟨c, hc, -⟩
    have hall := List.all_eq_true.mp docRepeat_incomplete _ hc
    cases hall
  refine ⟨docSending_split, harrived, hopen, ?_⟩
  exact fun h => hopen (h.completes docRepeat List.prefix_rfl harrived)

end Instance

end Lxmf
