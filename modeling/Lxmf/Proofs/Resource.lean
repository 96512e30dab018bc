/-
What comes out of a resource tracker is what was split, and when it is
not.

# Two results, one invariant

Fix a content for every resource id. As long as every advertisement and
every part agrees with the content of its id, an assembly holds pieces
of that content only, its counter follows its filled slots, and what
completes is the content. Payloads split by their senders are of this
kind, whatever the order, loss and repetition of their frames. Nothing
in the tracker itself compares a completed resource with its id: a part
that is short, or belongs to other content, completes it all the same.

# At most once

A resource leaves the assemblies for the cache of completed ones, and an
advertisement of a cached id is not accepted. An id is never in both.
-/
import Lxmf.Library.Run
import Lxmf.Resource
import Lxmf.Reference

namespace Lxmf

open Assembly (piece pieceCount filled Holds)

-- ============================================================== the runs

inductive TrackerAction where
  | advertisement (advert : ResourceAdvertisement) (linkId : Hash16)
      (now : Nat)
  | part (part : ResourcePart) (now : Nat)
  | hashUpdate (update : ResourceHashUpdate) (now : Nat)
  | cancel (resourceId : Hash16)
  | pollTimeouts (now : Nat)

/-- A tracker and what it has done so far. -/
structure TrackerRun where
  tracker : ResourceTracker
  /-- The advertisement last accepted for an id. -/
  adverts : HashMap Hash16 ResourceAdvertisement
  /-- The `Complete` events, with the advertisement each one answers. -/
  completions : List (Option ResourceAdvertisement × ResourceCompletion)
  /-- The ids of those events whose id has been in the cache of
  completed resources ever since. -/
  recent : List Hash16

namespace TrackerRun

def start (timeout : Nat) : TrackerRun := ⟨.new timeout, ∅, [], []⟩

/-- The run with the tracker a call returned. -/
def proceed (s : TrackerRun) (tracker : ResourceTracker) : TrackerRun :=
  { s with
    tracker := tracker
    recent := s.recent.filter tracker.completed.contains }

def advertise (s : TrackerRun) (advert : ResourceAdvertisement)
    (result : Except ReticulumError ResourceAdvertisementResult) :
    TrackerRun :=
  match result with
  | .ok .accepted =>
      { s with adverts := s.adverts.insert advert.resourceId advert }
  | _ => s

def record (s : TrackerRun)
    (result : Except ReticulumError (Option ResourceEvent)) : TrackerRun :=
  match result with
  | .ok (some (.complete c)) =>
      { s with
        completions :=
          s.completions ++ [(s.adverts.lookup c.resourceId, c)]
        recent := s.recent ++ [c.resourceId] }
  | _ => s

def apply (P : Platform) (a : TrackerAction) (s : TrackerRun) :
    Option TrackerRun :=
  match a with
  | .advertisement advert linkId now =>
      let (result, t) := s.tracker.handleAdvertisement advert linkId now
      some ((s.advertise advert result).proceed t)
  | .part part now =>
      let (result, t) := s.tracker.handlePart P part now
      some ((s.record result).proceed t)
  | .hashUpdate update now =>
      some (s.proceed (s.tracker.handleHashUpdate update now).2)
  | .cancel resourceId =>
      some (s.proceed (s.tracker.handleCancel resourceId).2)
  | .pollTimeouts now => some (s.proceed (s.tracker.pollTimeouts now).2)

end TrackerRun

-- ========================================================== one assembly

/-- The advertisement announces this content, cut as it says. -/
structure Announces (content : Bytes) (advert : ResourceAdvertisement) :
    Prop where
  totalLen : advert.totalLen = content.length
  partSize : 0 < advert.partSize
  totalParts : advert.totalParts
    = pieceCount advert.partSize content.length

/-- The assembly is of this advertisement and holds pieces of this
content. -/
structure Assembles (content : Bytes) (advert : ResourceAdvertisement)
    (a : ResourceAssembly) : Prop where
  resourceId : a.resourceId = advert.resourceId
  requestId : a.requestId = advert.requestId
  isResponse : a.isResponse = advert.isResponse
  totalLen : a.totalLen = advert.totalLen
  totalParts : a.totalParts = advert.totalParts
  partSize : a.partSize = advert.partSize
  slots : a.received.length = advert.totalParts
  count : a.receivedCount = filled a.received
  holds : Holds (piece advert.partSize content) a.received

section Assembly

variable {content : Bytes} {advert : ResourceAdvertisement}
  {a : ResourceAssembly}

theorem assembles_ofAdvertisement (linkId : Hash16) (now : Nat) :
    Assembles content advert (.ofAdvertisement advert linkId now) where
  resourceId := rfl
  requestId := rfl
  isResponse := rfl
  totalLen := rfl
  totalParts := rfl
  partSize := rfl
  slots := List.length_replicate
  count := (Assembly.filled_replicate _).symm
  holds := Assembly.holds_replicate _ _

theorem Assembles.store (h : Assembles content advert a) {index : Nat}
    {data : Bytes} (hindex : index < a.received.length)
    (hdata : a.received[index]? = some none →
      data = piece advert.partSize content index) :
    Assembles content advert (a.store index data) := by
  unfold ResourceAssembly.store
  split
  case h_1 => exact h
  case h_2 hslot =>
    have hempty : a.received[index]? = some none := by
      rw [List.getD_eq_getElem?_getD, List.getElem?_eq_getElem hindex,
        Option.getD_some] at hslot
      rw [List.getElem?_eq_getElem hindex, hslot]
    refine ⟨h.resourceId, h.requestId, h.isResponse, h.totalLen,
      h.totalParts, h.partSize, ?_, ?_, h.holds.set index (hdata hempty)⟩
    · exact List.length_set.trans h.slots
    · show a.receivedCount + 1 = filled (a.received.set index (some data))
      rw [Assembly.filled_set hempty, h.count]

/-- Hashes, clock and retries are not part of what is assembled. -/
theorem Assembles.bookkeeping (h : Assembles content advert a)
    (hashmap : List (Option MapHash)) (lastActivity retries : Nat) :
    Assembles content advert { a with hashmap, lastActivity, retries } :=
  ⟨h.resourceId, h.requestId, h.isResponse, h.totalLen, h.totalParts,
    h.partSize, h.slots, h.count, h.holds⟩

theorem Assembles.hashSlot (h : Assembles content advert a) (P : Platform)
    (index : Nat) : Assembles content advert (a.hashSlot P index) := by
  unfold ResourceAssembly.hashSlot
  split
  case h_1 => exact h.bookkeeping _ a.lastActivity a.retries
  case h_2 => exact h

/-- A full assembly is the content. -/
theorem Assembles.data_eq (h : Assembles content advert a)
    (hannounces : Announces content advert)
    (hfull : a.receivedCount = a.totalParts) : a.data = content := by
  have hslots : a.received.length = pieceCount advert.partSize
      content.length := h.slots.trans hannounces.totalParts
  have hcount : filled a.received = a.received.length := by
    rw [← h.count, hfull, h.totalParts, h.slots]
  have hjoined := Assembly.joined_of_full h.holds hcount
  rw [hslots, Assembly.flatten_pieces hannounces.partSize] at hjoined
  show (Assembly.joined a.received).take a.totalLen = content
  rw [hjoined, h.totalLen, hannounces.totalLen, List.take_length]

end Assembly

-- ============================================================ the tracker

/-- Every assembly is good, and none is of a completed resource. -/
structure TrackerOk (good : Hash16 → ResourceAssembly → Prop)
    (t : ResourceTracker) : Prop where
  assemblies : ∀ id a, t.incoming.lookup id = some a → good id a
  disjoint : ∀ id ∈ t.incoming, id ∉ t.completed.set

/-- What makes an assembly good does not depend on its bookkeeping. -/
def BookkeepingBlind (good : Hash16 → ResourceAssembly → Prop) : Prop :=
  ∀ id a hashmap lastActivity retries, good id a →
    good id { a with hashmap, lastActivity, retries }

section Tracker

variable {good good' : Hash16 → ResourceAssembly → Prop}
  {t : ResourceTracker} {id : Hash16} {a : ResourceAssembly}

/-- What is good may change together with the assembly of `id`. -/
theorem TrackerOk.insert (h : TrackerOk good t) (hgood : good' id a)
    (hothers : ∀ id', id' ≠ id → ∀ a', good id' a' → good' id' a')
    (hnew : id ∉ t.completed.set) :
    TrackerOk good' { t with incoming := t.incoming.insert id a } where
  assemblies id' a' hlookup := by
    by_cases hid : id' = id
    · rw [hid, AList.lookup_insert] at hlookup
      injection hlookup with hlookup
      exact hid ▸ hlookup ▸ hgood
    · rw [AList.lookup_insert_ne hid] at hlookup
      exact hothers id' hid a' (h.assemblies id' a' hlookup)
  disjoint id' hid' := by
    rcases (AList.mem_insert t.incoming).mp hid' with rfl | hid'
    · exact hnew
    · exact h.disjoint id' hid'

theorem TrackerOk.not_completed (h : TrackerOk good t)
    (hlookup : t.incoming.lookup id = some a) : id ∉ t.completed.set :=
  h.disjoint id (HashMap.mem_iff_lookup.mpr ⟨a, hlookup⟩)

theorem TrackerOk.erase (h : TrackerOk good t) (id : Hash16) :
    TrackerOk good { t with incoming := t.incoming.erase id } where
  assemblies id' a hlookup :=
    h.assemblies id' a (HashMap.lookup_of_lookup_erase hlookup).2
  disjoint id' hid' := h.disjoint id' (AList.mem_erase.mp hid').2

/-- A cache that only gains `id` stays clear of the other assemblies. -/
theorem TrackerOk.conclude (h : TrackerOk good t) (id : Hash16) :
    TrackerOk good (t.conclude id) where
  assemblies id' a hlookup :=
    h.assemblies id' a (HashMap.lookup_of_lookup_erase hlookup).2
  disjoint id' hid' := by
    obtain ⟨hne, hmem⟩ := AList.mem_erase.mp hid'
    have hold := h.disjoint id' hmem
    show id' ∉ (t.completed.insert id).2.set
    unfold CacheSet.insert CacheSet.evict
    intro hin
    split at hin
    case isTrue => exact hold hin
    case isFalse =>
      rcases Finset.mem_insert.mp hin with heq | hin
      · exact hne heq
      · split at hin
        case isFalse => exact hold hin
        case isTrue =>
          split at hin
          case h_1 => exact hold (Finset.mem_erase.mp hin).2
          case h_2 => exact hold hin

theorem TrackerOk.handleHashUpdate (h : TrackerOk good t)
    (hblind : BookkeepingBlind good) (update : ResourceHashUpdate)
    (now : Nat) : TrackerOk good (t.handleHashUpdate update now).2 := by
  unfold ResourceTracker.handleHashUpdate
  split
  case h_1 => exact h
  case h_2 a hlookup =>
    split
    case isTrue => exact h
    case isFalse =>
      refine h.insert ?_ (fun _ _ _ hgood => hgood)
        (h.not_completed hlookup)
      exact hblind _ a _ now a.retries (h.assemblies _ a hlookup)

theorem TrackerOk.handleCancel (h : TrackerOk good t) (id : Hash16) :
    TrackerOk good (t.handleCancel id).2 := by
  unfold ResourceTracker.handleCancel
  split
  case h_1 => exact h
  case h_2 => exact h.conclude id

theorem TrackerOk.pollResource (h : TrackerOk good t)
    (hblind : BookkeepingBlind good) (now : Nat)
    (expired : List ResourceTimeout) (id : Hash16) :
    TrackerOk good
      (ResourceTracker.pollResource now (expired, t) id).2 := by
  unfold ResourceTracker.pollResource
  dsimp only
  split
  case h_1 => exact h
  case h_2 a hlookup =>
    split
    case isTrue => exact h
    case isFalse =>
      split
      case isTrue => exact h.erase id
      case isFalse =>
        refine h.insert ?_ (fun _ _ _ hgood => hgood)
          (h.not_completed hlookup)
        exact hblind id a a.hashmap now (a.retries + 1)
          (h.assemblies id a hlookup)

theorem TrackerOk.pollTimeouts (h : TrackerOk good t)
    (hblind : BookkeepingBlind good) (now : Nat) :
    TrackerOk good (t.pollTimeouts now).2 := by
  suffices ∀ (ids : List Hash16)
      (acc : List ResourceTimeout × ResourceTracker),
      TrackerOk good acc.2 →
      TrackerOk good
        (ids.foldl (ResourceTracker.pollResource now) acc).2 from
    this t.incoming.keys ([], t) h
  intro ids
  induction ids with
  | nil => exact fun _ hacc => hacc
  | cons id ids ih =>
      exact fun acc hacc => ih _ (hacc.pollResource hblind now acc.1 id)

/-- What `handle_part` can do: nothing, or fill the slot of the part,
with or without completing its resource. -/
theorem handlePart_cases {P : Platform} {t t' : ResourceTracker}
    {part : ResourcePart} {now : Nat}
    {result : Except ReticulumError (Option ResourceEvent)}
    (h : t.handlePart P part now = (result, t')) :
    (t' = t ∧ ∀ c, result ≠ .ok (some (.complete c)))
    ∨ ∃ a, t.incoming.lookup part.resourceId = some a
      ∧ part.data.length ≤ a.partSize
      ∧ part.partIndex < a.received.length
      ∧ (((a.accept P part now).receivedCount
              = (a.accept P part now).totalParts
            ∧ result
              = .ok (some (.complete (a.accept P part now).completion))
            ∧ t' = t.conclude (a.accept P part now).resourceId)
        ∨ ((∀ c, result ≠ .ok (some (.complete c)))
            ∧ t' = { t with
              incoming := t.incoming.insert part.resourceId
                (a.accept P part now) })) := by
  unfold ResourceTracker.handlePart at h
  split at h
  case h_1 =>
    injection h with hres ht
    exact .inl ⟨ht.symm, fun c hc => nomatch hres.trans hc⟩
  case h_2 a hlookup =>
    split at h
    case isTrue =>
      injection h with hres ht
      exact .inl ⟨ht.symm, fun c hc => nomatch hres.trans hc⟩
    case isFalse hsize =>
      split at h
      case isTrue =>
        injection h with hres ht
        exact .inl ⟨ht.symm, fun c hc => nomatch hres.trans hc⟩
      case isFalse hindex =>
        refine .inr ⟨a, hlookup, Nat.not_lt.mp hsize,
          Nat.lt_of_not_le hindex, ?_⟩
        dsimp only at h
        split at h
        case isTrue hfull =>
          injection h with hres ht
          exact .inl ⟨hfull, hres.symm, ht.symm⟩
        case isFalse =>
          injection h with hres ht
          exact .inr ⟨fun c hc => (nomatch hres.trans hc), ht.symm⟩

end Tracker

-- ======================================================== whole runs

section Runs

variable {P : Platform} {content : Hash16 → Bytes}
  {allowed : ResourceAdvertisement → Prop} {s s' : TrackerRun}

/-- The assembly filed under `id` is one of its content, for the
advertisement last accepted. -/
def OfContent (content : Hash16 → Bytes)
    (allowed : ResourceAdvertisement → Prop)
    (adverts : HashMap Hash16 ResourceAdvertisement) (id : Hash16)
    (a : ResourceAssembly) : Prop :=
  ∃ advert, adverts.lookup id = some advert ∧ advert.resourceId = id
    ∧ allowed advert ∧ Announces (content id) advert
    ∧ Assembles (content id) advert a

/-- A completion carries the content, and the marks of the advertisement
it answers. -/
def Faithful (content : Hash16 → Bytes)
    (allowed : ResourceAdvertisement → Prop)
    (e : Option ResourceAdvertisement × ResourceCompletion) : Prop :=
  ∃ advert, e.1 = some advert ∧ allowed advert
    ∧ Announces (content advert.resourceId) advert
    ∧ e.2 = ⟨advert.resourceId, content advert.resourceId,
        advert.requestId, advert.isResponse⟩

structure TrackerInv (content : Hash16 → Bytes)
    (allowed : ResourceAdvertisement → Prop) (s : TrackerRun) : Prop where
  tracker : TrackerOk (OfContent content allowed s.adverts) s.tracker
  completions : ∀ e ∈ s.completions, Faithful content allowed e
  cached : ∀ id ∈ s.recent, id ∈ s.tracker.completed.set
  once : s.recent.Nodup

/-- The part goes into a slot that is empty. -/
def Fills (part : ResourcePart) (a : ResourceAssembly) : Prop :=
  part.data.length ≤ a.partSize
    ∧ a.received[part.partIndex]? = some none

/-- The step agrees with the content fixed for its resource, if the
tracker takes what it brings. -/
def Agrees (content : Hash16 → Bytes)
    (allowed : ResourceAdvertisement → Prop) (s : TrackerRun) :
    TrackerAction → Prop
  | .advertisement advert linkId now =>
      (s.tracker.handleAdvertisement advert linkId now).1 = .ok .accepted →
        allowed advert ∧ Announces (content advert.resourceId) advert
  | .part part _ =>
      ∀ a, s.tracker.incoming.lookup part.resourceId = some a →
        Fills part a → part.data
          = piece a.partSize (content part.resourceId) part.partIndex
  | _ => True

theorem ofContent_bookkeeping
    (adverts : HashMap Hash16 ResourceAdvertisement) :
    BookkeepingBlind (OfContent content allowed adverts) := by
  rintro id a hashmap lastActivity retries ⟨advert, h₁, h₂, h₃, h₄, h₅⟩
  exact ⟨advert, h₁, h₂, h₃, h₄,
    h₅.bookkeeping hashmap lastActivity retries⟩

theorem trackerInv_start (timeout : Nat) :
    TrackerInv content allowed (.start timeout) where
  tracker := ⟨fun _ _ h => (nomatch h), fun _ h => (nomatch h)⟩
  completions _ h := nomatch h
  cached _ h := nomatch h
  once := List.nodup_nil

/-- Only what is still cached counts on. -/
theorem TrackerInv.proceed {t : ResourceTracker}
    (h : TrackerOk (OfContent content allowed s.adverts) t)
    (hcompletions : ∀ e ∈ s.completions, Faithful content allowed e)
    (honce : s.recent.Nodup) :
    TrackerInv content allowed (s.proceed t) where
  tracker := h
  completions := hcompletions
  cached _ hid := of_decide_eq_true (List.mem_filter.mp hid).2
  once := honce.filter _

/-- An advertisement is refused, or starts an assembly. -/
theorem handleAdvertisement_cases (t : ResourceTracker)
    (advert : ResourceAdvertisement) (linkId : Hash16) (now : Nat) :
    ((t.handleAdvertisement advert linkId now).1 ≠ .ok .accepted
        ∧ (t.handleAdvertisement advert linkId now).2 = t
        ∧ (advert.resourceId ∈ t.completed.set ∨ advert.totalParts = 0))
      ∨ (t.handleAdvertisement advert linkId now
          = (.ok .accepted, { t with
            incoming := t.incoming.insert advert.resourceId
              (.ofAdvertisement advert linkId now) })
        ∧ advert.resourceId ∉ t.completed.set
        ∧ advert.totalParts ≠ 0) := by
  unfold ResourceTracker.handleAdvertisement
  split
  case isTrue hcached =>
    exact .inl ⟨nofun, rfl, .inl (of_decide_eq_true hcached)⟩
  case isFalse hnew =>
    split
    case isTrue hzero => exact .inl ⟨nofun, rfl, .inr hzero⟩
    case isFalse hslots =>
      exact .inr ⟨rfl, fun hmem => hnew (decide_eq_true hmem), hslots⟩

theorem TrackerInv.advertisement (h : TrackerInv content allowed s)
    {advert : ResourceAdvertisement} {linkId : Hash16} {now : Nat}
    (hagrees : Agrees content allowed s
      (.advertisement advert linkId now)) :
    TrackerInv content allowed
      ((s.advertise advert
        (s.tracker.handleAdvertisement advert linkId now).1).proceed
          (s.tracker.handleAdvertisement advert linkId now).2) := by
  rcases handleAdvertisement_cases s.tracker advert linkId now with
    ⟨hrefused, hsame, -⟩ | ⟨haccepted, hnew, -⟩
  · have hquiet : s.advertise advert
        (s.tracker.handleAdvertisement advert linkId now).1 = s := by
      unfold TrackerRun.advertise
      split
      case h_1 heq => exact absurd heq hrefused
      case h_2 => rfl
    rw [hquiet, hsame]
    exact .proceed h.tracker h.completions h.once
  · obtain ⟨hallowed, hannounces⟩ := hagrees (congrArg Prod.fst haccepted)
    rw [haccepted]
    refine .proceed (h.tracker.insert ?_ ?_ hnew) h.completions h.once
    · exact ⟨advert, AList.lookup_insert _, rfl, hallowed, hannounces,
        assembles_ofAdvertisement linkId now⟩
    · rintro id hid a ⟨advert', hlookup, hrest⟩
      exact ⟨advert', (AList.lookup_insert_ne hid).trans hlookup, hrest⟩

/-- A part that agrees keeps the assembly one of the content. -/
theorem OfContent.accept {adverts : HashMap Hash16 ResourceAdvertisement}
    {part : ResourcePart} {a : ResourceAssembly} (now : Nat)
    (h : OfContent content allowed adverts part.resourceId a)
    (hsize : part.data.length ≤ a.partSize)
    (hindex : part.partIndex < a.received.length)
    (hdata : Fills part a → part.data
      = piece a.partSize (content part.resourceId) part.partIndex) :
    OfContent content allowed adverts part.resourceId
      (a.accept P part now) := by
  obtain ⟨advert, h₁, h₂, h₃, h₄, h₅⟩ := h
  rw [h₅.partSize] at hdata
  have hstored := (h₅.store hindex fun hempty =>
    hdata ⟨hsize, hempty⟩).hashSlot P part.partIndex
  exact ⟨advert, h₁, h₂, h₃, h₄, hstored.bookkeeping _ now _⟩

theorem TrackerInv.part (h : TrackerInv content allowed s)
    {part : ResourcePart} (now : Nat)
    (hagrees : Agrees content allowed s (.part part now)) :
    TrackerInv content allowed
      ((s.record (s.tracker.handlePart P part now).1).proceed
        (s.tracker.handlePart P part now).2) := by
  have hquiet : ∀ result : Except ReticulumError (Option ResourceEvent),
      (∀ c, result ≠ .ok (some (.complete c))) → s.record result = s := by
    intro result hresult
    unfold TrackerRun.record
    split
    case h_1 c => exact absurd rfl (hresult c)
    case h_2 => rfl
  obtain ⟨result, t', heq⟩ :
      ∃ result t', s.tracker.handlePart P part now = (result, t') :=
    ⟨_, _, rfl⟩
  rw [heq]
  obtain ⟨rfl, hresult⟩ | ⟨a, hlookup, hsize, hindex, hcases⟩ :=
    handlePart_cases heq
  · dsimp only
    rw [hquiet result hresult]
    exact .proceed h.tracker h.completions h.once
  · have hgood := h.tracker.assemblies _ a hlookup
    have hnew := h.tracker.not_completed hlookup
    have haccept := hgood.accept (P := P) now hsize hindex
      (hagrees a hlookup)
    obtain ⟨hfull, rfl, rfl⟩ | ⟨hresult, rfl⟩ := hcases
    · -- the completed id was in no cache, so it is the first of its kind
      obtain ⟨advert, h₁, h₂, h₃, h₄, h₅⟩ := haccept
      have hid : (a.accept P part now).resourceId = part.resourceId :=
        h₅.resourceId.trans h₂
      have hdata := h₅.data_eq h₄ hfull
      refine .proceed (h.tracker.conclude _) ?_ ?_
      · intro e he
        rcases List.mem_append.mp he with he | he
        · exact h.completions e he
        · rw [List.mem_singleton.mp he]
          refine ⟨advert, ?_, h₃, h₂ ▸ h₄, ?_⟩
          · exact (congrArg s.adverts.lookup hid).trans h₁
          · show (⟨_, _, _, _⟩ : ResourceCompletion) = _
            rw [h₅.resourceId, hdata, h₅.requestId, h₅.isResponse, h₂]
      · refine List.nodup_append.mpr
          ⟨h.once, List.nodup_singleton _, ?_⟩
        intro id hid' id' hid''
        rw [List.mem_singleton.mp hid'']
        show id ≠ (a.accept P part now).resourceId
        rw [hid]
        rintro rfl
        exact hnew (h.cached _ hid')
    · dsimp only
      rw [hquiet result hresult]
      refine .proceed (h.tracker.insert haccept ?_ hnew) h.completions
        h.once
      exact fun _ _ _ hgood => hgood

theorem TrackerInv.step (h : TrackerInv content allowed s)
    {action : TrackerAction} (hagrees : Agrees content allowed s action)
    (happly : s.apply P action = some s') :
    TrackerInv content allowed s' := by
  have hblind : BookkeepingBlind (OfContent content allowed s.adverts) :=
    ofContent_bookkeeping s.adverts
  cases action with
  | advertisement advert linkId now =>
      injection happly with happly
      rw [← happly]
      exact h.advertisement hagrees
  | part part now =>
      injection happly with happly
      rw [← happly]
      exact h.part now hagrees
  | hashUpdate update now =>
      injection happly with happly
      rw [← happly]
      exact .proceed (h.tracker.handleHashUpdate hblind update now)
        h.completions h.once
  | cancel resourceId =>
      injection happly with happly
      rw [← happly]
      exact .proceed (h.tracker.handleCancel resourceId) h.completions
        h.once
  | pollTimeouts now =>
      injection happly with happly
      rw [← happly]
      exact .proceed (h.tracker.pollTimeouts hblind now) h.completions
        h.once

theorem trackerInv_reaches {timeout : Nat}
    (h : Run.Reaches (TrackerRun.apply P) (Agrees content allowed)
      (.start timeout) s) : TrackerInv content allowed s :=
  h.invariant (trackerInv_start timeout)
    fun _ _ _ hinv hagrees happly => hinv.step hagrees happly

end Runs

-- ===================================================== split payloads

/-- A payload and how its sender splits it. -/
structure Sending where
  data : Bytes
  partSize : Nat
  requestId : Option Hash16
  isResponse : Bool
  isRequest : Bool
  nonempty : data ≠ []
  data_lt : data.length < 2 ^ 32
  partSize_pos : 0 < partSize
  partSize_lt : partSize < 2 ^ 32

namespace Sending

variable (P : Platform)

def resourceId (f : Sending) : Hash16 := truncateSha256Bytes P f.data

def split (f : Sending) :
    Except ReticulumError (ResourceAdvertisement × List ResourcePart) :=
  ResourceSender.split P f.data f.partSize f.requestId f.isResponse
    f.isRequest

/-- The steps a network can take with the frames of these payloads. -/
def Frames (family : List Sending) (_ : TrackerRun) :
    TrackerAction → Prop
  | .advertisement advert _ _ =>
      ∃ f ∈ family, ∃ parts, f.split P = .ok (advert, parts)
  | .part part _ =>
      ∃ f ∈ family, ∃ advert parts, f.split P = .ok (advert, parts)
        ∧ part ∈ parts
  | _ => True

/-- The payload behind an id. -/
def contentOf (family : List Sending) (id : Hash16) : Bytes :=
  ((family.find? fun f => f.resourceId P = id).map (·.data)).getD []

variable {P} {f g : Sending} {family : List Sending}
  {advert : ResourceAdvertisement} {parts : List ResourcePart}

/-- Within its bounds a split casts nothing away. -/
theorem split_eq_ok (h : f.split P = .ok (advert, parts)) :
    advert = ⟨f.resourceId P, f.requestId, f.data.length, f.partSize,
        pieceCount f.partSize f.data.length, f.isResponse, f.isRequest⟩
    ∧ ∀ part ∈ parts, ∃ index, part
      = ⟨f.resourceId P, index, piece f.partSize f.data index⟩ := by
  have hpos := f.partSize_pos
  have hlen := f.data_lt
  have hcount := Assembly.pieceCount_le hpos f.data.length
  unfold split ResourceSender.split at h
  rw [if_neg (by omega)] at h
  injection h with h
  injection h with hadvert hparts
  refine ⟨?_, ?_⟩
  · rw [← hadvert, Nat.mod_eq_of_lt hlen, Nat.mod_eq_of_lt f.partSize_lt,
      Nat.mod_eq_of_lt (by omega)]
    rfl
  · intro part hpart
    rw [← hparts, List.mem_map] at hpart
    obtain ⟨index, hindex, rfl⟩ := hpart
    rw [List.mem_range] at hindex
    refine ⟨index, ?_⟩
    rw [Nat.mod_eq_of_lt (by omega)]
    rfl

theorem announces_of_split (h : f.split P = .ok (advert, parts)) :
    Announces f.data advert := by
  obtain ⟨rfl, _⟩ := split_eq_ok h
  exact ⟨rfl, f.partSize_pos, rfl⟩

section Distinct

variable (hdistinct : (family.map (resourceId P)).Nodup)
include hdistinct

theorem eq_of_resourceId (hf : f ∈ family) (hg : g ∈ family)
    (h : f.resourceId P = g.resourceId P) : f = g :=
  List.inj_on_of_nodup_map hdistinct hf hg h

theorem contentOf_eq (hf : f ∈ family) :
    contentOf P family (f.resourceId P) = f.data := by
  unfold contentOf
  cases hfind : family.find?
      fun g => decide (g.resourceId P = f.resourceId P) with
  | none =>
      have hnone := List.find?_eq_none.mp hfind f hf
      exact absurd (decide_eq_true rfl) hnone
  | some g =>
      have hg : g.resourceId P = f.resourceId P := by
        simpa using List.find?_some hfind
      rw [eq_of_resourceId hdistinct (List.mem_of_find?_eq_some hfind) hf
        hg]
      rfl

/-- The frames of a family agree with its payloads. -/
theorem frames_agree {s : TrackerRun} {action : TrackerAction}
    (hinv : TrackerInv (contentOf P family)
      (fun advert => ∃ f ∈ family, ∃ parts, f.split P = .ok (advert, parts))
      s)
    (h : Frames P family s action) :
    Agrees (contentOf P family)
      (fun advert => ∃ f ∈ family, ∃ parts, f.split P = .ok (advert, parts))
      s action := by
  cases action with
  | advertisement advert linkId now =>
      obtain ⟨f, hf, parts, hsplit⟩ := h
      refine fun _ => ⟨⟨f, hf, parts, hsplit⟩, ?_⟩
      have hid : advert.resourceId = f.resourceId P := by
        rw [(split_eq_ok hsplit).1]
      rw [hid, contentOf_eq hdistinct hf]
      exact announces_of_split hsplit
  | part part now =>
      obtain ⟨f, hf, advert, parts, hsplit, hpart⟩ := h
      obtain ⟨index, rfl⟩ := (split_eq_ok hsplit).2 part hpart
      intro a hlookup _
      -- the assembly is of the same payload, so it is cut the same way
      obtain ⟨advert', _, hid, ⟨g, hg, _, hsplit'⟩, _, hassembles⟩ :=
        hinv.tracker.assemblies _ a hlookup
      obtain ⟨hadvert', _⟩ := split_eq_ok hsplit'
      have hfg : g = f := by
        refine eq_of_resourceId hdistinct hg hf ?_
        rw [hadvert'] at hid
        exact hid
      rw [contentOf_eq hdistinct hf, hassembles.partSize, hadvert', hfg]
  | hashUpdate update now => trivial
  | cancel resourceId => trivial
  | pollTimeouts now => trivial

end Distinct

/-- Whatever the network does with the frames of finitely many payloads,
a completed resource is the payload it was split from, with the marks it
was split with, and an id completes once while it stays in the cache. -/
theorem completions_exact (P : Platform) (family : List Sending)
    (hdistinct : (family.map (resourceId P)).Nodup) (timeout : Nat)
    (s : TrackerRun)
    (hreach : Run.Reaches (TrackerRun.apply P) (Frames P family)
      (.start timeout) s) :
    (∀ e ∈ s.completions, ∃ f ∈ family,
        f.resourceId P = e.2.resourceId)
    ∧ (∀ e ∈ s.completions, ∀ f ∈ family,
        f.resourceId P = e.2.resourceId →
        e.2.data = f.data ∧ e.2.requestId = f.requestId
          ∧ e.2.isResponse = f.isResponse)
    ∧ s.recent.Nodup := by
  have hinv := trackerInv_reaches (hreach.weaken
    (trackerInv_start timeout)
    (fun _ _ _ hinv hframes happly =>
      hinv.step (frames_agree hdistinct hinv hframes) happly)
    (fun _ _ hinv hframes => frames_agree hdistinct hinv hframes))
  have hfrom : ∀ e ∈ s.completions, ∃ g ∈ family,
      e.2 = ⟨g.resourceId P, g.data, g.requestId, g.isResponse⟩ := by
    intro e he
    obtain ⟨advert, _, ⟨g, hg, parts, hsplit⟩, _, hcompletion⟩ :=
      hinv.completions e he
    refine ⟨g, hg, ?_⟩
    rw [hcompletion, (split_eq_ok hsplit).1]
    simp only [contentOf_eq hdistinct hg]
  refine ⟨?_, ?_, hinv.once⟩
  · intro e he
    obtain ⟨g, hg, heq⟩ := hfrom e he
    exact ⟨g, hg, by rw [heq]⟩
  · intro e he f hf hid
    obtain ⟨g, hg, heq⟩ := hfrom e he
    have hfg : f = g := by
      refine eq_of_resourceId hdistinct hf hg ?_
      rw [hid, heq]
    rw [heq, hfg]
    exact ⟨rfl, rfl, rfl⟩

section Instance

open Reference

/-- Five bytes, two in a part. -/
def docSending : Sending where
  data := List.replicate 5 0x42
  partSize := 2
  requestId := none
  isResponse := false
  isRequest := false
  nonempty := by decide
  data_lt := by decide
  partSize_pos := by decide
  partSize_lt := by decide

noncomputable def docAdvert : ResourceAdvertisement where
  resourceId := docSending.resourceId platform
  requestId := none
  totalLen := 5
  partSize := 2
  totalParts := 3
  isResponse := false
  isRequest := false

noncomputable def docPart (index : Nat) : ResourcePart where
  resourceId := docSending.resourceId platform
  partIndex := index
  data := piece 2 docSending.data index

/-- The parts arrive out of order, one of them twice. -/
noncomputable def docFrames : List TrackerAction :=
  [.advertisement docAdvert (List.Vector.replicate 16 0) 0,
   .part (docPart 2) 1, .part (docPart 0) 2, .part (docPart 0) 3,
   .part (docPart 1) 4]

theorem docSending_split :
    docSending.split platform
      = .ok (docAdvert, [docPart 0, docPart 1, docPart 2]) := rfl

theorem docFrames_allowed :
    ∀ a ∈ docFrames, ∀ s, Frames platform [docSending] s a := by
  have hmem : docSending ∈ [docSending] := List.mem_singleton_self _
  have hpart : ∀ index < 3, ∀ s now,
      Frames platform [docSending] s (.part (docPart index) now) := by
    intro index hindex s now
    refine ⟨docSending, hmem, docAdvert, _, docSending_split, ?_⟩
    match index, hindex with
    | 0, _ | 1, _ | 2, _ => simp
  intro a ha s
  simp only [docFrames, List.mem_cons, List.not_mem_nil, or_false] at ha
  rcases ha with rfl | rfl | rfl | rfl | rfl
  · exact ⟨docSending, hmem, _, docSending_split⟩
  · exact hpart 2 (by decide) s 1
  · exact hpart 0 (by decide) s 2
  · exact hpart 0 (by decide) s 3
  · exact hpart 1 (by decide) s 4

theorem docFrames_run :
    (Run.run (TrackerRun.apply platform) docFrames (.start 10)).map
      (fun s => (s.completions.length, s.recent.length))
      = some (1, 1) := by
  decide +kernel

/-- The five bytes come out of their parts. -/
theorem completions_exact_doc :
    ∃ s : TrackerRun, s.completions.length = 1
      ∧ ∀ e ∈ s.completions,
        docSending.resourceId platform = e.2.resourceId →
        e.2.data = List.replicate 5 0x42 := by
  obtain ⟨s, hrun, hlength⟩ := Option.map_eq_some_iff.mp docFrames_run
  refine ⟨s, congrArg Prod.fst hlength, ?_⟩
  intro e he hid
  have hexact := completions_exact platform [docSending]
    (List.nodup_singleton _) 10 s
    (Run.reaches_of_run docFrames_allowed hrun)
  exact (hexact.2.1 e he docSending (List.mem_singleton_self _) hid).1

end Instance

end Sending

-- ================================================== arbitrary frames

/-- A completion has the advertised length and hashes to its id. -/
def IsAdvertised (P : Platform)
    (e : Option ResourceAdvertisement × ResourceCompletion) : Prop :=
  ∃ advert, e.1 = some advert
    ∧ advert.resourceId = e.2.resourceId
    ∧ e.2.data.length = advert.totalLen
    ∧ truncateSha256Bytes P e.2.data = e.2.resourceId

/-- The step is one a sender of this content could have caused, as far as
the tracker takes what it brings: what is advertised hashes to the id, and
a part that fills a slot is the piece of it that its index says. -/
def Genuine (P : Platform) (content : Hash16 → Bytes) :
    TrackerRun → TrackerAction → Prop :=
  Agrees content fun advert =>
    truncateSha256Bytes P (content advert.resourceId) = advert.resourceId

/-- The frames of split payloads are genuine. -/
theorem Sending.frames_genuine {P : Platform} {family : List Sending}
    {timeout : Nat} {s : TrackerRun}
    (hdistinct : (family.map (Sending.resourceId P)).Nodup)
    (hreach : Run.Reaches (TrackerRun.apply P) (Frames P family)
      (.start timeout) s) :
    Run.Reaches (TrackerRun.apply P) (Genuine P (contentOf P family))
      (.start timeout) s := by
  refine hreach.weaken (trackerInv_start timeout)
    (fun _ _ _ hinv hframes happly =>
      hinv.step (frames_agree hdistinct hinv hframes) happly) ?_
  intro s action hinv hframes
  have hagrees := frames_agree hdistinct hinv hframes
  cases action with
  | advertisement advert linkId now =>
      intro haccepted
      obtain ⟨⟨f, hf, parts, hsplit⟩, hannounces⟩ := hagrees haccepted
      refine ⟨?_, hannounces⟩
      rw [(split_eq_ok hsplit).1]
      show truncateSha256Bytes P (contentOf P family (f.resourceId P)) = _
      rw [contentOf_eq hdistinct hf]
      rfl
  | part part now => exact hagrees
  | hashUpdate update now => trivial
  | cancel resourceId => trivial
  | pollTimeouts now => trivial

/-- With genuine frames only, what completes is what was advertised. -/
theorem genuine_completions_advertised (P : Platform)
    (content : Hash16 → Bytes) (timeout : Nat) (s : TrackerRun)
    (hreach : Run.Reaches (TrackerRun.apply P) (Genuine P content)
      (.start timeout) s) :
    ∀ e ∈ s.completions, IsAdvertised P e := by
  intro e he
  obtain ⟨advert, hadvert, hhash, hannounces, hcompletion⟩ :=
    (trackerInv_reaches hreach).completions e he
  refine ⟨advert, hadvert, ?_, ?_, ?_⟩
  · rw [hcompletion]
  · rw [hcompletion, hannounces.totalLen]
  · rw [hcompletion]
    exact hhash

section Instance

open Reference

/-- The frames of the five bytes are genuine. -/
theorem genuine_completions_advertised_doc :
    ∃ s : TrackerRun, s.completions.length = 1
      ∧ ∀ e ∈ s.completions, IsAdvertised platform e := by
  obtain ⟨s, hrun, hlength⟩ :=
    Option.map_eq_some_iff.mp Sending.docFrames_run
  have hdistinct : ([Sending.docSending].map
      (Sending.resourceId platform)).Nodup := List.nodup_singleton _
  refine ⟨s, congrArg Prod.fst hlength, ?_⟩
  exact genuine_completions_advertised platform _ 10 s
    (Sending.frames_genuine hdistinct
      (Run.reaches_of_run Sending.docFrames_allowed hrun))

/-- An advertisement of four bytes, and a part without any. -/
def shortFrames : List TrackerAction :=
  [.advertisement
      ⟨List.Vector.replicate 16 0xaa, none, 4, 4, 1, false, false⟩
      (List.Vector.replicate 16 0) 0,
   .part ⟨List.Vector.replicate 16 0xaa, 0, []⟩ 1]

theorem shortFrames_run :
    (Run.run (TrackerRun.apply platform) shortFrames (.start 10)).map
      (fun s => s.completions.map fun e =>
        (e.1.map ResourceAdvertisement.totalLen, e.2.data.length))
      = some [(some 4, 0)] := by
  decide +kernel

/-- An empty part completes a resource of four bytes. -/
theorem shortFrames_complete :
    ¬ ∀ s, Run.Reaches (TrackerRun.apply platform) (fun _ _ => True)
        (.start 10) s → ∀ e ∈ s.completions, IsAdvertised platform e := by
  intro h
  obtain ⟨s, hrun, hcompletions⟩ := Option.map_eq_some_iff.mp shortFrames_run
  have hall := h s (Run.reaches_of_run (fun _ _ _ => trivial) hrun)
  cases hlist : s.completions with
  | nil =>
      rw [hlist] at hcompletions
      cases hcompletions
  | cons e rest =>
      rw [hlist] at hcompletions
      injection hcompletions with hhead _
      obtain ⟨advert, hadvert, _, hlen, _⟩ :=
        hall e (hlist ▸ List.mem_cons_self)
      simp only [hadvert, hlen, Option.map_some] at hhead
      injection hhead with htotal hzero
      injection htotal with htotal
      rw [htotal] at hzero
      cases hzero

end Instance

end Lxmf
