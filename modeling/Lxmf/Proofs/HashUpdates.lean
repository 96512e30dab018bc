/-
Hash updates and the parts they are about.

# One round

The receiver of a split payload knows the map hashes of the parts it
has, and no others (`Receiving`). Its request names the last of them,
and the sender answers with the hashes behind that one; but the update
always says segment 0, so the receiver writes them from its first slot
on. The hashes are where they belong exactly when the sender starts from
its first part as well: when nothing was received, and no part happens
to have the hash of zeros that then stands for no hash.

# Why there is no other case

A hash the sender finds moves its start behind a part. Then either the
first slot gets the hash of a later part, or nothing is left to send and
the missing hashes stay missing.
-/
import Mathlib.Data.Fintype.BigOperators
import Lxmf.Library.Except
import Lxmf.ResourceExchange
import Lxmf.Proofs.Resource

namespace Lxmf

variable {P : Platform}

-- =============================================================== frames

theorem splitFixed_append {n : Nat} (v : FixedBytes n) (rest : Bytes) :
    splitFixed n (v.toList ++ rest) = some (v, rest) := by
  have hlen : v.toList.length = n := v.toList_length
  unfold splitFixed
  rw [List.take_left' hlen, List.drop_left' hlen, toFixed_toList]
  rfl

theorem mapHashes_append (hash : MapHash) (rest : Bytes) :
    ResourceTracker.mapHashes (hash.toList ++ rest)
      = hash :: ResourceTracker.mapHashes rest := by
  obtain ⟨bytes, hlen⟩ := hash
  match bytes, hlen with
  | [_, _, _, _], _ => rfl

theorem mapHashes_flatMap (hashes : List MapHash) :
    ResourceTracker.mapHashes (hashes.flatMap (·.toList)) = hashes := by
  induction hashes with
  | nil => rfl
  | cons hash hashes ih => rw [List.flatMap_cons, mapHashes_append, ih]

theorem length_flatMap_hashes (hashes : List MapHash) :
    (hashes.flatMap (·.toList)).length
      = hashes.length * resourceMaphashLen := by
  rw [List.length_flatMap]
  simp

/-- A request as it arrives: the hash it names is the zero one if it
knows none. -/
def ResourceRequest.onWire (request : ResourceRequest) : ResourceRequest :=
  { request with
    lastMapHash :=
      if request.hashmapExhausted then
        some (request.lastMapHash.getD
          (List.Vector.replicate resourceMaphashLen 0))
      else none }

theorem ResourceRequest.decode_encode (request : ResourceRequest) :
    decode request.encode = .ok request.onWire := by
  obtain ⟨id, exhausted, last, hashes⟩ := request
  have hdecode (lastMapHash : Option MapHash) (flag : Bool) :
      decodeHashes flag lastMapHash
          (id.toList ++ hashes.flatMap (·.toList))
        = .ok ⟨id, flag, lastMapHash, hashes⟩ := by
    unfold decodeHashes
    rw [splitFixed_append]
    dsimp only
    rw [if_neg (by rw [length_flatMap_hashes]; simp), mapHashes_flatMap]
  unfold encode decode onWire
  cases exhausted with
  | true =>
      simp only [if_true, List.cons_append, List.append_assoc]
      rw [splitFixed_append]
      exact hdecode _ true
  | false =>
      simp only [Bool.false_eq_true, if_false, List.cons_append,
        List.nil_append]
      rw [if_neg (by decide)]
      exact hdecode none false

theorem ResourceHashUpdate.decode_encode (hP : RmpvCodec P)
    {update : ResourceHashUpdate} (h : update.segment ≤ u32Max) :
    decode P (encode P update) = .ok update := by
  obtain ⟨id, segment, hashmap⟩ := update
  obtain ⟨msgpack, hwrite⟩ := hP.write_ok (.array
    [.integer (Integer.ofU64 segment), .binary hashmap])
  have hsegment : (Integer.ofU64 segment).asU64 = some segment := by
    have hlt : segment < 2 ^ 64 := by
      have hmax : segment ≤ u32Max := h
      unfold u32Max at hmax
      omega
    refine (if_pos (Int.natCast_nonneg _)).trans (congrArg some ?_)
    exact Nat.mod_eq_of_lt hlt
  unfold encode decode
  dsimp only
  rw [hwrite, List.cons_append]
  dsimp only
  rw [splitFixed_append]
  dsimp only
  rw [if_neg (by simp), hP.read_write _ _ hwrite]
  dsimp only
  rw [hsegment]
  exact if_neg (Nat.not_lt.mpr h)

-- ======================================================== filling slots

/-- The loop writes the hashes one behind the other. -/
theorem fillHashes_getElem? {hashmap : List (Option MapHash)}
    {hashes : List MapHash} {index : Nat}
    (h : index + hashes.length ≤ hashmap.length) (i : Nat) :
    (ResourceAssembly.fillHashes hashmap index hashes)[i]?
      = if index ≤ i ∧ i < index + hashes.length then
          (hashes[i - index]?).map some
        else hashmap[i]? := by
  induction hashes generalizing hashmap index with
  | nil =>
      rw [if_neg (by rw [List.length_nil]; omega)]
      rfl
  | cons hash hashes ih =>
      rw [List.length_cons] at h ⊢
      unfold ResourceAssembly.fillHashes
      rw [if_neg (by omega), ih (by rw [List.length_set]; omega)]
      rcases Nat.lt_trichotomy i index with hlt | rfl | hgt
      · rw [if_neg (by omega), if_neg (by omega),
          List.getElem?_set_ne (by omega)]
      · rw [if_neg (by omega), if_pos (by omega),
          List.getElem?_set_self (by omega), Nat.sub_self]
        rfl
      · by_cases hin : i < index + 1 + hashes.length
        · rw [if_pos (by omega), if_pos (by omega),
            show i - index = i - (index + 1) + 1 by omega,
            List.getElem?_cons_succ]
        · rw [if_neg (by omega), if_neg (by omega),
            List.getElem?_set_ne (by omega)]

-- ============================================================ receiving

/-- The map hash of each part. -/
def partHashes (P : Platform) (parts : List ResourcePart) : List MapHash :=
  parts.map fun part => computeMapHash P part.data

/-- Some of these parts were received, not all, and their hashes are
the ones known. -/
structure Receiving (P : Platform) (parts : List ResourcePart)
    (a : ResourceAssembly) : Prop where
  length : a.received.length = parts.length
  totalParts : a.totalParts = parts.length
  received : ∀ (i : Nat) (data : Bytes),
    a.received[i]? = some (some data) →
    ∃ part : ResourcePart, parts[i]? = some part ∧ part.data = data
  hashmap : a.hashmap = a.received.map (Option.map (computeMapHash P))
  count : a.receivedCount = Assembly.filled a.received
  retries : a.retries = 0
  maxRetries : a.maxRetries = resourceDefaultMaxRetries

section Assembly

variable {parts : List ResourcePart} {a : ResourceAssembly}

theorem receiving_ofAdvertisement {advert : ResourceAdvertisement}
    (h : advert.totalParts = parts.length) (linkId : Hash16) (now : Nat) :
    Receiving P parts (.ofAdvertisement advert linkId now) where
  length := by
    rw [← h]
    exact List.length_replicate
  totalParts := h
  received i data hdata := by
    have hnone : (List.replicate advert.totalParts
        (none : Option Bytes))[i]? = some (some data) := hdata
    rw [List.getElem?_replicate] at hnone
    split at hnone
    case isTrue => cases hnone
    case isFalse => cases hnone
  hashmap := by
    show List.replicate _ none = (List.replicate _ none).map _
    rw [List.map_replicate]
    rfl
  count := (Assembly.filled_replicate _).symm
  retries := rfl
  maxRetries := rfl

/-- A part of the resource goes to its slot, and its hash with it. -/
theorem Receiving.accept (h : Receiving P parts a) {part : ResourcePart}
    (hpart : parts[part.partIndex]? = some part) (now : Nat) :
    Receiving P parts (a.accept P part now) := by
  obtain ⟨hlt, _⟩ := List.getElem?_eq_some_iff.mp hpart
  have hslot : part.partIndex < a.received.length := h.length ▸ hlt
  have hget : a.hashmap.getD part.partIndex none
      = (a.received.getD part.partIndex none).map (computeMapHash P) := by
    rw [h.hashmap, List.getD_eq_getElem?_getD, List.getElem?_map,
      List.getD_eq_getElem?_getD, List.getElem?_eq_getElem hslot]
    rfl
  cases hold : a.received.getD part.partIndex none with
  | some data =>
      have hstore : a.store part.partIndex part.data = a := by
        unfold ResourceAssembly.store
        rw [hold]
      have hhash : a.hashSlot P part.partIndex = a := by
        unfold ResourceAssembly.hashSlot
        rw [hget, hold]
        rfl
      unfold ResourceAssembly.accept
      rw [hstore, hhash]
      exact ⟨h.length, h.totalParts, h.received, h.hashmap, h.count,
        h.retries, h.maxRetries⟩
  | none =>
      have hnone : a.received[part.partIndex]? = some none := by
        rw [List.getD_eq_getElem?_getD, List.getElem?_eq_getElem hslot]
          at hold
        rw [List.getElem?_eq_getElem hslot]
        exact congrArg some hold
      have haccept : a.accept P part now = { a with
          received := a.received.set part.partIndex (some part.data)
          receivedCount := a.receivedCount + 1
          hashmap := a.hashmap.set part.partIndex
            (some (computeMapHash P part.data))
          lastActivity := now } := by
        unfold ResourceAssembly.accept ResourceAssembly.store
        rw [hold]
        unfold ResourceAssembly.hashSlot
        dsimp only
        rw [hget, hold, List.getD_eq_getElem?_getD,
          List.getElem?_set_self hslot]
        rfl
      rw [haccept]
      refine ⟨(List.length_set).trans h.length, h.totalParts, ?_, ?_, ?_,
        h.retries, h.maxRetries⟩
      · intro i data hdata
        rw [List.getElem?_set] at hdata
        split at hdata
        case isTrue hi =>
          injection hdata with hdata
          injection hdata with hdata
          exact ⟨part, hi ▸ hpart, hdata⟩
        case isFalse => exact h.received i data hdata
      · dsimp only
        rw [List.map_set, h.hashmap]
        rfl
      · dsimp only
        rw [Assembly.filled_set hnone, h.count]

end Assembly

-- =============================================================== parts

/-- There are no more map hashes than `u32` numbers. -/
theorem length_le_of_nodup {hashes : List MapHash} (h : hashes.Nodup) :
    hashes.length ≤ 2 ^ 32 := by
  have hinj : Function.Injective
      fun v : MapHash => v.map UInt8.toFin := by
    intro v w hvw
    apply List.Vector.toList_injective
    have hlists := congrArg List.Vector.toList hvw
    simp only [List.Vector.toList_map] at hlists
    exact List.map_injective_iff.mpr (fun _ _ => UInt8.toFin_inj.mp) hlists
  have hcard := (h.map hinj).length_le_card
  rw [List.length_map, card_vector, Fintype.card_fin] at hcard
  exact hcard

/-- What the parts of a split payload have in common, if their hashes
differ and a receiver accepts their advertisement. -/
structure Parts (id : Hash16) (parts : List ResourcePart) : Prop where
  index : ∀ part ∈ parts, parts[part.partIndex]? = some part
  resourceId : ∀ part ∈ parts, part.resourceId = id

theorem resourceId_of_split {data : Bytes} {partSize : Nat}
    {requestId : Option Hash16} {isResponse isRequest : Bool}
    {advert : ResourceAdvertisement} {parts : List ResourcePart}
    (hsplit : ResourceSender.split P data partSize requestId isResponse
      isRequest = .ok (advert, parts)) :
    ∀ part ∈ parts, part.resourceId = advert.resourceId := by
  unfold ResourceSender.split at hsplit
  split at hsplit
  case isTrue => cases hsplit
  case isFalse =>
    cases hsplit
    intro part hpart
    obtain ⟨index, _, rfl⟩ := List.mem_map.mp hpart
    rfl

theorem parts_of_split {data : Bytes} {partSize : Nat}
    {requestId : Option Hash16} {isResponse isRequest : Bool}
    {advert : ResourceAdvertisement} {parts : List ResourcePart}
    (hsplit : ResourceSender.split P data partSize requestId isResponse
      isRequest = .ok (advert, parts))
    (hdistinct : (partHashes P parts).Nodup)
    (hsome : advert.totalParts ≠ 0) :
    advert.totalParts = parts.length ∧ Parts advert.resourceId parts := by
  have hid := resourceId_of_split hsplit
  have hle := length_le_of_nodup hdistinct
  unfold partHashes at hle
  rw [List.length_map] at hle
  unfold ResourceSender.split at hsplit
  split at hsplit
  case isTrue => cases hsplit
  case isFalse =>
    injection hsplit with hsplit
    injection hsplit with hadvert hparts
    subst hadvert hparts
    dsimp only at hsome hle hid ⊢
    rw [List.length_map, List.length_range] at hle ⊢
    generalize Assembly.pieceCount partSize data.length = chunks
      at hsome hle hid ⊢
    have hlt : chunks < 2 ^ 32 := by
      rcases Nat.lt_or_eq_of_le hle with hlt | heq
      · exact hlt
      · rw [heq] at hsome
        exact absurd (Nat.mod_self _) hsome
    refine ⟨Nat.mod_eq_of_lt hlt, ?_, hid⟩
    intro part hpart
    obtain ⟨index, hindex, rfl⟩ := List.mem_map.mp hpart
    have hindex := List.mem_range.mp hindex
    have hmod : index % 2 ^ 32 = index :=
      Nat.mod_eq_of_lt (Nat.lt_trans hindex hlt)
    dsimp only
    rw [hmod, List.getElem?_map, List.getElem?_range hindex]
    show some (ResourcePart.mk _ (index % 2 ^ 32) _) = _
    rw [hmod]

-- ========================================================== the tracker

section Tracker

/-- Every assembly is filed under its own id. -/
def ResourceTracker.Keyed (t : ResourceTracker) : Prop :=
  ∀ id a, t.incoming.lookup id = some a → a.resourceId = id

/-- As far as `id` is still being received, it is one of these parts. -/
def ResourceTracker.Receives (P : Platform) (parts : List ResourcePart)
    (id : Hash16) (t : ResourceTracker) : Prop :=
  ∀ a, t.incoming.lookup id = some a →
    Receiving P parts a ∧ a.receivedCount ≠ a.totalParts

/-- The parts that arrived, each at its time. -/
def ResourceTracker.handleParts (P : Platform) (t : ResourceTracker)
    (steps : List (ResourcePart × Nat)) : ResourceTracker :=
  steps.foldl (fun t step => (t.handlePart P step.1 step.2).2) t

variable {parts : List ResourcePart} {id : Hash16} {t : ResourceTracker}

theorem keyed_insert (h : t.Keyed) {a : ResourceAssembly}
    (ha : a.resourceId = id) :
    ResourceTracker.Keyed
      { t with incoming := t.incoming.insert id a } := by
  intro key b hb
  by_cases hkey : key = id
  · rw [hkey, AList.lookup_insert] at hb
    injection hb with hb
    rw [hkey, ← hb]
    exact ha
  · rw [AList.lookup_insert_ne hkey] at hb
    exact h key b hb

theorem keyed_erase (h : t.Keyed) (id : Hash16) :
    ResourceTracker.Keyed { t with incoming := t.incoming.erase id } :=
  fun key b hb => h key b (HashMap.lookup_of_lookup_erase hb).2

theorem accept_resourceId (a : ResourceAssembly) (part : ResourcePart)
    (now : Nat) : (a.accept P part now).resourceId = a.resourceId := by
  unfold ResourceAssembly.accept ResourceAssembly.hashSlot
    ResourceAssembly.store
  split
  case h_1 =>
    split
    case h_1 => rfl
    case h_2 => rfl
  case h_2 =>
    split
    case h_1 => rfl
    case h_2 => rfl

/-- The parts of one payload leave a tracker in order. -/
theorem handlePart_receives (hparts : Parts id parts) (hkeyed : t.Keyed)
    (h : t.Receives P parts id) {part : ResourcePart}
    (hpart : part ∈ parts) (now : Nat) :
    (t.handlePart P part now).2.Keyed
    ∧ (t.handlePart P part now).2.Receives P parts id
    ∧ (t.handlePart P part now).2.timeout = t.timeout := by
  have hid := hparts.resourceId part hpart
  have hindex := hparts.index part hpart
  unfold ResourceTracker.handlePart
  rw [hid]
  split
  case h_1 => exact ⟨hkeyed, h, rfl⟩
  case h_2 a hlookup =>
    obtain ⟨hreceiving, _⟩ := h a hlookup
    have haccepted := hreceiving.accept hindex now
    have hown : (a.accept P part now).resourceId = id :=
      (accept_resourceId a part now).trans (hkeyed id a hlookup)
    split
    case isTrue => exact ⟨hkeyed, h, rfl⟩
    case isFalse =>
      split
      case isTrue => exact ⟨hkeyed, h, rfl⟩
      case isFalse =>
        dsimp only
        split
        case isTrue =>
          refine ⟨keyed_erase hkeyed _, ?_, rfl⟩
          intro b hb
          have hgone : (t.incoming.erase
              (a.accept P part now).resourceId).lookup id = some b := hb
          rw [hown, AList.lookup_erase] at hgone
          cases hgone
        case isFalse hmore =>
          refine ⟨keyed_insert hkeyed hown, ?_, rfl⟩
          intro b hb
          have hnew : (t.incoming.insert id (a.accept P part now)).lookup id
              = some b := hb
          rw [AList.lookup_insert] at hnew
          injection hnew with hnew
          subst hnew
          exact ⟨haccepted, hmore⟩

theorem handleParts_receives (hparts : Parts id parts) (hkeyed : t.Keyed)
    (h : t.Receives P parts id) {steps : List (ResourcePart × Nat)}
    (hsteps : ∀ step ∈ steps, step.1 ∈ parts) :
    (t.handleParts P steps).Keyed
    ∧ (t.handleParts P steps).Receives P parts id
    ∧ (t.handleParts P steps).timeout = t.timeout := by
  induction steps generalizing t with
  | nil => exact ⟨hkeyed, h, rfl⟩
  | cons step steps ih =>
      obtain ⟨hkeyed', h', htimeout⟩ := handlePart_receives hparts hkeyed h
        (hsteps step List.mem_cons_self) step.2
      obtain ⟨hkeyed'', h'', htimeout'⟩ := ih hkeyed' h'
        fun other hother => hsteps other (List.mem_cons_of_mem _ hother)
      exact ⟨hkeyed'', h'', htimeout'.trans htimeout⟩

-- =========================================================== the polling

/-- An assembly that was asked about. -/
def ResourceAssembly.polled (a : ResourceAssembly) (now : Nat) :
    ResourceAssembly :=
  { a with retries := a.retries + 1, lastActivity := now }

theorem keyed_pollResource (hkeyed : t.Keyed) (now : Nat)
    (expired : List ResourceTimeout) (key : Hash16) :
    (ResourceTracker.pollResource now (expired, t) key).2.Keyed := by
  unfold ResourceTracker.pollResource
  dsimp only
  split
  case h_1 => exact hkeyed
  case h_2 a hlookup =>
    split
    case isTrue => exact hkeyed
    case isFalse =>
      split
      case isTrue => exact keyed_erase hkeyed key
      case isFalse => exact keyed_insert hkeyed (hkeyed key a hlookup)

theorem keyed_pollTimeouts (hkeyed : t.Keyed) (now : Nat) :
    (t.pollTimeouts now).2.Keyed := by
  unfold ResourceTracker.pollTimeouts
  generalize ([] : List ResourceTimeout) = expired
  generalize t.incoming.keys = keys
  induction keys generalizing t expired with
  | nil => exact hkeyed
  | cons key keys ih =>
      exact ih (keyed_pollResource hkeyed now expired key) _

theorem keyed_handlePart (hkeyed : t.Keyed) (part : ResourcePart)
    (now : Nat) : (t.handlePart P part now).2.Keyed := by
  unfold ResourceTracker.handlePart
  split
  case h_1 => exact hkeyed
  case h_2 a hlookup =>
    have hown := (accept_resourceId (P := P) a part now).trans
      (hkeyed _ a hlookup)
    split
    case isTrue => exact hkeyed
    case isFalse =>
      split
      case isTrue => exact hkeyed
      case isFalse =>
        dsimp only
        split
        case isTrue => exact keyed_erase hkeyed _
        case isFalse => exact keyed_insert hkeyed hown

theorem keyed_handleHashUpdate (hkeyed : t.Keyed)
    (update : ResourceHashUpdate) (now : Nat) :
    (t.handleHashUpdate update now).2.Keyed := by
  unfold ResourceTracker.handleHashUpdate
  split
  case h_1 => exact hkeyed
  case h_2 a hlookup =>
    split
    case isTrue => exact hkeyed
    case isFalse => exact keyed_insert hkeyed (hkeyed _ a hlookup)

/-- No run misfiles an assembly. -/
theorem keyed_of_reaches {timeout : Nat} {s : TrackerRun}
    (h : Run.Reaches (TrackerRun.apply P) (fun _ _ => True)
      (.start timeout) s) : s.tracker.Keyed := by
  have hstart : (TrackerRun.start timeout).tracker.Keyed := by
    intro id a ha
    cases ha
  refine @Run.Reaches.invariant _ _ _ _ (fun s => s.tracker.Keyed) _ _ h
    hstart ?_
  intro s action s' hkeyed _ happly
  cases action with
  | advertisement advert linkId now =>
      injection happly with happly
      rw [← happly]
      show (s.tracker.handleAdvertisement advert linkId now).2.Keyed
      unfold ResourceTracker.handleAdvertisement
      split
      case isTrue => exact hkeyed
      case isFalse =>
        split
        case isTrue => exact hkeyed
        case isFalse => exact keyed_insert hkeyed rfl
  | part part now =>
      injection happly with happly
      rw [← happly]
      exact keyed_handlePart hkeyed part now
  | hashUpdate update now =>
      injection happly with happly
      rw [← happly]
      exact keyed_handleHashUpdate hkeyed update now
  | cancel resourceId =>
      injection happly with happly
      rw [← happly]
      show (s.tracker.handleCancel resourceId).2.Keyed
      unfold ResourceTracker.handleCancel
      split
      case h_1 => exact hkeyed
      case h_2 => exact keyed_erase hkeyed resourceId
  | pollTimeouts now =>
      injection happly with happly
      rw [← happly]
      exact keyed_pollTimeouts hkeyed now

/-- One turn of the poll leaves the other assemblies alone, and reports
none of theirs. -/
theorem pollResource_other (hkeyed : t.Keyed) {other : Hash16}
    (hne : other ≠ id) (now : Nat) (expired : List ResourceTimeout) :
    ∃ more t', ResourceTracker.pollResource now (expired, t) other
        = (expired ++ more, t')
      ∧ (∀ x ∈ more, x.resourceId ≠ id)
      ∧ t'.incoming.lookup id = t.incoming.lookup id
      ∧ t'.timeout = t.timeout ∧ t'.Keyed := by
  unfold ResourceTracker.pollResource
  dsimp only
  split
  case h_1 =>
    exact ⟨[], t, by rw [List.append_nil], nofun, rfl, rfl, hkeyed⟩
  case h_2 a hlookup =>
    have hown := hkeyed other a hlookup
    have hreport (failed : Bool) (b : ResourceAssembly)
        (hb : b.resourceId = other) :
        ∀ x ∈ [b.timeout failed], x.resourceId ≠ id := by
      intro x hx
      rw [List.mem_singleton.mp hx]
      show b.resourceId ≠ id
      rw [hb]
      exact hne
    split
    case isTrue =>
      exact ⟨[], t, by rw [List.append_nil], nofun, rfl, rfl, hkeyed⟩
    case isFalse =>
      split
      case isTrue =>
        exact ⟨_, _, rfl, hreport true a hown,
          AList.lookup_erase_ne (Ne.symm hne), rfl,
          keyed_erase hkeyed other⟩
      case isFalse =>
        exact ⟨_, _, rfl, hreport false (a.polled now) hown,
          AList.lookup_insert_ne (Ne.symm hne), rfl,
          keyed_insert hkeyed hown⟩

/-- Keys that are not `id` do not touch it. -/
theorem foldl_pollResource_other (hkeyed : t.Keyed) (now : Nat)
    {keys : List Hash16} (hkeys : id ∉ keys)
    (expired : List ResourceTimeout) :
    ∃ more t', keys.foldl (ResourceTracker.pollResource now) (expired, t)
        = (expired ++ more, t')
      ∧ (∀ x ∈ more, x.resourceId ≠ id)
      ∧ t'.incoming.lookup id = t.incoming.lookup id
      ∧ t'.timeout = t.timeout ∧ t'.Keyed := by
  induction keys generalizing t expired with
  | nil =>
      exact ⟨[], t, by rw [List.append_nil]; rfl, nofun, rfl, rfl, hkeyed⟩
  | cons key keys ih =>
      have hne : key ≠ id := fun h => hkeys (h ▸ List.mem_cons_self)
      obtain ⟨more, t', hpoll, hmore, hlookup, htimeout, hkeyed'⟩ :=
        pollResource_other hkeyed hne now expired
      obtain ⟨more', t'', hfold, hmore', hlookup', htimeout', hkeyed''⟩ :=
        ih hkeyed' (fun h => hkeys (List.mem_cons_of_mem _ h))
          (expired ++ more)
      refine ⟨more ++ more', t'', ?_, ?_, hlookup'.trans hlookup,
        htimeout'.trans htimeout, hkeyed''⟩
      · rw [List.foldl_cons, hpoll, hfold, List.append_assoc]
      · intro x hx
        rcases List.mem_append.mp hx with hfirst | hrest
        · exact hmore x hfirst
        · exact hmore' x hrest

/-- A resource that is due is asked about once. -/
theorem pollTimeouts_due (hkeyed : t.Keyed) {a : ResourceAssembly}
    (ha : t.incoming.lookup id = some a) {now : Nat}
    (hdue : t.timeout ≤ now - a.lastActivity)
    (hretries : a.retries < a.maxRetries) :
    ((t.pollTimeouts now).1.find? fun x => x.resourceId = id)
        = some ((a.polled now).timeout false)
    ∧ (t.pollTimeouts now).2.incoming.lookup id = some (a.polled now)
    ∧ (t.pollTimeouts now).2.timeout = t.timeout
    ∧ (t.pollTimeouts now).2.Keyed := by
  have hmem : id ∈ t.incoming.keys :=
    AList.mem_keys.mp (HashMap.mem_iff_lookup.mpr ⟨a, ha⟩)
  obtain ⟨before, after, hkeys⟩ := List.append_of_mem hmem
  have hnodup : (before ++ id :: after).Nodup :=
    hkeys ▸ t.incoming.keys_nodup
  have hbefore : id ∉ before := by
    intro h
    exact (List.nodup_append'.mp hnodup).2.2 h List.mem_cons_self
  have hafter : id ∉ after :=
    (List.nodup_cons.mp (List.nodup_append'.mp hnodup).2.1).1
  obtain ⟨first, t₁, hfold₁, hfirst, hlookup₁, htimeout₁, hkeyed₁⟩ :=
    foldl_pollResource_other hkeyed now hbefore []
  have hturn : ResourceTracker.pollResource now (first, t₁) id
      = (first ++ [(a.polled now).timeout false],
        { t₁ with incoming := t₁.incoming.insert id (a.polled now) }) := by
    unfold ResourceTracker.pollResource
    dsimp only
    rw [hlookup₁, ha]
    dsimp only
    rw [if_neg (by rw [htimeout₁]; omega), if_neg (by omega)]
    rfl
  have hown : (a.polled now).resourceId = id := hkeyed id a ha
  obtain ⟨last, t₂, hfold₂, _, hlookup₂, htimeout₂, hkeyed₂⟩ :=
    foldl_pollResource_other (keyed_insert hkeyed₁ hown) now hafter
      (first ++ [(a.polled now).timeout false])
  have hpoll : t.pollTimeouts now
      = (first ++ [(a.polled now).timeout false] ++ last, t₂) := by
    unfold ResourceTracker.pollTimeouts
    rw [hkeys, List.foldl_append, hfold₁, List.foldl_cons, List.nil_append,
      hturn, hfold₂]
  rw [hpoll]
  refine ⟨?_, ?_, htimeout₂.trans htimeout₁, hkeyed₂⟩
  · rw [List.append_assoc, List.find?_append]
    have hnone : (first.find? fun x => decide (x.resourceId = id))
        = none := by
      refine List.find?_eq_none.mpr fun x hx => ?_
      rw [decide_eq_true_iff]
      exact hfirst x hx
    rw [hnone, Option.none_or]
    exact List.find?_cons_of_pos (decide_eq_true hown)
  · rw [hlookup₂]
    exact AList.lookup_insert _

end Tracker

-- ============================================================= the round

section Round

/-- What a receiver asks for when its resource `id` is polled. -/
def ResourceTracker.ask (t : ResourceTracker) (id : Hash16) (now : Nat) :
    Option ResourceRequest :=
  ((t.pollTimeouts now).1.find? fun x => x.resourceId = id).bind (·.request)

/-- The receiver polls, the sender answers, and the receiver takes the
hash updates of the answer. -/
def ResourceTracker.round (P : Platform) (t : ResourceTracker)
    (outgoing : HashMap Hash16 ResourceSendState) (id : Hash16)
    (now later : Nat) : ResourceTracker :=
  let polled := (t.pollTimeouts now).2
  match t.ask id now with
  | none => polled
  | some request =>
      (receivedResourceRequest P outgoing request.encode now).1.foldl
        (fun t action =>
          if action.context = .resourceHashUpdate then
            receivedHashUpdate P t action.payload later
          else t) polled

/-- The parts a sender sends when `id` is polled. -/
def ResourceTracker.askedParts (P : Platform) (t : ResourceTracker)
    (state : ResourceSendState) (id : Hash16) (now : Nat) :
    List ResourcePart :=
  match (t.ask id now).map fun request =>
      ResourceRequest.decode request.encode with
  | some (.ok request) => state.handleRequest P request
  | _ => []

variable {parts : List ResourcePart} {id : Hash16} {t : ResourceTracker}
  {a : ResourceAssembly}

/-- Whatever is missing has a slot. -/
theorem Receiving.exists_missing (h : Receiving P parts a)
    (hmore : a.receivedCount ≠ a.totalParts) :
    ∃ i, i < parts.length ∧ a.received[i]? = some none := by
  by_contra hnone
  apply hmore
  rw [h.count, h.totalParts, ← h.length]
  refine List.countP_eq_length.mpr fun slot hslot => ?_
  obtain ⟨i, hi⟩ := List.mem_iff_getElem?.mp hslot
  cases slot with
  | some data => rfl
  | none =>
      obtain ⟨hlt, _⟩ := List.getElem?_eq_some_iff.mp hi
      exact absurd ⟨i, h.length ▸ hlt, hi⟩ hnone

/-- The hashes asked for are the known ones of empty slots. -/
theorem mem_missing {hash : MapHash} :
    hash ∈ a.missing.1
      ↔ ∃ i, a.received[i]? = some none
        ∧ a.hashmap.getD i none = some hash := by
  unfold ResourceAssembly.missing
  dsimp only
  rw [List.mem_filterMap]
  constructor
  · intro h
    obtain ⟨slot, hslot, hid⟩ := h
    obtain ⟨i, hi, hmatch⟩ := List.mem_filterMap.mp hslot
    have hlt := List.mem_range.mp hi
    split at hmatch
    case h_1 => cases hmatch
    case h_2 hempty =>
      injection hmatch with hmatch
      refine ⟨i, ?_, hmatch.trans hid⟩
      rw [List.getElem?_eq_getElem hlt]
      rw [List.getD_eq_getElem?_getD, List.getElem?_eq_getElem hlt]
        at hempty
      exact congrArg some hempty
  · intro h
    obtain ⟨i, hempty, hknown⟩ := h
    obtain ⟨hlt, _⟩ := List.getElem?_eq_some_iff.mp hempty
    refine ⟨some hash, List.mem_filterMap.mpr
      ⟨i, List.mem_range.mpr hlt, ?_⟩, rfl⟩
    rw [List.getD_eq_getElem?_getD, hempty, hknown]
    rfl

/-- The hashes are exhausted when that of an empty slot is not known. -/
theorem missing_exhausted {i : Nat} (hempty : a.received[i]? = some none)
    (hunknown : a.hashmap.getD i none = none) : a.missing.2 = true := by
  obtain ⟨hlt, _⟩ := List.getElem?_eq_some_iff.mp hempty
  unfold ResourceAssembly.missing
  dsimp only
  refine List.any_eq_true.mpr ⟨none, List.mem_filterMap.mpr
    ⟨i, List.mem_range.mpr hlt, ?_⟩, rfl⟩
  rw [List.getD_eq_getElem?_getD, hempty, hunknown]
  rfl

theorem Receiving.hashmap_getD (h : Receiving P parts a) (i : Nat) :
    a.hashmap.getD i none
      = (a.received.getD i none).map (computeMapHash P) := by
  rw [h.hashmap, List.getD_eq_getElem?_getD, List.getElem?_map,
    List.getD_eq_getElem?_getD]
  cases a.received[i]? with
  | none => rfl
  | some slot => rfl

/-- The receiver can name no hash of what it lacks. -/
theorem Receiving.missing_eq (h : Receiving P parts a)
    (hmore : a.receivedCount ≠ a.totalParts) : a.missing = ([], true) := by
  have hunknown (i : Nat) (hempty : a.received[i]? = some none) :
      a.hashmap.getD i none = none := by
    rw [h.hashmap_getD, List.getD_eq_getElem?_getD, hempty]
    rfl
  refine Prod.ext ?_ ?_
  · refine List.eq_nil_iff_forall_not_mem.mpr fun hash hmem => ?_
    obtain ⟨i, hempty, hknown⟩ := mem_missing.mp hmem
    rw [hunknown i hempty] at hknown
    cases hknown
  · obtain ⟨i, _, hempty⟩ := h.exists_missing hmore
    exact missing_exhausted hempty (hunknown i hempty)

/-- The hash the request of a receiver names. -/
def ResourceAssembly.namedHash (a : ResourceAssembly) : MapHash :=
  a.lastMapHash.getD (List.Vector.replicate resourceMaphashLen 0)

theorem hashmapAfter_eq (P : Platform) (state : ResourceSendState)
    (lastHash : MapHash) :
    state.hashmapAfter P lastHash
      = ((partHashes P state.parts).drop
          (state.startIndex P lastHash)).flatMap (·.toList) := by
  unfold ResourceSendState.hashmapAfter partHashes
  rw [← List.map_drop, List.flatMap_map]

theorem handleHashUpdate_eq {update : ResourceHashUpdate}
    (ha : t.incoming.lookup update.resourceId = some a)
    {hashes : List MapHash}
    (hhashes : update.hashmap = hashes.flatMap (·.toList)) (now : Nat) :
    (t.handleHashUpdate update now).2
      = { t with
          incoming := t.incoming.insert update.resourceId
            { a with
              hashmap := ResourceAssembly.fillHashes a.hashmap
                (update.segment * hashes.length) hashes
              lastActivity := now } } := by
  unfold ResourceTracker.handleHashUpdate
  rw [ha, hhashes]
  dsimp only
  rw [length_flatMap_hashes, if_neg (by simp), mapHashes_flatMap]

/-- What the receiver asks for in the first round. -/
theorem ask_eq (hkeyed : t.Keyed) (ha : t.incoming.lookup id = some a)
    (h : Receiving P parts a) (hmore : a.receivedCount ≠ a.totalParts)
    {now : Nat} (hdue : t.timeout ≤ now - a.lastActivity) :
    t.ask id now = some ⟨id, true, a.lastMapHash, []⟩ := by
  have hretries : a.retries < a.maxRetries := by
    rw [h.retries, h.maxRetries]
    decide
  have hid : (a.polled now).resourceId = id := hkeyed id a ha
  have hmissing : (a.polled now).missing = ([], true) := h.missing_eq hmore
  unfold ResourceTracker.ask
  rw [(pollTimeouts_due hkeyed ha hdue hretries).1]
  show ((a.polled now).timeout false).request = _
  unfold ResourceAssembly.timeout ResourceTimeout.request
  rw [hmissing, hid]
  rfl

/-- After the round the hashes behind the one named stand at the front. -/
theorem round_eq (hP : RmpvCodec P) (hkeyed : t.Keyed)
    (ha : t.incoming.lookup id = some a) (h : Receiving P parts a)
    (hmore : a.receivedCount ≠ a.totalParts) {now : Nat}
    (hdue : t.timeout ≤ now - a.lastActivity)
    {outgoing : HashMap Hash16 ResourceSendState}
    {state : ResourceSendState} (hstate : outgoing.lookup id = some state)
    (later : Nat) :
    (t.round P outgoing id now later).incoming.lookup id
        = some { a.polled now with
            hashmap := ResourceAssembly.fillHashes a.hashmap 0
              ((partHashes P state.parts).drop
                (state.startIndex P a.namedHash))
            lastActivity := later }
    ∧ (t.round P outgoing id now later).timeout = t.timeout
    ∧ (t.round P outgoing id now later).Keyed := by
  have hretries : a.retries < a.maxRetries := by
    rw [h.retries, h.maxRetries]
    decide
  obtain ⟨_, hpolled, htimeout, hkeyed'⟩ :=
    pollTimeouts_due hkeyed ha hdue hretries
  let update : ResourceHashUpdate :=
    ⟨id, 0, state.hashmapAfter P a.namedHash⟩
  have hanswer : (receivedResourceRequest P outgoing
      (ResourceRequest.encode ⟨id, true, a.lastMapHash, []⟩) now).1
        = [⟨.resourceHashUpdate, update.encode P⟩] := by
    have hparts (request : ResourceRequest)
        (hnone : request.requestedHashes = []) :
        state.handleRequest P request = [] := by
      unfold ResourceSendState.handleRequest
      rw [hnone]
      split
      case isTrue => rfl
      case isFalse => rfl
    unfold receivedResourceRequest
    rw [ResourceRequest.decode_encode]
    dsimp only [ResourceRequest.onWire]
    rw [hstate]
    dsimp only
    rw [hparts _ rfl]
    rfl
  have hupdate : receivedHashUpdate P (t.pollTimeouts now).2
      (update.encode P) later
        = ((t.pollTimeouts now).2.handleHashUpdate update later).2 := by
    unfold receivedHashUpdate
    rw [ResourceHashUpdate.decode_encode hP (Nat.zero_le _)]
  have hround : t.round P outgoing id now later
      = { (t.pollTimeouts now).2 with
          incoming := (t.pollTimeouts now).2.incoming.insert id
            { a.polled now with
              hashmap := ResourceAssembly.fillHashes a.hashmap 0
                ((partHashes P state.parts).drop
                  (state.startIndex P a.namedHash))
              lastActivity := later } } := by
    unfold ResourceTracker.round
    rw [ask_eq hkeyed ha h hmore hdue]
    dsimp only
    rw [hanswer, List.foldl_cons, if_pos rfl, List.foldl_nil, hupdate,
      handleHashUpdate_eq hpolled (hashmapAfter_eq P state a.namedHash)
        later, Nat.zero_mul]
    rfl
  rw [hround]
  refine ⟨AList.lookup_insert _, htimeout, ?_⟩
  refine keyed_insert hkeyed' ?_
  exact hkeyed id a ha

-- ============================================================ alignment

/-- What is known of the hashes is right, and those of the missing parts
are known. -/
structure Aligned (P : Platform) (parts : List ResourcePart)
    (a : ResourceAssembly) : Prop where
  right : ∀ (i : Nat) (hash : MapHash),
    a.hashmap[i]? = some (some hash) →
    (partHashes P parts)[i]? = some hash
  known : ∀ i : Nat, a.received[i]? = some none →
    ∃ hash, a.hashmap[i]? = some (some hash)

/-- A sender that does not know the hash starts with its first part. -/
theorem startIndex_of_not_mem {state : ResourceSendState} {hash : MapHash}
    (h : hash ∉ partHashes P state.parts) :
    state.startIndex P hash = 0 := by
  have hnone : (state.parts.findIdx? fun part =>
      decide (computeMapHash P part.data = hash)) = none := by
    refine List.findIdx?_eq_none_iff.mpr fun part hpart => ?_
    refine decide_eq_false fun heq => h ?_
    exact List.mem_map.mpr ⟨part, hpart, heq⟩
  unfold ResourceSendState.startIndex
  rw [hnone]

/-- One that does starts behind a part. -/
theorem startIndex_of_mem {state : ResourceSendState} {hash : MapHash}
    (h : hash ∈ partHashes P state.parts) :
    0 < state.startIndex P hash
    ∧ state.startIndex P hash ≤ state.parts.length := by
  unfold ResourceSendState.startIndex
  cases hfind : state.parts.findIdx? fun part =>
      decide (computeMapHash P part.data = hash) with
  | none =>
      obtain ⟨part, hpart, heq⟩ := List.mem_map.mp h
      have hnone := List.findIdx?_eq_none_iff.mp hfind part hpart
      exact absurd heq (of_decide_eq_false hnone)
  | some index =>
      obtain ⟨hlt, _⟩ := List.findIdx?_eq_some_iff_getElem.mp hfind
      exact ⟨Nat.succ_pos index, hlt⟩

theorem Receiving.length_hashmap (h : Receiving P parts a) :
    a.hashmap.length = parts.length := by
  rw [h.hashmap, List.length_map, h.length]

/-- The hash named is that of a part, unless nothing was received. -/
theorem Receiving.namedHash_not_mem_iff (h : Receiving P parts a) :
    a.namedHash ∉ partHashes P parts
      ↔ (∀ slot ∈ a.received, slot = none)
        ∧ List.Vector.replicate resourceMaphashLen 0
          ∉ partHashes P parts := by
  unfold ResourceAssembly.namedHash ResourceAssembly.lastMapHash
  cases hlast : (a.hashmap.filterMap id).getLast? with
  | none =>
      have hempty : ∀ slot ∈ a.received, slot = none := by
        intro slot hslot
        cases slot with
        | none => rfl
        | some data =>
            have hmem : computeMapHash P data ∈ a.hashmap.filterMap id := by
              refine List.mem_filterMap.mpr ⟨some (computeMapHash P data),
                ?_, rfl⟩
              rw [h.hashmap]
              exact List.mem_map.mpr ⟨some data, hslot, rfl⟩
            rw [List.getLast?_eq_none_iff.mp hlast] at hmem
            cases hmem
      exact ⟨fun hnot => ⟨hempty, hnot⟩, fun hboth => hboth.2⟩
  | some hash =>
      have hmem := List.mem_of_getLast? hlast
      obtain ⟨slot, hslot, hid⟩ := List.mem_filterMap.mp hmem
      rw [h.hashmap] at hslot
      obtain ⟨got, hgot, rfl⟩ := List.mem_map.mp hslot
      cases got with
      | none => cases hid
      | some data =>
          injection hid with hid
          obtain ⟨i, hi⟩ := List.mem_iff_getElem?.mp hgot
          obtain ⟨part, hpart, hdata⟩ := h.received i data hi
          refine ⟨fun hnot => absurd ?_ hnot, fun hboth => ?_⟩
          · refine List.mem_map.mpr ⟨part, List.mem_of_getElem? hpart, ?_⟩
            rw [hdata]
            exact hid
          · cases hboth.1 (some data) hgot

/-- The round aligns the hashes exactly when the sender does not know
the hash it is named. -/
theorem aligned_round_iff (h : Receiving P parts a)
    (hmore : a.receivedCount ≠ a.totalParts)
    (hdistinct : (partHashes P parts).Nodup) (state : ResourceSendState)
    (hstate : state.parts = parts) (now later : Nat) :
    Aligned P parts { a.polled now with
        hashmap := ResourceAssembly.fillHashes a.hashmap 0
          ((partHashes P state.parts).drop (state.startIndex P a.namedHash))
        lastActivity := later }
      ↔ a.namedHash ∉ partHashes P parts := by
  have hlen : (partHashes P parts).length = parts.length :=
    List.length_map _
  have hfits : 0 + ((partHashes P parts).drop
      (state.startIndex P a.namedHash)).length ≤ a.hashmap.length := by
    rw [List.length_drop, hlen, h.length_hashmap]
    omega
  have hget := fillHashes_getElem? hfits
  have hhash (i : Nat) (hi : i < parts.length) :
      ∃ hash, (partHashes P parts)[i]? = some hash :=
    ⟨_, List.getElem?_eq_getElem (hlen ▸ hi)⟩
  obtain ⟨missing, hmissing, hempty⟩ := h.exists_missing hmore
  rw [hstate]
  constructor
  · intro haligned hmem
    obtain ⟨hpos, hle⟩ := startIndex_of_mem (hstate.symm ▸ hmem)
    rw [hstate] at hle
    rcases Nat.lt_or_eq_of_le hle with hlt | heq
    · -- the first slot gets the hash of a later part
      obtain ⟨hash, hbehind⟩ := hhash _ hlt
      have hfirst := hget 0
      rw [if_pos (by rw [List.length_drop, hlen]; omega), Nat.sub_self,
        List.getElem?_drop, Nat.add_zero, hbehind] at hfirst
      have hright := haligned.right 0 hash hfirst
      have hsame := (List.getElem?_inj (hlen ▸ hlt) hdistinct).mp
        (hbehind.trans hright.symm)
      omega
    · -- nothing is sent, and what was missing stays unknown
      obtain ⟨hash, hknown⟩ := haligned.known missing hempty
      have hslot := hget missing
      rw [if_neg (by rw [List.length_drop, hlen]; omega)] at hslot
      have hnone : a.hashmap[missing]? = some none := by
        rw [h.hashmap, List.getElem?_map, hempty]
        rfl
      cases hknown.symm.trans (hslot.trans hnone)
  · intro hnot
    rw [← hstate] at hnot
    have hstart := startIndex_of_not_mem hnot
    have hall (i : Nat) (hi : i < parts.length) :
        (ResourceAssembly.fillHashes a.hashmap 0 ((partHashes P parts).drop
          (state.startIndex P a.namedHash)))[i]?
          = ((partHashes P parts)[i]?).map some := by
      rw [hget i, if_pos (by rw [List.length_drop, hlen]; omega), hstart,
        List.drop_zero, Nat.sub_zero]
    refine ⟨?_, ?_⟩
    · intro i hash hi
      have hslot := hi
      by_cases hlt : i < parts.length
      · rw [hall i hlt] at hslot
        obtain ⟨_, hsome, heq⟩ := Option.map_eq_some_iff.mp hslot
        injection heq with heq
        exact heq ▸ hsome
      · have hend : a.hashmap[i]? = none :=
          List.getElem?_eq_none (by rw [h.length_hashmap]; omega)
        have hnone := hget i
        rw [if_neg (by rw [List.length_drop, hlen]; omega), hend] at hnone
        have hnothing := hslot.symm.trans hnone
        cases hnothing
    · intro i hi
      obtain ⟨hlt, _⟩ := List.getElem?_eq_some_iff.mp hi
      have hlt : i < parts.length := by
        rw [← h.length]
        exact hlt
      obtain ⟨hash, hknown⟩ := hhash i hlt
      refine ⟨hash, ?_⟩
      show (ResourceAssembly.fillHashes _ _ _)[i]? = _
      rw [hall i hlt, hknown]
      rfl

/-- The parts whose slot is empty. -/
def missingParts (parts : List ResourcePart) (a : ResourceAssembly) :
    List ResourcePart :=
  parts.filter fun part => decide (a.received[part.partIndex]? = some none)

/-- The hash of a part is asked for when its slot is empty. -/
theorem mem_missing_iff (hparts : Parts id parts)
    (hdistinct : (partHashes P parts).Nodup) (haligned : Aligned P parts a)
    {part : ResourcePart} (hpart : part ∈ parts) :
    computeMapHash P part.data ∈ a.missing.1
      ↔ a.received[part.partIndex]? = some none := by
  have hindex := hparts.index part hpart
  have hlt : part.partIndex < (partHashes P parts).length := by
    obtain ⟨hlt, _⟩ := List.getElem?_eq_some_iff.mp hindex
    unfold partHashes
    rw [List.length_map]
    exact hlt
  have hown : (partHashes P parts)[part.partIndex]?
      = some (computeMapHash P part.data) := by
    unfold partHashes
    rw [List.getElem?_map, hindex]
    rfl
  have hslot {i : Nat} {hash : MapHash}
      (h : a.hashmap.getD i none = some hash) :
      a.hashmap[i]? = some (some hash) := by
    rw [List.getD_eq_getElem?_getD] at h
    cases hi : a.hashmap[i]? with
    | none =>
        rw [hi] at h
        cases h
    | some slot =>
        rw [hi] at h
        exact congrArg some h
  rw [mem_missing]
  constructor
  · intro h
    obtain ⟨i, hempty, hknown⟩ := h
    have hright := haligned.right i _ (hslot hknown)
    have hsame := (List.getElem?_inj hlt hdistinct).mp
      (hown.trans hright.symm)
    rw [hsame]
    exact hempty
  · intro hempty
    obtain ⟨hash, hknown⟩ := haligned.known part.partIndex hempty
    have hright := haligned.right part.partIndex hash hknown
    rw [hown] at hright
    injection hright with hright
    refine ⟨part.partIndex, hempty, ?_⟩
    rw [List.getD_eq_getElem?_getD, hknown, hright]
    rfl

/-- An aligned receiver gets the parts it lacks, and no others. -/
theorem askedParts_eq (hkeyed : t.Keyed)
    (ha : t.incoming.lookup id = some a) (hparts : Parts id parts)
    (hdistinct : (partHashes P parts).Nodup) (haligned : Aligned P parts a)
    (hretries : a.retries < a.maxRetries)
    (hsome : ∃ part ∈ parts, a.received[part.partIndex]? = some none)
    {state : ResourceSendState} (hid : state.resourceId = id)
    (hstate : state.parts = parts) {now : Nat}
    (hdue : t.timeout ≤ now - a.lastActivity) :
    t.askedParts P state id now = missingParts parts a := by
  have hown : (a.polled now).resourceId = id := hkeyed id a ha
  have hmissing : (a.polled now).missing = a.missing := rfl
  have hnonempty : a.missing.1 ≠ [] := by
    obtain ⟨part, hpart, hempty⟩ := hsome
    have hmem :=
      (mem_missing_iff hparts hdistinct haligned hpart).mpr hempty
    exact List.ne_nil_of_mem hmem
  have hask : t.ask id now = some ⟨id, a.missing.2,
      (a.polled now).lastMapHash, a.missing.1⟩ := by
    unfold ResourceTracker.ask
    rw [(pollTimeouts_due hkeyed ha hdue hretries).1]
    show ((a.polled now).timeout false).request = _
    unfold ResourceAssembly.timeout ResourceTimeout.request
    rw [hmissing, hown]
    refine if_pos ?_
    cases hlist : a.missing.1 with
    | nil => exact absurd hlist hnonempty
    | cons hash hashes => rfl
  have hempty : a.missing.1.isEmpty = false := by
    rw [List.isEmpty_eq_false_iff]
    exact hnonempty
  unfold ResourceTracker.askedParts
  rw [hask, Option.map_some, ResourceRequest.decode_encode]
  dsimp only [ResourceRequest.onWire]
  unfold ResourceSendState.handleRequest missingParts
  dsimp only
  rw [hid, hstate, if_neg (fun hne => hne rfl),
    if_neg (by rw [hempty]; simp)]
  refine List.filter_congr fun part hpart => ?_
  exact decide_eq_decide.mpr
    (mem_missing_iff hparts hdistinct haligned hpart)

/-- Some part is missing. -/
theorem exists_missing_part (hparts : Parts id parts)
    (hdistinct : (partHashes P parts).Nodup) (h : Receiving P parts a)
    (hmore : a.receivedCount ≠ a.totalParts) :
    ∃ part ∈ parts, a.received[part.partIndex]? = some none := by
  obtain ⟨i, hlt, hempty⟩ := h.exists_missing hmore
  obtain ⟨part, hget⟩ : ∃ part, parts[i]? = some part :=
    ⟨_, List.getElem?_eq_getElem hlt⟩
  have hpart := List.mem_of_getElem? hget
  have hindex := hparts.index part hpart
  have hlen : i < (partHashes P parts).length := by
    unfold partHashes
    rw [List.length_map]
    exact hlt
  have hsame : i = part.partIndex := by
    refine (List.getElem?_inj hlen hdistinct).mp ?_
    unfold partHashes
    rw [List.getElem?_map, List.getElem?_map, hget, hindex]
  exact ⟨part, hpart, hsame ▸ hempty⟩

/-- A resource is advertised, and some of its parts arrive. -/
def ResourceTracker.receive (P : Platform) (t : ResourceTracker)
    (advert : ResourceAdvertisement) (linkId : Hash16) (start : Nat)
    (steps : List (ResourcePart × Nat)) : ResourceTracker :=
  (t.handleAdvertisement advert linkId start).2.handleParts P steps

/-- Until it is complete, the tracker holds what arrived. -/
theorem receive_receives {advert : ResourceAdvertisement}
    (htotal : advert.totalParts = parts.length)
    (hparts : Parts advert.resourceId parts) (hkeyed : t.Keyed)
    {linkId : Hash16} {start : Nat}
    (haccepted : (t.handleAdvertisement advert linkId start).1
      = .ok .accepted)
    {steps : List (ResourcePart × Nat)}
    (hsteps : ∀ step ∈ steps, step.1 ∈ parts) :
    (t.receive P advert linkId start steps).Keyed
    ∧ (t.receive P advert linkId start steps).Receives P parts
        advert.resourceId
    ∧ (t.receive P advert linkId start steps).timeout = t.timeout := by
  unfold ResourceTracker.receive
  unfold ResourceTracker.handleAdvertisement at haccepted ⊢
  split at haccepted
  case isTrue => cases haccepted
  case isFalse hnew =>
    split at haccepted
    case isTrue => cases haccepted
    case isFalse hsome =>
      rw [if_neg hnew, if_neg hsome]
      let a := ResourceAssembly.ofAdvertisement advert linkId start
      have hstart : ResourceTracker.Receives P parts advert.resourceId
          { t with incoming := t.incoming.insert advert.resourceId a } := by
        intro b hb
        have hb : (t.incoming.insert advert.resourceId a).lookup
            advert.resourceId = some b := hb
        rw [AList.lookup_insert] at hb
        injection hb with hb
        subst hb
        exact ⟨receiving_ofAdvertisement htotal linkId start,
          fun hzero => hsome hzero.symm⟩
      have hfiled : ResourceTracker.Keyed
          { t with incoming := t.incoming.insert advert.resourceId a } :=
        keyed_insert hkeyed rfl
      exact handleParts_receives hparts hfiled hstart hsteps

end Round

/-- Some parts of a split payload arrived, in whatever order. A poll, the
sender's answer and the hash update in it leave the receiver with the
hashes of the missing parts, all in place, and asking for just these
parts the next time, exactly when nothing had arrived and no part hashes
to zeros. -/
theorem hash_update_aligned_iff (hP : RmpvCodec P) {data : Bytes}
    {partSize : Nat} {requestId : Option Hash16}
    {isResponse isRequest : Bool} {sentAt : Nat} {state : ResourceSendState}
    (hsplit : ResourceSendState.new P data partSize requestId isResponse
      isRequest sentAt = .ok state)
    (hdistinct : (partHashes P state.parts).Nodup) {timeout : Nat}
    {s : TrackerRun} (hreach : Run.Reaches (TrackerRun.apply P)
      (fun _ _ => True) (.start timeout) s) {linkId : Hash16} {start : Nat}
    (haccepted : (s.tracker.handleAdvertisement state.advert linkId start).1
      = .ok .accepted)
    {steps : List (ResourcePart × Nat)}
    (hsteps : ∀ step ∈ steps, step.1 ∈ state.parts)
    {a : ResourceAssembly}
    (ha : (s.tracker.receive P state.advert linkId start
      steps).incoming.lookup state.resourceId = some a)
    {now : Nat} (hdue : s.tracker.timeout ≤ now - a.lastActivity)
    {outgoing : HashMap Hash16 ResourceSendState}
    (hstate : outgoing.lookup state.resourceId = some state) (later : Nat) :
    (∃ b t', t' = (s.tracker.receive P state.advert linkId start
          steps).round P outgoing state.resourceId now later
        ∧ t'.incoming.lookup state.resourceId = some b
        ∧ Aligned P state.parts b
        ∧ ∀ next, later + s.tracker.timeout ≤ next →
          t'.askedParts P state state.resourceId next
            = missingParts state.parts a)
      ↔ (∀ slot ∈ a.received, slot = none)
        ∧ List.Vector.replicate resourceMaphashLen 0
          ∉ partHashes P state.parts := by
  obtain ⟨⟨advert, parts⟩, hparts, hnew⟩ := Except.bind_eq_ok.mp hsplit
  injection hnew with hnew
  subst hnew
  dsimp only at *
  have htotal : advert.totalParts ≠ 0 := by
    intro hzero
    unfold ResourceTracker.handleAdvertisement at haccepted
    rw [if_pos hzero] at haccepted
    split at haccepted
    case isTrue => cases haccepted
    case isFalse => cases haccepted
  obtain ⟨hcount, hids⟩ := parts_of_split hparts hdistinct htotal
  obtain ⟨hkeyed', hreceives, htimeout⟩ :=
    receive_receives (P := P) hcount hids (keyed_of_reaches hreach)
      haccepted hsteps
  obtain ⟨hreceiving, hmore⟩ := hreceives a ha
  have hdue' : (s.tracker.receive P advert linkId start steps).timeout
      ≤ now - a.lastActivity := htimeout ▸ hdue
  obtain ⟨hround, hroundTimeout, hroundKeyed⟩ :=
    round_eq hP hkeyed' ha hreceiving hmore hdue' hstate later
  rw [← hreceiving.namedHash_not_mem_iff, ← aligned_round_iff hreceiving
    hmore hdistinct ⟨_, advert, parts, sentAt⟩ rfl now later]
  constructor
  · intro h
    obtain ⟨b, t', rfl, hb, haligned, _⟩ := h
    rw [hround] at hb
    injection hb with hb
    subst hb
    exact haligned
  · intro haligned
    refine ⟨_, _, rfl, hround, haligned, ?_⟩
    intro next hnext
    have hempty := exists_missing_part hids hdistinct hreceiving hmore
    refine askedParts_eq hroundKeyed hround hids hdistinct haligned ?_
      hempty rfl rfl ?_
    · show a.retries + 1 < a.maxRetries
      rw [hreceiving.retries, hreceiving.maxRetries]
      decide
    · rw [hroundTimeout, htimeout]
      exact Nat.le_sub_of_add_le' hnext

section Instance

open Reference

/-- Five different bytes, two in a part. -/
noncomputable def docHashSend : ResourceSendState where
  resourceId := truncateSha256Bytes platform [1, 2, 3, 4, 5]
  advert :=
    ⟨truncateSha256Bytes platform [1, 2, 3, 4, 5], none, 5, 2, 3, false,
      false⟩
  parts :=
    [⟨truncateSha256Bytes platform [1, 2, 3, 4, 5], 0, [1, 2]⟩,
     ⟨truncateSha256Bytes platform [1, 2, 3, 4, 5], 1, [3, 4]⟩,
     ⟨truncateSha256Bytes platform [1, 2, 3, 4, 5], 2, [5]⟩]
  lastSent := 0

noncomputable def docOutgoing : HashMap Hash16 ResourceSendState :=
  AList.insert docHashSend.resourceId docHashSend ∅

/-- The tracker after some of these parts. -/
noncomputable def docReceive (steps : List (ResourcePart × Nat)) :
    ResourceTracker :=
  (ResourceTracker.new 10).receive platform docHashSend.advert
    (List.Vector.replicate 16 0) 0 steps

theorem docHashSend_new :
    ResourceSendState.new platform [1, 2, 3, 4, 5] 2 none false false 0
      = .ok docHashSend := rfl

theorem docHashSend_distinct :
    (partHashes platform docHashSend.parts).Nodup := by
  decide +kernel

/-- With nothing received the update brings all three hashes. -/
theorem hash_update_aligned_doc :
    ∃ b t', t' = (docReceive []).round platform docOutgoing
        docHashSend.resourceId 10 11
      ∧ t'.incoming.lookup docHashSend.resourceId = some b
      ∧ Aligned platform docHashSend.parts b
      ∧ ∀ next, 21 ≤ next →
        t'.askedParts platform docHashSend docHashSend.resourceId next
          = missingParts docHashSend.parts
              (.ofAdvertisement docHashSend.advert
                (List.Vector.replicate 16 0) 0) := by
  have hreach : Run.Reaches (TrackerRun.apply platform) (fun _ _ => True)
      (.start 10) (.start 10) := .start
  have haccepted : ((TrackerRun.start 10).tracker.handleAdvertisement
      docHashSend.advert (List.Vector.replicate 16 0) 0).1
        = .ok .accepted := rfl
  have hsteps : ∀ step ∈ ([] : List (ResourcePart × Nat)),
      step.1 ∈ docHashSend.parts := List.forall_mem_nil _
  have hlookup : (docReceive []).incoming.lookup docHashSend.resourceId
      = some (.ofAdvertisement docHashSend.advert
          (List.Vector.replicate 16 0) 0) := AList.lookup_insert _
  have hdue : (TrackerRun.start 10).tracker.timeout ≤ 10 - 0 := by decide
  have houtgoing : docOutgoing.lookup docHashSend.resourceId
      = some docHashSend := AList.lookup_insert _
  have hempty : ∀ slot ∈ (ResourceAssembly.ofAdvertisement
      docHashSend.advert (List.Vector.replicate 16 0) 0).received,
      slot = none := by decide
  have hzero : List.Vector.replicate resourceMaphashLen 0
      ∉ partHashes platform docHashSend.parts := by decide +kernel
  exact (hash_update_aligned_iff platform_rmpvCodec docHashSend_new
    docHashSend_distinct hreach haccepted hsteps hlookup hdue houtgoing
    11).mpr ⟨hempty, hzero⟩

/-- With the first part received the hashes of the others go to the first
two slots, and the last one stays empty. -/
theorem hash_update_misaligned_doc :
    ¬ ∃ b, ((docReceive [(⟨docHashSend.resourceId, 0, [1, 2]⟩, 1)]).round
          platform docOutgoing docHashSend.resourceId 20 21).incoming.lookup
            docHashSend.resourceId = some b
        ∧ Aligned platform docHashSend.parts b := by
  intro h
  obtain ⟨b, hb, haligned⟩ := h
  have hslots : (((docReceive
      [(⟨docHashSend.resourceId, 0, [1, 2]⟩, 1)]).round platform docOutgoing
        docHashSend.resourceId 20 21).incoming.lookup
          docHashSend.resourceId).map
            (fun b => (b.received[2]?, b.hashmap[2]?))
      = some (some none, some none) := by
    decide +kernel
  rw [hb] at hslots
  injection hslots with hslots
  injection hslots with hempty hunknown
  obtain ⟨hash, hknown⟩ := haligned.known 2 hempty
  cases hknown.symm.trans hunknown

end Instance

end Lxmf
