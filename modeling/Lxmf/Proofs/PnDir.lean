/-
What a directory of propagation nodes keeps of what it receives.

A directory is a store of cells (`cells`): the announce of a node is the
value, the acknowledgement is the flag. A response is a list of updates
(`PnDirResponse.updates`), a write for each announce that is valid and a
flag for each acknowledgement, and to apply it is to run them
(`applyResponse_cells`).

# The last one, not the freshest

So the directory keeps the announce of a node that it received last, and
does not ask when that was seen. Two directories that exchange their
lists agree on every announce afterwards, on that of the one whose list
was applied first.
-/
import Lxmf.Library.Registers
import Lxmf.PnDir
import Lxmf.Reference

namespace Lxmf

open Registers (Cell Update put)

-- ============================================================== updates

/-- The entry without its acknowledgement. -/
def PnDirectoryEntry.unacked (entry : PnDirectoryEntry) :
    PnDirectoryEntry :=
  { entry with acked := false }

/-- What the announce of an entry says. -/
def PnDirectoryEntry.announce (entry : PnDirectoryEntry) :
    Bytes × Option String × Option Nat :=
  (entry.appData, entry.name, entry.stampCost)

/-- The entry that is made of a received one. -/
def announced (P : Platform) (nowMs : Nat) (wire : PnDirEntryWire) :
    PnDirectoryEntry where
  destinationHash := wire.destinationHash
  appData := wire.appData
  name := pnNameFromAppData P wire.appData
  stampCost := pnStampCostFromAppData P wire.appData
  lastSeenMs := max wire.lastSeenMs nowMs
  acked := false

def PnDirEntryWire.updates (P : Platform) (nowMs : Nat)
    (wire : PnDirEntryWire) : List (Hash16 × Update PnDirectoryEntry) :=
  (if pnAnnounceDataIsValid P wire.appData then
    [(wire.destinationHash, .write (announced P nowMs wire))]
  else [])
    ++ (if wire.acked then [(wire.destinationHash, .flag)] else [])

theorem PnDirEntryWire.key_of_mem_updates {P : Platform} {nowMs : Nat}
    {wire : PnDirEntryWire} {u : Hash16 × Update PnDirectoryEntry}
    (hu : u ∈ wire.updates P nowMs) : u.1 = wire.destinationHash := by
  rcases List.mem_append.mp hu with hwrite | hflag
  · split at hwrite
    · rw [List.mem_singleton.mp hwrite]
    · cases hwrite
  · split at hflag
    · rw [List.mem_singleton.mp hflag]
    · cases hflag

namespace PnDirResponse

/-- The entries a response carries. -/
def entries : PnDirResponse → List PnDirEntryWire
  | .list entries => entries
  | .get entry => entry.toList
  | .ack _ => []

/-- The hashes it acknowledges without an entry. -/
def acks : PnDirResponse → List Hash16
  | .ack hashes => hashes
  | _ => []

/-- The node is named in the response. -/
def Names (response : PnDirResponse) (hash : Hash16) : Prop :=
  hash ∈ response.entries.map (·.destinationHash) ∨ hash ∈ response.acks

def updates (P : Platform) (nowMs : Nat) (response : PnDirResponse) :
    List (Hash16 × Update PnDirectoryEntry) :=
  response.entries.flatMap (PnDirEntryWire.updates P nowMs)
    ++ response.acks.map fun hash => (hash, .flag)

/-- The valid announces of a response, in order. -/
def announces (P : Platform) (nowMs : Nat) (response : PnDirResponse) :
    List PnDirectoryEntry :=
  (response.entries.filter fun wire =>
    pnAnnounceDataIsValid P wire.appData).map (announced P nowMs)

theorem names_of_mem_updates {P : Platform} {nowMs : Nat}
    {response : PnDirResponse} {hash : Hash16}
    (h : hash ∈ (response.updates P nowMs).map (·.1)) :
    response.Names hash := by
  obtain ⟨u, hu, rfl⟩ := List.mem_map.mp h
  rcases List.mem_append.mp hu with hentry | hack
  · obtain ⟨wire, hwire, hu⟩ := List.mem_flatMap.mp hentry
    exact .inl (List.mem_map.mpr ⟨wire, hwire,
      (PnDirEntryWire.key_of_mem_updates hu).symm⟩)
  · obtain ⟨hash, hhash, rfl⟩ := List.mem_map.mp hack
    exact .inr hhash

end PnDirResponse

-- ================================================== cells of a directory

namespace PnDirectory

variable {P : Platform} {d : PnDirectory} {hash : Hash16} {nowMs : Nat}

def cells (d : PnDirectory) (hash : Hash16) :
    Option (Cell PnDirectoryEntry) :=
  (d.lookup hash).map fun entry => ⟨entry.unacked, entry.acked⟩

theorem cells_insert (entry : PnDirectoryEntry) :
    cells (d.insert hash entry)
      = Function.update (cells d) hash
        (some ⟨entry.unacked, entry.acked⟩) := by
  funext other
  unfold cells
  by_cases h : other = hash
  · subst h
    rw [AList.lookup_insert, Function.update_self]
    rfl
  · rw [AList.lookup_insert_ne h, Function.update_of_ne h]

/-- The cell of a node is all there is of its entry. -/
theorem lookup_of_cells {d' : PnDirectory}
    (h : cells d hash = cells d' hash) : d.lookup hash = d'.lookup hash := by
  refine Option.map_injective ?_ h
  intro entry entry' hcell
  injection hcell with hunacked hacked
  cases entry
  cases entry'
  injection hunacked with h₁ h₂ h₃ h₄ h₅
  subst h₁ h₂ h₃ h₄ h₅ hacked
  rfl

theorem acknowledge_cells (d : PnDirectory) (hash : Hash16) :
    cells (acknowledge d hash).2 = put (cells d) (hash, .flag) := by
  unfold acknowledge put
  cases hentry : d.lookup hash with
  | none =>
      have hcell : Update.flag.act (cells d hash) = cells d hash := by
        unfold cells
        rw [hentry]
        rfl
      dsimp only
      rw [hcell, Function.update_eq_self]
  | some entry =>
      have hcell : Update.flag.act (cells d hash)
          = some ⟨entry.unacked, true⟩ := by
        unfold cells
        rw [hentry]
        rfl
      dsimp only
      rw [hcell, cells_insert]
      rfl

theorem upsertAnnounce_cells (nowMs : Nat) (d : PnDirectory)
    (wire : PnDirEntryWire) :
    cells ((d.upsertAnnounce P wire.destinationHash wire.appData
        (max wire.lastSeenMs nowMs)).toOption.getD d)
      = if pnAnnounceDataIsValid P wire.appData then
          put (cells d)
            (wire.destinationHash, .write (announced P nowMs wire))
        else cells d := by
  unfold upsertAnnounce
  cases hvalid : pnAnnounceDataIsValid P wire.appData with
  | false => rfl
  | true =>
      have hcell : (Update.write (announced P nowMs wire)).act
          (cells d wire.destinationHash)
          = some ⟨announced P nowMs wire,
            ((d.lookup wire.destinationHash).map (·.acked)).getD false⟩ := by
        unfold cells
        cases d.lookup wire.destinationHash with
        | none => rfl
        | some entry => rfl
      show cells (d.insert wire.destinationHash _) = _
      rw [cells_insert]
      unfold put
      rw [if_pos rfl, hcell]
      rfl

end PnDirectory

namespace PnDirService

open PnDirectory (cells)

variable {P : Platform} {nowMs : Nat}

theorem applyEntry_cells (d : PnDirectory) (wire : PnDirEntryWire) :
    cells (applyEntry P nowMs d wire)
      = (wire.updates P nowMs).foldl put (cells d) := by
  unfold applyEntry PnDirEntryWire.updates
  dsimp only
  rw [List.foldl_append]
  have hwritten := PnDirectory.upsertAnnounce_cells (P := P) nowMs d wire
  split
  case isTrue hacked =>
    rw [PnDirectory.acknowledge_cells, hwritten]
    split
    case isTrue => rfl
    case isFalse => rfl
  case isFalse hacked =>
    rw [hwritten]
    split
    case isTrue => rfl
    case isFalse => rfl

theorem foldl_applyEntry_cells (entries : List PnDirEntryWire)
    (d : PnDirectory) :
    cells (entries.foldl (applyEntry P nowMs) d)
      = (entries.flatMap (PnDirEntryWire.updates P nowMs)).foldl put
        (cells d) := by
  induction entries generalizing d with
  | nil => rfl
  | cons wire entries ih =>
      rw [List.foldl_cons, ih, applyEntry_cells, List.flatMap_cons,
        List.foldl_append]

theorem foldl_acknowledge_cells (hashes : List Hash16) (d : PnDirectory) :
    cells (hashes.foldl (fun d hash => (PnDirectory.acknowledge d hash).2) d)
      = (hashes.map fun hash => (hash, Update.flag)).foldl put
        (cells d) := by
  induction hashes generalizing d with
  | nil => rfl
  | cons hash hashes ih =>
      rw [List.foldl_cons, ih, PnDirectory.acknowledge_cells]
      rfl

/-- To apply a response is to run its updates. -/
theorem applyResponse_cells (service : PnDirService)
    (response : PnDirResponse) (nowMs : Nat) :
    cells (service.applyResponse P response nowMs).directory
      = (response.updates P nowMs).foldl put (cells service.directory) := by
  unfold applyResponse PnDirResponse.updates
  rw [List.foldl_append]
  cases response with
  | list entries => exact foldl_applyEntry_cells entries service.directory
  | get entry =>
      cases entry with
      | none => rfl
      | some wire =>
          exact foldl_applyEntry_cells [wire] service.directory
  | ack hashes => exact foldl_acknowledge_cells hashes service.directory

-- ============================================================= the runs

/-- The directory after some responses, each at a time of the clock. -/
def applyResponses (P : Platform) (service : PnDirService)
    (responses : List (PnDirResponse × Nat)) : PnDirService :=
  responses.foldl (fun service item =>
    service.applyResponse P item.1 item.2) service

/-- The valid announces of all of them, in order. -/
def received (P : Platform) (responses : List (PnDirResponse × Nat)) :
    List PnDirectoryEntry :=
  responses.flatMap fun item => item.1.announces P item.2

theorem applyResponses_cells (service : PnDirService)
    (responses : List (PnDirResponse × Nat)) :
    cells (service.applyResponses P responses).directory
      = (responses.flatMap fun item => item.1.updates P item.2).foldl put
        (cells service.directory) := by
  unfold applyResponses
  induction responses generalizing service with
  | nil => rfl
  | cons item responses ih =>
      rw [List.foldl_cons, ih, applyResponse_cells, List.flatMap_cons,
        List.foldl_append]

-- ---------------------------------------------------------- what is written

/-- The values that updates write under a key. -/
def writes (hash : Hash16)
    (us : List (Hash16 × Update PnDirectoryEntry)) :
    List PnDirectoryEntry :=
  (Registers.updatesOf hash us).filterMap Update.value?

theorem writes_append (hash : Hash16)
    (us vs : List (Hash16 × Update PnDirectoryEntry)) :
    writes hash (us ++ vs) = writes hash us ++ writes hash vs := by
  unfold writes Registers.updatesOf
  rw [List.filter_append, List.map_append, List.filterMap_append]

theorem writes_flag (hash k : Hash16) :
    writes hash [(k, Update.flag)] = [] := by
  by_cases h : k = hash
  · simp [writes, Registers.updatesOf, h, Update.value?]
  · simp [writes, Registers.updatesOf, h]

theorem writes_flags (hash : Hash16) (hashes : List Hash16) :
    writes hash (hashes.map fun k => (k, Update.flag)) = [] := by
  induction hashes with
  | nil => rfl
  | cons k hashes ih =>
      rw [List.map_cons, ← List.singleton_append, writes_append,
        writes_flag, ih]
      rfl

theorem writes_write (hash k : Hash16) (entry : PnDirectoryEntry) :
    writes hash [(k, Update.write entry)]
      = if k = hash then [entry] else [] := by
  by_cases h : k = hash
  · simp [writes, Registers.updatesOf, h, Update.value?]
  · simp [writes, Registers.updatesOf, h]

/-- Of one entry, its announce if that is valid. -/
theorem writes_entry (hash : Hash16) (wire : PnDirEntryWire) :
    writes hash (wire.updates P nowMs)
      = if pnAnnounceDataIsValid P wire.appData
          ∧ wire.destinationHash = hash then
          [announced P nowMs wire]
        else [] := by
  have hflag : writes hash
      (if wire.acked then [(wire.destinationHash, Update.flag)] else [])
      = [] := by
    split
    case isTrue => exact writes_flag hash _
    case isFalse => rfl
  unfold PnDirEntryWire.updates
  rw [writes_append, hflag, List.append_nil]
  by_cases hvalid : pnAnnounceDataIsValid P wire.appData = true
  · rw [if_pos hvalid, writes_write]
    simp [hvalid]
  · rw [if_neg hvalid]
    simp [hvalid, writes, Registers.updatesOf]

/-- Of a response, its valid announces of that node. -/
theorem writes_updates (hash : Hash16) (response : PnDirResponse) :
    writes hash (response.updates P nowMs)
      = (response.announces P nowMs).filter fun entry =>
        decide (entry.destinationHash = hash) := by
  unfold PnDirResponse.updates PnDirResponse.announces
  rw [writes_append, writes_flags, List.append_nil]
  induction response.entries with
  | nil => rfl
  | cons wire entries ih =>
      rw [List.flatMap_cons, writes_append, ih, writes_entry,
        List.filter_cons]
      by_cases hvalid : pnAnnounceDataIsValid P wire.appData = true
      · by_cases h : wire.destinationHash = hash
        · simp [hvalid, h, announced]
        · simp [hvalid, h, announced]
      · simp [hvalid]

theorem writes_responses (hash : Hash16)
    (responses : List (PnDirResponse × Nat)) :
    writes hash (responses.flatMap fun item => item.1.updates P item.2)
      = (received P responses).filter fun entry =>
        decide (entry.destinationHash = hash) := by
  unfold received
  induction responses with
  | nil => rfl
  | cons item responses ih =>
      rw [List.flatMap_cons, List.flatMap_cons, writes_append, ih,
        writes_updates, List.filter_append]

end PnDirService

-- ================================================ what is in a directory

namespace PnDirectory

variable {P : Platform} {d : PnDirectory} {hash : Hash16} {nowMs : Nat}

/-- Every entry is under its own hash, and its fields are those of its
announce, which is valid. -/
def Sound (P : Platform) (d : PnDirectory) : Prop :=
  ∀ hash entry, d.lookup hash = some entry →
    entry.destinationHash = hash
      ∧ pnAnnounceDataIsValid P entry.appData = true
      ∧ entry.announce = (entry.appData,
        pnNameFromAppData P entry.appData,
        pnStampCostFromAppData P entry.appData)

theorem sound_empty : Sound P ∅ := by
  intro hash entry h
  cases h

theorem Sound.insert (h : Sound P d) {entry : PnDirectoryEntry}
    (hkey : entry.destinationHash = hash)
    (hvalid : pnAnnounceDataIsValid P entry.appData = true)
    (hannounce : entry.announce = (entry.appData,
      pnNameFromAppData P entry.appData,
      pnStampCostFromAppData P entry.appData)) :
    Sound P (d.insert hash entry) := by
  intro other entry' hlookup
  by_cases hother : other = hash
  · subst hother
    rw [AList.lookup_insert] at hlookup
    injection hlookup with hsame
    subst hsame
    exact ⟨hkey, hvalid, hannounce⟩
  · rw [AList.lookup_insert_ne hother] at hlookup
    exact h other entry' hlookup

theorem Sound.acknowledge (h : Sound P d) (hash : Hash16) :
    Sound P (acknowledge d hash).2 := by
  unfold PnDirectory.acknowledge
  split
  case h_2 => exact h
  case h_1 entry hentry =>
    obtain ⟨hkey, hvalid, hannounce⟩ := h hash entry hentry
    exact h.insert hkey hvalid hannounce

theorem Sound.upsertAnnounce (h : Sound P d) (hash : Hash16)
    (appData : Bytes) (nowMs : Nat) :
    Sound P ((d.upsertAnnounce P hash appData nowMs).toOption.getD d) := by
  unfold PnDirectory.upsertAnnounce
  cases hvalid : pnAnnounceDataIsValid P appData with
  | false => exact h
  | true => exact h.insert rfl hvalid rfl

theorem Sound.delete (h : Sound P d) (hash : Hash16) :
    Sound P (d.delete hash).2 :=
  fun other entry hlookup =>
    h other entry (HashMap.lookup_of_lookup_erase hlookup).2

theorem Sound.applyEntry (h : Sound P d) (wire : PnDirEntryWire) :
    Sound P (PnDirService.applyEntry P nowMs d wire) := by
  unfold PnDirService.applyEntry
  have hwritten := h.upsertAnnounce wire.destinationHash wire.appData
    (max wire.lastSeenMs nowMs)
  split
  case isTrue => exact hwritten.acknowledge wire.destinationHash
  case isFalse => exact hwritten

theorem Sound.applyResponse {service : PnDirService}
    (h : Sound P service.directory) (response : PnDirResponse)
    (nowMs : Nat) :
    Sound P (service.applyResponse P response nowMs).directory := by
  have hfold {α : Type} {f : PnDirectory → α → PnDirectory}
      (hf : ∀ d a, Sound P d → Sound P (f d a)) (as : List α) :
      ∀ d, Sound P d → Sound P (as.foldl f d) := by
    induction as with
    | nil => exact fun _ hd => hd
    | cons a as ih => exact fun d hd => ih (f d a) (hf d a hd)
  unfold PnDirService.applyResponse
  split
  case h_1 entries =>
    exact hfold (fun _ wire hd => hd.applyEntry wire) entries _ h
  case h_2 entry => exact h.applyEntry entry
  case h_3 => exact h
  case h_4 hashes =>
    exact hfold (fun _ hash hd => hd.acknowledge hash) hashes _ h

-- ------------------------------------------------------- the list of it

theorem filter_entries {es : List (Sigma fun _ : Hash16 => PnDirectoryEntry)}
    (hnodup : es.NodupKeys) (hash : Hash16) :
    (es.filter fun e => decide (e.1 = hash)).map (·.2)
      = (es.dlookup hash).toList := by
  induction es with
  | nil => rfl
  | cons e es ih =>
      obtain ⟨hnew, hrest⟩ := List.nodupKeys_cons.mp hnodup
      by_cases h : e.1 = hash
      · subst h
        have hnone : es.dlookup e.1 = none :=
          List.dlookup_eq_none.mpr hnew
        rw [hnone] at ih
        rw [List.filter_cons_of_pos (by simp), List.map_cons, ih hrest,
          List.dlookup_cons_eq]
        rfl
      · rw [List.filter_cons_of_neg (by simp [h]), ih hrest,
          List.dlookup_cons_ne _ _ (Ne.symm h)]

/-- A sound directory lists each node once. -/
theorem Sound.filter_list (h : Sound P d) (hash : Hash16) :
    (list d).filter (fun entry => decide (entry.destinationHash = hash))
      = (d.lookup hash).toList := by
  have hperm := (List.mergeSort_perm (d.entries.map (·.2))
    fun a b => decide (a.lastSeenMs ≤ b.lastSeenMs)).filter
      fun entry => decide (entry.destinationHash = hash)
  have hkeys : (d.entries.map (·.2)).filter
      (fun entry => decide (entry.destinationHash = hash))
      = (d.lookup hash).toList := by
    rw [List.filter_map]
    rw [show d.lookup hash = d.entries.dlookup hash from rfl,
      ← filter_entries d.nodupKeys hash]
    congr 1
    refine List.filter_congr fun e he => ?_
    have hkey := (h e.1 e.2 (AList.mem_lookup_iff.mpr he)).1
    simp [hkey]
  rw [hkeys] at hperm
  cases hlookup : d.lookup hash with
  | none =>
      rw [hlookup] at hperm
      exact List.perm_nil.mp hperm
  | some entry =>
      rw [hlookup] at hperm
      exact List.perm_singleton.mp hperm

theorem mem_list {entry : PnDirectoryEntry} (h : entry ∈ d.list) :
    ∃ hash, d.lookup hash = some entry := by
  obtain ⟨e, he, rfl⟩ := List.mem_map.mp (List.mem_mergeSort.mp h)
  exact ⟨e.1, AList.mem_lookup_iff.mpr he⟩

/-- The list a directory sends writes what the directory holds. -/
theorem Sound.sends (h : Sound P d) (nowMs : Nat) :
    Registers.Sends PnDirectoryEntry.announce
      ((PnDirResponse.list (d.list.map PnDirectoryEntry.toWire)).updates P
        nowMs) (cells d) := by
  intro hash
  have hvalid : ∀ wire ∈ d.list.map PnDirectoryEntry.toWire,
      pnAnnounceDataIsValid P wire.appData = true := by
    intro wire hwire
    obtain ⟨entry, hentry, rfl⟩ := List.mem_map.mp hwire
    obtain ⟨other, hlookup⟩ := mem_list hentry
    exact (h other entry hlookup).2.1
  have hwrites : PnDirService.writes hash
      ((PnDirResponse.list (d.list.map PnDirectoryEntry.toWire)).updates P
        nowMs)
      = (d.lookup hash).toList.map fun entry =>
        announced P nowMs entry.toWire := by
    rw [PnDirService.writes_updates, ← h.filter_list hash]
    unfold PnDirResponse.announces PnDirResponse.entries
    rw [List.filter_eq_self.mpr hvalid, List.map_map, List.filter_map]
    rfl
  show ((PnDirService.writes hash _).getLast?).map _ = _
  rw [hwrites]
  unfold cells
  cases hlookup : d.lookup hash with
  | none => rfl
  | some entry =>
      exact congrArg some (h hash entry hlookup).2.2.symm

-- ------------------------------------------------ directories that exist

/-- What changes a directory. -/
inductive Op where
  | upsertAnnounce (destinationHash : Hash16) (appData : Bytes)
      (nowMs : Nat)
  | acknowledge (destinationHash : Hash16)
  | delete (destinationHash : Hash16)

def Op.apply (P : Platform) (d : PnDirectory) : Op → PnDirectory
  | .upsertAnnounce destinationHash appData nowMs =>
      (d.upsertAnnounce P destinationHash appData nowMs).toOption.getD d
  | .acknowledge destinationHash =>
      (PnDirectory.acknowledge d destinationHash).2
  | .delete destinationHash => (d.delete destinationHash).2

/-- A directory after some operations on a new one. -/
def built (P : Platform) (ops : List Op) : PnDirectory :=
  ops.foldl (Op.apply P) ∅

theorem sound_built (P : Platform) (ops : List Op) :
    Sound P (built P ops) := by
  unfold built
  induction ops using List.reverseRecOn with
  | nil => exact sound_empty
  | append_singleton ops op ih =>
      rw [List.foldl_append]
      cases op with
      | upsertAnnounce destinationHash appData nowMs =>
          exact ih.upsertAnnounce destinationHash appData nowMs
      | acknowledge destinationHash => exact ih.acknowledge destinationHash
      | delete destinationHash => exact ih.delete destinationHash

end PnDirectory

-- =========================================================== the results

namespace PnDirService

open PnDirectory (cells)

/-- What a directory is after some responses: it has the announce of a
node that it received last, or else the one it had; no acknowledgement
is lost; and a node that no response names is as it was. -/
structure KeepsLast (P : Platform) (before after : PnDirectory)
    (responses : List (PnDirResponse × Nat)) : Prop where
  announce : ∀ hash, (after.lookup hash).map PnDirectoryEntry.unacked
    = (((received P responses).filter fun entry =>
        decide (entry.destinationHash = hash)).getLast?).or
      ((before.lookup hash).map PnDirectoryEntry.unacked)
  acked : ∀ hash entry, before.lookup hash = some entry →
    entry.acked = true → ∃ entry', after.lookup hash = some entry'
      ∧ entry'.acked = true
  others : ∀ hash, (∀ item ∈ responses, ¬ item.1.Names hash) →
    after.lookup hash = before.lookup hash

/-- Two nodes exchange their directories: the second sends its list, and
gets back that of the first, which has applied it. -/
def exchange (P : Platform) (a b : PnDirService) (nowMs laterMs : Nat) :
    PnDirService × PnDirService :=
  let (response, b) := b.handleRequest .list
  let a := a.applyResponse P response nowMs
  let (response, a) := a.handleRequest .list
  (a, b.applyResponse P response laterMs)

theorem applyResponses_keepsLast (P : Platform) (service : PnDirService)
    (responses : List (PnDirResponse × Nat)) :
    KeepsLast P service.directory
      (service.applyResponses P responses).directory responses := by
  have hcells := applyResponses_cells (P := P) service responses
  have hcell (hash : Hash16) := (congrFun hcells hash).trans
    (Registers.run_apply (cells service.directory) _ hash)
  refine ⟨fun hash => ?_, fun hash entry hlookup hacked => ?_,
    fun hash hnames => ?_⟩
  · have hvalue := Registers.value_run (cells service.directory hash)
      (Registers.updatesOf hash (responses.flatMap fun item =>
        item.1.updates P item.2))
    rw [← hcell hash] at hvalue
    unfold cells at hvalue
    rw [Option.map_map, Option.map_map] at hvalue
    rw [← writes_responses]
    exact hvalue
  · have hbefore : cells service.directory hash
        = some ⟨entry.unacked, entry.acked⟩ := by
      unfold cells
      rw [hlookup]
      rfl
    obtain ⟨cell, hafter, hflag⟩ := Registers.flagged_run hbefore hacked
      (Registers.updatesOf hash (responses.flatMap fun item =>
        item.1.updates P item.2))
    rw [← hcell hash] at hafter
    obtain ⟨entry', hentry', rfl⟩ := Option.map_eq_some_iff.mp hafter
    exact ⟨entry', hentry', hflag⟩
  · have hout : hash ∉ (responses.flatMap fun item =>
        item.1.updates P item.2).map (·.1) := by
      intro hmem
      obtain ⟨u, hu, rfl⟩ := List.mem_map.mp hmem
      obtain ⟨item, hitem, hu⟩ := List.mem_flatMap.mp hu
      exact hnames item hitem (PnDirResponse.names_of_mem_updates
        (List.mem_map.mpr ⟨u, hu, rfl⟩))
    refine PnDirectory.lookup_of_cells ?_
    rw [hcells]
    exact Registers.run_apply_of_not_mem (cells service.directory) hout

/-- After an exchange the nodes agree on every announce: on that of the
second node, or else of the first. -/
theorem exchange_agrees {P : Platform} {a b : PnDirService}
    (ha : a.directory.Sound P) (hb : b.directory.Sound P)
    (nowMs laterMs : Nat) (hash : Hash16) :
    (((exchange P a b nowMs laterMs).1.directory.lookup hash).map
        PnDirectoryEntry.announce
      = ((b.directory.lookup hash).map PnDirectoryEntry.announce).or
        ((a.directory.lookup hash).map PnDirectoryEntry.announce))
    ∧ (((exchange P a b nowMs laterMs).2.directory.lookup hash).map
        PnDirectoryEntry.announce
      = ((exchange P a b nowMs laterMs).1.directory.lookup hash).map
        PnDirectoryEntry.announce) := by
  have hannounce (d : PnDirectory) :
      ((cells d hash).map fun cell => cell.value.announce)
        = (d.lookup hash).map PnDirectoryEntry.announce := by
    unfold cells
    rw [Option.map_map]
    rfl
  have hfirst := applyResponse_cells (P := P) a
    (.list (b.directory.list.map PnDirectoryEntry.toWire)) nowMs
  have hsent := (ha.applyResponse
    (.list (b.directory.list.map PnDirectoryEntry.toWire)) nowMs).sends
    laterMs
  rw [hfirst] at hsent
  have hback := applyResponse_cells (P := P) b
    (.list ((a.applyResponse P (.list (b.directory.list.map
      PnDirectoryEntry.toWire)) nowMs).directory.list.map
      PnDirectoryEntry.toWire)) laterMs
  have hboth := Registers.exchange (hb.sends nowMs) hsent hash
  rw [← hfirst, ← hback] at hboth
  simp only [hannounce] at hboth
  exact hboth

/-- Whatever a directory receives, it keeps of every node the announce
that came last, fresh or not, and every acknowledgement, and leaves what
is not named alone; and two nodes that exchange their directories agree
on every announce, on that of the node whose list was applied first. -/
theorem pn_directories_keep_last_received (P : Platform) :
    (∀ (service : PnDirService) (responses : List (PnDirResponse × Nat)),
      KeepsLast P service.directory
        (service.applyResponses P responses).directory responses)
    ∧ ∀ (opsA opsB : List PnDirectory.Op) (nowMs laterMs : Nat)
        (hash : Hash16),
      (((exchange P ⟨.built P opsA⟩ ⟨.built P opsB⟩ nowMs
          laterMs).1.directory.lookup hash).map PnDirectoryEntry.announce
        = (((PnDirectory.built P opsB).lookup hash).map
            PnDirectoryEntry.announce).or
          (((PnDirectory.built P opsA).lookup hash).map
            PnDirectoryEntry.announce))
      ∧ (((exchange P ⟨.built P opsA⟩ ⟨.built P opsB⟩ nowMs
          laterMs).2.directory.lookup hash).map PnDirectoryEntry.announce
        = ((exchange P ⟨.built P opsA⟩ ⟨.built P opsB⟩ nowMs
          laterMs).1.directory.lookup hash).map
            PnDirectoryEntry.announce) := by
  refine ⟨applyResponses_keepsLast P, fun opsA opsB nowMs laterMs hash => ?_⟩
  exact exchange_agrees (PnDirectory.sound_built P opsA)
    (PnDirectory.sound_built P opsB) nowMs laterMs hash

section Instance

open Reference

/-- A node. -/
def docPn : Hash16 := List.Vector.replicate 16 0x04

/-- The data of an announce with this stamp cost. -/
noncomputable def docAnnounce (stampCost : UInt8) : Bytes :=
  ((platform.writeValue (.array [.boolean false, .integer (.ofU8 1),
    .boolean true, .integer (.ofU8 64), .integer (.ofU8 128),
    .array [.integer (.ofU8 stampCost), .integer (.ofU8 2),
      .integer (.ofU8 3)],
    .map []])).toOption).getD []

/-- A directory that saw the node announce a stamp cost of 10. -/
noncomputable def docDirectory : PnDirService :=
  ⟨.built platform [.upsertAnnounce docPn (docAnnounce 10) 200]⟩

/-- It takes over the cost of 9 that another node saw earlier. -/
theorem older_announce_replaces_newer :
    ¬ ∀ (service : PnDirService) (responses : List (PnDirResponse × Nat)),
      (responses.map (·.2)).Pairwise (· ≤ ·) →
      ∀ hash entry entry', service.directory.lookup hash = some entry →
      (service.applyResponses platform responses).directory.lookup hash
        = some entry' → entry'.appData ≠ entry.appData →
      ∃ item ∈ responses, ∃ wire ∈ item.1.entries,
        wire.destinationHash = hash ∧ wire.appData = entry'.appData
          ∧ entry.lastSeenMs ≤ wire.lastSeenMs := by
  intro h
  have hbefore : docDirectory.directory.lookup docPn
      = some ⟨docPn, docAnnounce 10, none, some 10, 200, false⟩ := by
    decide +kernel
  have hafter : (docDirectory.applyResponses platform
      [(.list [⟨docPn, docAnnounce 9, 100, false⟩], 300)]).directory.lookup
        docPn
      = some ⟨docPn, docAnnounce 9, none, some 9, 300, false⟩ := by
    decide +kernel
  obtain ⟨item, hitem, wire, hwire, -, -, hfresh⟩ := h docDirectory
    [(.list [⟨docPn, docAnnounce 9, 100, false⟩], 300)]
    (List.pairwise_singleton _ _) docPn _ _ hbefore hafter
    (by decide +kernel)
  rw [List.mem_singleton.mp hitem] at hwire
  rw [List.mem_singleton.mp hwire] at hfresh
  exact absurd hfresh (by decide)

end Instance

end PnDirService

end Lxmf
