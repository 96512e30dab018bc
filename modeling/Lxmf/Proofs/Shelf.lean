/-
What the handlers of a router do to the messages it keeps.

# A shelf

Four parts of a router's state have to do with propagated messages: the
entries, their file names, the ids processed and the files of the
propagation directory. Every handler changes them by a list of a few
operations: an entry is filed, an id is dropped together with its file,
an id is forgotten while its file stays, or old ids are let go. Runs of
handlers are reasoned about as runs of these operations.

# What is admitted

The ways in differ in the entries they build and agree on the rest: an
entry is filed unless its id was seen, so that of a batch the first of
each new id is filed (`fresh`).
-/
import Lxmf.Proofs.PeerSync
import Lxmf.Router.Inbound
import Lxmf.Router.Tick

namespace Lxmf

-- ========================================================== the shelf

/-- The file of a name in the propagation directory. -/
def Disk.files (disk : Disk) (name : String) : Option Bytes :=
  disk.lookup (Disk.propagationPath name)

/-- What a router keeps of propagated messages. -/
structure Shelf where
  entries : HashMap Hash32 PropagationEntry
  filenames : HashMap Hash32 String
  processed : HashMap Hash32 F64
  files : Option (String → Option Bytes)

/-- What a handler can do to it. -/
inductive ShelfOp where
  | file (entry : PropagationEntry) (nowMs : Nat)
  | drop (id : Hash32)
  | forget (id : Hash32)
  | expire (nowMs : Nat)

namespace ShelfOp

/-- The operation takes something away. -/
def Removes : ShelfOp → Prop
  | .file _ _ => False
  | _ => True

/-- The operation leaves no file of an entry it takes away. -/
def Drops : ShelfOp → Prop
  | .drop _ => True
  | .expire _ => True
  | _ => False

theorem Drops.removes {op : ShelfOp} (h : op.Drops) : op.Removes := by
  cases op with
  | file entry nowMs => exact h
  | drop id => trivial
  | forget id => trivial
  | expire nowMs => trivial

end ShelfOp

namespace Shelf

/-- The id was stored, or processed and since removed. -/
def seen (s : Shelf) (id : Hash32) : Bool :=
  decide (id ∈ s.entries) || decide (id ∈ s.processed)

/-- The directory without the file `name`. -/
def unlink (name : String) (files : String → Option Bytes) :
    String → Option Bytes :=
  Function.update files name none

/-- The directory without the files of an id. -/
def unlinkAll (id : Hash32) (files : String → Option Bytes) :
    String → Option Bytes := fun name =>
  if (hexEncode id.toList ++ "_").toList.isPrefixOf name.toList then none
  else files name

/-- The directory after an entry was dropped from it: the file the store
names goes, or every file of the id. -/
def unlinkEntry (s : Shelf) (entry : PropagationEntry) :
    Option (String → Option Bytes) :=
  match s.filenames.lookup entry.transientId with
  | some name => s.files.map (unlink name)
  | none => s.files.map (unlinkAll entry.transientId)

/-- The entry of `id` is gone, and its file name. -/
def without (s : Shelf) (id : Hash32) : Shelf :=
  { s with
    entries := s.entries.erase id
    filenames := s.filenames.erase id }

variable (P : Platform)

def apply (s : Shelf) : ShelfOp → Shelf
  | .file entry nowMs =>
      { entries := s.entries.insert entry.transientId entry
        filenames :=
          s.filenames.insert entry.transientId (entry.filename P)
        processed := s.processed.insert entry.transientId (nowS nowMs)
        files := s.files.map fun files =>
          Function.update files (entry.filename P) (some entry.lxmData) }
  | .drop id =>
      match s.entries.lookup id with
      | some entry =>
          { s.without id with files := s.unlinkEntry entry }
      | none => s.without id
  | .forget id => s.without id
  | .expire nowMs =>
      { s with
        processed := (cleanTransientCache s.processed (nowS nowMs)).2 }

/-- A list of operations, in order. -/
def run (s : Shelf) (ops : List ShelfOp) : Shelf := ops.foldl (apply P) s

/-- The entries of a batch that are filed where `seen` says what ids are
known: of each new id the first. -/
def fresh (seen : Hash32 → Bool) :
    List PropagationEntry → List PropagationEntry
  | [] => []
  | entry :: entries =>
      if seen entry.transientId then fresh seen entries
      else entry :: fresh
        (fun id => decide (id = entry.transientId) || seen id) entries

/-- A batch of entries, each filed unless its id was seen. -/
def receive (s : Shelf) (nowMs : Nat) (entries : List PropagationEntry) :
    Shelf :=
  s.run P ((fresh s.seen entries).map fun entry => .file entry nowMs)

end Shelf

/-- What the router keeps of propagated messages. -/
def LxmfRouter.shelf {σ : Type} (r : LxmfRouter σ) : Shelf where
  entries := r.propagationStore.entries
  filenames := r.propagationStore.filenames
  processed := r.locallyProcessed
  files := r.persistenceRoot.map Disk.files

-- ================================================== batches of entries

namespace Shelf

section Batches

variable {P : Platform}

@[simp] theorem run_nil (s : Shelf) : s.run P [] = s := rfl

@[simp] theorem run_cons (s : Shelf) (op : ShelfOp) (ops : List ShelfOp) :
    s.run P (op :: ops) = (s.apply P op).run P ops := rfl

theorem run_append (s : Shelf) (ops ops' : List ShelfOp) :
    s.run P (ops ++ ops') = (s.run P ops).run P ops' :=
  List.foldl_append

/-- A list of operations, all of them allowed, leads from one shelf to
the other. -/
def Runs (P : Platform) (allowed : ShelfOp → Prop) (s s' : Shelf) : Prop :=
  ∃ ops : List ShelfOp, (∀ op ∈ ops, allowed op) ∧ s' = s.run P ops

theorem Runs.refl {allowed : ShelfOp → Prop} (s : Shelf) :
    Runs P allowed s s := by
  refine ⟨[], ?_, rfl⟩
  intro op hop
  cases hop

theorem Runs.one {allowed : ShelfOp → Prop} (s : Shelf) {op : ShelfOp}
    (h : allowed op) : Runs P allowed s (s.apply P op) := by
  refine ⟨[op], ?_, rfl⟩
  intro op' hop'
  rw [List.mem_singleton.mp hop']
  exact h

theorem Runs.trans {allowed : ShelfOp → Prop} {s s' s'' : Shelf}
    (h : Runs P allowed s s') (h' : Runs P allowed s' s'') :
    Runs P allowed s s'' := by
  obtain ⟨ops, hops, rfl⟩ := h
  obtain ⟨ops', hops', rfl⟩ := h'
  refine ⟨ops ++ ops', ?_, (run_append s ops ops').symm⟩
  intro op hop
  rcases List.mem_append.mp hop with hleft | hright
  · exact hops op hleft
  · exact hops' op hright

theorem Runs.mono {allowed allowed' : ShelfOp → Prop} {s s' : Shelf}
    (h : Runs P allowed s s') (hle : ∀ op, allowed op → allowed' op) :
    Runs P allowed' s s' := by
  obtain ⟨ops, hops, heq⟩ := h
  exact ⟨ops, fun op hop => hle op (hops op hop), heq⟩

/-- What an allowed operation keeps, a run of them keeps. -/
theorem Runs.invariant {allowed : ShelfOp → Prop} {s s' : Shelf}
    {Inv : Shelf → Prop} (h : Runs P allowed s s') (hs : Inv s)
    (hstep : ∀ s op, Inv s → allowed op → Inv (s.apply P op)) :
    Inv s' := by
  obtain ⟨ops, hops, rfl⟩ := h
  induction ops generalizing s with
  | nil => exact hs
  | cons op ops ih =>
      rw [run_cons]
      refine ih (hstep s op hs (hops op List.mem_cons_self)) ?_
      intro op' hop'
      exact hops op' (List.mem_cons_of_mem op hop')

theorem seen_file (s : Shelf) (entry : PropagationEntry) (nowMs : Nat) :
    (s.apply P (.file entry nowMs)).seen
      = fun id => decide (id = entry.transientId) || s.seen id := by
  funext id
  simp only [seen, apply, AList.mem_insert, Bool.decide_or]
  cases decide (id = entry.transientId) with
  | true => rfl
  | false => simp

/-- A batch, entry by entry. -/
theorem receive_cons (s : Shelf) (nowMs : Nat) (entry : PropagationEntry)
    (entries : List PropagationEntry) :
    s.receive P nowMs (entry :: entries)
      = (if s.seen entry.transientId then s
          else s.apply P (.file entry nowMs)).receive P nowMs entries := by
  unfold receive
  rw [fresh]
  split
  case isTrue => rfl
  case isFalse =>
    rw [List.map_cons, run_cons, seen_file]

@[simp] theorem receive_nil (s : Shelf) (nowMs : Nat) :
    s.receive P nowMs [] = s := rfl

theorem receive_append (s : Shelf) (nowMs : Nat)
    (entries entries' : List PropagationEntry) :
    s.receive P nowMs (entries ++ entries')
      = (s.receive P nowMs entries).receive P nowMs entries' := by
  induction entries generalizing s with
  | nil => rfl
  | cons entry entries ih =>
      rw [List.cons_append, receive_cons, receive_cons, ih]

theorem mem_fresh {seen : Hash32 → Bool} {entries : List PropagationEntry}
    {entry : PropagationEntry} (h : entry ∈ fresh seen entries) :
    entry ∈ entries ∧ seen entry.transientId = false := by
  induction entries generalizing seen with
  | nil => cases h
  | cons first entries ih =>
      rw [fresh] at h
      split at h
      case isTrue =>
        obtain ⟨hmem, hnew⟩ := ih h
        exact ⟨List.mem_cons_of_mem first hmem, hnew⟩
      case isFalse hfirst =>
        rcases List.mem_cons.mp h with heq | hrest
        · subst heq
          exact ⟨List.mem_cons_self, Bool.eq_false_iff.mpr hfirst⟩
        · obtain ⟨hmem, hnew⟩ := ih hrest
          exact ⟨List.mem_cons_of_mem first hmem,
            (Bool.or_eq_false_iff.mp hnew).2⟩

/-- Of every new id in a batch an entry is filed. -/
theorem exists_fresh {seen : Hash32 → Bool}
    {entries : List PropagationEntry} {entry : PropagationEntry}
    (hmem : entry ∈ entries) (hnew : seen entry.transientId = false) :
    ∃ filed ∈ fresh seen entries,
      filed.transientId = entry.transientId := by
  induction entries generalizing seen with
  | nil => cases hmem
  | cons first entries ih =>
      rw [fresh]
      by_cases hid : entry.transientId = first.transientId
      · rw [if_neg (by rw [← hid, hnew]; exact Bool.false_ne_true)]
        exact ⟨first, List.mem_cons_self, hid.symm⟩
      · have hrest : entry ∈ entries := by
          rcases List.mem_cons.mp hmem with heq | hrest
          · exact absurd (congrArg _ heq) hid
          · exact hrest
        split
        case isTrue => exact ih hrest hnew
        case isFalse =>
          obtain ⟨filed, hfiled, heq⟩ := @ih
            (fun id => decide (id = first.transientId) || seen id) hrest
            (by rw [hnew, decide_eq_false hid]; rfl)
          exact ⟨filed, List.mem_cons_of_mem first hfiled, heq⟩

-- ---------------------------------------------- what is on the shelf

theorem mem_run_files (s : Shelf) (nowMs : Nat)
    (entries : List PropagationEntry) (id : Hash32) :
    id ∈ (s.run P (entries.map fun e => .file e nowMs)).entries
      ↔ id ∈ s.entries ∨ ∃ e ∈ entries, e.transientId = id := by
  induction entries generalizing s with
  | nil => simp
  | cons entry entries ih =>
      have hfile : id ∈ (s.apply P (.file entry nowMs)).entries
          ↔ id = entry.transientId ∨ id ∈ s.entries :=
        AList.mem_insert s.entries
      rw [List.map_cons, run_cons, ih, hfile]
      constructor
      · intro hor
        rcases hor with (rfl | hold) | ⟨e, he, rfl⟩
        · exact .inr ⟨entry, List.mem_cons_self, rfl⟩
        · exact .inl hold
        · exact .inr ⟨e, List.mem_cons_of_mem entry he, rfl⟩
      · intro hor
        rcases hor with hold | ⟨e, he, rfl⟩
        · exact .inl (.inr hold)
        · rcases List.mem_cons.mp he with heq | hrest
          · rw [heq]
            exact .inl (.inl rfl)
          · exact .inr ⟨e, hrest, rfl⟩

/-- A batch adds something exactly when one of its ids is new. -/
theorem receive_adds_iff (s : Shelf) (nowMs : Nat)
    (entries : List PropagationEntry) :
    (∃ id, id ∈ (s.receive P nowMs entries).entries ∧ id ∉ s.entries)
      ↔ ∃ e ∈ entries, s.seen e.transientId = false := by
  constructor
  · rintro ⟨id, hafter, hbefore⟩
    rcases (mem_run_files s nowMs _ id).mp hafter with hold | hnew
    · exact absurd hold hbefore
    · obtain ⟨e, he, _⟩ := hnew
      exact ⟨e, mem_fresh he⟩
  · rintro ⟨e, he, hnew⟩
    obtain ⟨filed, hfiled, hid⟩ := exists_fresh he hnew
    refine ⟨e.transientId, ?_, ?_⟩
    · exact (mem_run_files s nowMs _ _).mpr (.inr ⟨filed, hfiled, hid⟩)
    · intro hold
      unfold seen at hnew
      rw [decide_eq_true hold] at hnew
      cases hnew

/-- A batch leaves alone what was seen before. -/
theorem lookup_receive_of_seen {s : Shelf} {id : Hash32}
    (h : s.seen id = true) (nowMs : Nat)
    (entries : List PropagationEntry) :
    (s.receive P nowMs entries).entries.lookup id
      = s.entries.lookup id := by
  induction entries generalizing s with
  | nil => rfl
  | cons first entries ih =>
      rw [receive_cons]
      split
      case isTrue => exact ih h
      case isFalse hfirst =>
        have hid : id ≠ first.transientId := by
          intro heq
          rw [heq] at h
          exact hfirst h
        rw [ih (by rw [seen_file]; simp [h])]
        exact AList.lookup_insert_ne hid

/-- What is filed of a batch is found under its id. -/
theorem lookup_receive_of_fresh {s : Shelf} {entry : PropagationEntry}
    (nowMs : Nat) {entries : List PropagationEntry}
    (h : entry ∈ fresh s.seen entries) :
    (s.receive P nowMs entries).entries.lookup entry.transientId
      = some entry := by
  induction entries generalizing s with
  | nil => cases h
  | cons first entries ih =>
      rw [receive_cons]
      rw [fresh] at h
      split at h
      case isTrue hseen =>
        rw [if_pos hseen]
        exact ih h
      case isFalse hseen =>
        rw [if_neg hseen]
        rcases List.mem_cons.mp h with heq | hrest
        · subst heq
          rw [lookup_receive_of_seen (by rw [seen_file]; simp)]
          exact AList.lookup_insert s.entries
        · rw [← seen_file (P := P) s first nowMs] at hrest
          exact ih hrest

/-- What is found after a batch was there before, or is filed of it. -/
theorem lookup_receive_cases {s : Shelf} {nowMs : Nat}
    {entries : List PropagationEntry} {id : Hash32}
    {entry : PropagationEntry}
    (h : (s.receive P nowMs entries).entries.lookup id = some entry) :
    s.entries.lookup id = some entry
      ∨ id ∉ s.entries ∧ entry ∈ fresh s.seen entries := by
  by_cases hseen : s.seen id = true
  · rw [lookup_receive_of_seen hseen] at h
    exact .inl h
  · have hout : id ∉ s.entries := by
      intro hold
      unfold seen at hseen
      rw [decide_eq_true hold] at hseen
      exact hseen rfl
    have hmem : id ∈ (s.receive P nowMs entries).entries :=
      HashMap.mem_iff_lookup.mpr ⟨_, h⟩
    rcases (mem_run_files s nowMs _ id).mp hmem with hold | hnew
    · exact absurd hold hout
    · obtain ⟨filed, hfiled, hid⟩ := hnew
      rw [← hid, lookup_receive_of_fresh nowMs hfiled] at h
      injection h with h
      rw [← h]
      exact .inr ⟨hout, hfiled⟩

/-- What is left after a removal was there before. -/
theorem lookup_of_removes {s : Shelf} {op : ShelfOp} (hop : op.Removes)
    {id : Hash32} {entry : PropagationEntry}
    (h : (s.apply P op).entries.lookup id = some entry) :
    s.entries.lookup id = some entry := by
  have hwithout : ∀ t, (s.without t).entries.lookup id = some entry →
      s.entries.lookup id = some entry := by
    intro t ht
    rw [without] at ht
    exact (HashMap.lookup_of_lookup_erase ht).2
  cases op with
  | file e nowMs => cases hop
  | drop t =>
      simp only [apply] at h
      split at h
      case h_1 => exact hwithout t h
      case h_2 => exact hwithout t h
  | forget t => exact hwithout t h
  | expire nowMs => exact h

theorem Runs.lookup {s s' : Shelf} (h : Runs P ShelfOp.Removes s s')
    {id : Hash32} {entry : PropagationEntry}
    (hentry : s'.entries.lookup id = some entry) :
    s.entries.lookup id = some entry := by
  obtain ⟨ops, hops, rfl⟩ := h
  induction ops generalizing s with
  | nil => exact hentry
  | cons op ops ih =>
      have hrest := ih (s := s.apply P op)
        (fun op' hop' => hops op' (List.mem_cons_of_mem op hop')) hentry
      exact lookup_of_removes (hops op List.mem_cons_self) hrest

/-- Dropped ids are off the shelf, and nothing else. -/
theorem mem_run_drops (s : Shelf) (ids : List Hash32) (id : Hash32) :
    id ∈ (s.run P (ids.map ShelfOp.drop)).entries
      ↔ id ∈ s.entries ∧ id ∉ ids := by
  induction ids generalizing s with
  | nil => simp
  | cons first ids ih =>
      have hdrop : id ∈ (s.apply P (.drop first)).entries
          ↔ id ≠ first ∧ id ∈ s.entries := by
        simp only [apply]
        split
        case h_1 => exact AList.mem_erase
        case h_2 => exact AList.mem_erase
      rw [List.map_cons, run_cons, ih, hdrop, List.mem_cons]
      tauto

theorem processed_of_removes {s : Shelf} {op : ShelfOp} (hop : op.Removes)
    {id : Hash32} (h : id ∈ (s.apply P op).processed) :
    id ∈ s.processed := by
  cases op with
  | file e nowMs => cases hop
  | drop t =>
      simp only [apply] at h
      split at h
      case h_1 => exact h
      case h_2 => exact h
  | forget t => exact h
  | expire nowMs => exact HashMap.mem_of_mem_retain h

end Batches

end Shelf

-- ============================================================ the disk

namespace Disk

variable {P : Platform}

theorem propagationPath_injective : Function.Injective propagationPath := by
  intro a b h
  unfold propagationPath at h
  have hlist := congrArg String.toList h
  rw [String.toList_append, String.toList_append] at hlist
  exact String.toList_injective (List.append_cancel_left hlist)

/-- No file outside the propagation directory is one of its files. -/
theorem propagationPath_ne {path : String}
    (h : path.toList.take 2 ≠ ['p', 'r']) (name : String) :
    propagationPath name ≠ path := by
  intro heq
  rw [← heq] at h
  unfold propagationPath at h
  rw [String.toList_append] at h
  exact h rfl

theorem files_insert_of_ne {path : String}
    (h : path.toList.take 2 ≠ ['p', 'r']) (disk : Disk) (data : Bytes) :
    files (disk.insert path data) = files disk := by
  funext name
  exact AList.lookup_insert_ne (propagationPath_ne h name)

theorem files_erase_of_ne {path : String}
    (h : path.toList.take 2 ≠ ['p', 'r']) (disk : Disk) :
    files (disk.erase path) = files disk := by
  funext name
  exact AList.lookup_erase_ne (propagationPath_ne h name)

theorem files_saveValue {path : String}
    (h : path.toList.take 2 ≠ ['p', 'r']) (value : Value) (disk : Disk) :
    files (saveValue P path value disk) = files disk := by
  unfold saveValue
  split
  case h_1 buf _ => exact files_insert_of_ne h disk buf
  case h_2 => rfl

theorem files_savePropagationEntry (entry : PropagationEntry)
    (disk : Disk) :
    files (savePropagationEntry P entry disk)
      = Function.update (files disk) (entry.filename P)
        (some entry.lxmData) := by
  funext name
  unfold savePropagationEntry files
  by_cases hname : name = entry.filename P
  · subst hname
    rw [AList.lookup_insert, Function.update_self]
  · rw [AList.lookup_insert_ne fun h => hname (propagationPath_injective h),
      Function.update_of_ne hname]

theorem files_removePropagationEntryNamed (filename : String)
    (disk : Disk) :
    files (removePropagationEntryNamed filename disk)
      = Shelf.unlink filename (files disk) := by
  funext name
  unfold removePropagationEntryNamed files Shelf.unlink
  by_cases hname : name = filename
  · subst hname
    rw [AList.lookup_erase, Function.update_self]
  · rw [AList.lookup_erase_ne fun h => hname (propagationPath_injective h),
      Function.update_of_ne hname]

/-- Of a disk without some paths. -/
theorem lookup_erases (disk : Disk) (paths : List String) (path : String) :
    (paths.foldl (fun d path => d.erase path) disk).lookup path
      = if path ∈ paths then none else disk.lookup path := by
  induction paths generalizing disk with
  | nil => rfl
  | cons first paths ih =>
      rw [List.foldl_cons, ih]
      by_cases hpath : path = first
      · subst hpath
        rw [AList.lookup_erase]
        simp
      · rw [AList.lookup_erase_ne hpath]
        simp [hpath]

theorem files_removePropagationEntry (id : Hash32) (disk : Disk) :
    files (removePropagationEntry id disk)
      = Shelf.unlinkAll id (files disk) := by
  funext name
  unfold removePropagationEntry files Shelf.unlinkAll
  dsimp only
  rw [lookup_erases]
  simp only [List.mem_filter, propagationPath, String.toList_append,
    List.isPrefixOf_iff_prefix, List.prefix_append_right_inj]
  by_cases hstart : (hexEncode id.toList).toList ++ "_".toList
      <+: name.toList
  · rw [if_pos hstart]
    split
    case isTrue => rfl
    case isFalse hmem =>
      -- a path that is no key has no file
      refine AList.lookup_eq_none.mpr fun hkey => hmem ⟨?_, hstart⟩
      exact hkey
  · rw [if_neg hstart, if_neg fun h => hstart h.2]

end Disk

-- ============================================== one equation a handler

namespace LxmfRouter

variable {σ : Type} {P : Platform}

/-- A write elsewhere below the root leaves the shelf alone. -/
theorem persist_shelf (r : LxmfRouter σ) {f : Disk → Disk}
    (h : ∀ disk, Disk.files (f disk) = Disk.files disk) :
    (r.persist f).shelf = r.shelf := by
  unfold persist shelf
  dsimp only
  rw [Option.map_map]
  congr 2
  funext disk
  exact h disk

theorem saveLocalCaches_shelf (r : LxmfRouter σ) :
    (r.saveLocalCaches P).shelf = r.shelf := by
  refine persist_shelf r fun disk => ?_
  unfold Disk.saveLocallyProcessed Disk.saveLocalDeliveries
  rw [Disk.files_saveValue (by decide), Disk.files_saveValue (by decide)]

theorem fileEntry_shelf (r : LxmfRouter σ) (entry : PropagationEntry)
    (nowMs : Nat) :
    (r.fileEntry P entry nowMs).shelf
      = r.shelf.apply P (.file entry nowMs) := by
  unfold fileEntry markLocallyProcessed
  dsimp only
  rw [saveLocalCaches_shelf]
  unfold shelf persistPropagationEntry persist Shelf.apply
  dsimp only
  rw [Option.map_map, Option.map_map]
  congr 2
  funext disk
  exact Disk.files_savePropagationEntry entry disk

theorem removePropagationEntryExact_shelf (r : LxmfRouter σ)
    (entry : PropagationEntry) :
    (r.removePropagationEntryExact entry).shelf
      = { r.shelf with files := r.shelf.unlinkEntry entry } := by
  unfold removePropagationEntryExact Shelf.unlinkEntry
    PropagationStore.filename
  unfold shelf
  dsimp only
  cases r.propagationStore.filenames.lookup entry.transientId with
  | some name =>
      unfold persist
      dsimp only
      rw [Option.map_map, Option.map_map]
      congr 2
      funext disk
      exact Disk.files_removePropagationEntryNamed name disk
  | none =>
      unfold persist
      dsimp only
      rw [Option.map_map, Option.map_map]
      congr 2
      funext disk
      exact Disk.files_removePropagationEntry entry.transientId disk

theorem removeEntry_shelf (r : LxmfRouter σ) (id : Hash32) :
    (r.removeEntry id).shelf = r.shelf.apply P (.drop id) := by
  have hexact := removePropagationEntryExact_shelf r
  unfold removeEntry Shelf.apply PropagationStore.get
  unfold shelf at hexact ⊢
  dsimp only
  cases r.propagationStore.entries.lookup id with
  | some entry =>
      have h := hexact entry
      injection h with hentries hfilenames hprocessed hfiles
      unfold Shelf.without PropagationStore.remove
      dsimp only
      rw [hentries, hfilenames, hprocessed, hfiles]
  | none => rfl

theorem removeEntries_shelf (r : LxmfRouter σ) (ids : List Hash32) :
    (ids.foldl removeEntry r).shelf
      = r.shelf.run P (ids.map ShelfOp.drop) := by
  induction ids generalizing r with
  | nil => rfl
  | cons id ids ih =>
      rw [List.foldl_cons, ih, removeEntry_shelf (P := P), List.map_cons,
        Shelf.run_cons]

-- ------------------------------------------------------- the ways in

theorem fileUnseen_shelf (r : LxmfRouter σ) (entry : PropagationEntry)
    (nowMs : Nat) :
    (if r.seen entry.transientId then r
      else r.fileEntry P entry nowMs).shelf
      = r.shelf.receive P nowMs [entry] := by
  rw [Shelf.receive_cons, Shelf.receive_nil]
  show _ = if r.seen entry.transientId then r.shelf
    else r.shelf.apply P (.file entry nowMs)
  split
  case isTrue => rfl
  case isFalse => exact fileEntry_shelf r entry nowMs

theorem processPropagated_shelf (r : LxmfRouter σ) (timestamp : F64)
    (lxmData : Bytes) (nowMs : Nat) (sourceHash : Option Hash16)
    (countClientReceive : Bool) :
    (r.processPropagated P timestamp lxmData nowMs sourceHash
      countClientReceive).2.shelf
      = r.shelf.receive P nowMs (stampChecked P r.minStampCost
        (propagatedEntry P timestamp lxmData)).toList := by
  unfold processPropagated
  cases stampChecked P r.minStampCost
    (propagatedEntry P timestamp lxmData) with
  | none => rfl
  | some entry =>
      rw [Option.toList_some, ← fileUnseen_shelf]
      dsimp only
      split
      case isTrue => rfl
      case isFalse => rw [fileEntry_shelf, fileEntry_shelf]; rfl

theorem processPropagated_minStampCost (r : LxmfRouter σ)
    (timestamp : F64) (lxmData : Bytes) (nowMs : Nat)
    (sourceHash : Option Hash16) (countClientReceive : Bool) :
    (r.processPropagated P timestamp lxmData nowMs sourceHash
      countClientReceive).2.minStampCost = r.minStampCost := by
  obtain ⟨_, _, _, _, h⟩ := processPropagated_eq (P := P) r timestamp
    lxmData nowMs sourceHash countClientReceive
  rw [h]
  rfl

/-- The entries of a propagation resource that pass the stamp check. -/
def resourceEntries (P : Platform) (minCost : Option Nat)
    (messages : List Bytes) (nowMs : Nat) : List PropagationEntry :=
  messages.filterMap fun msg =>
    stampChecked P minCost (propagatedEntry P (nowS nowMs) msg)

theorem processMessages_shelf (r : LxmfRouter σ)
    (remoteHash : Option Hash16) (nowMs : Nat) (messages : List Bytes) :
    (r.processMessages P remoteHash nowMs messages).2.shelf
      = r.shelf.receive P nowMs
        (resourceEntries P r.minStampCost messages nowMs) := by
  induction messages generalizing r with
  | nil => rfl
  | cons msg messages ih =>
      have hcons : resourceEntries P r.minStampCost (msg :: messages) nowMs
          = (stampChecked P r.minStampCost
              (propagatedEntry P (nowS nowMs) msg)).toList
            ++ resourceEntries P r.minStampCost messages nowMs := by
        unfold resourceEntries
        rw [List.filterMap_cons]
        cases stampChecked P r.minStampCost
          (propagatedEntry P (nowS nowMs) msg) with
        | none => rfl
        | some entry => rfl
      unfold processMessages
      dsimp only
      rw [ih, processPropagated_minStampCost, processPropagated_shelf,
        hcons, Shelf.receive_append]

/-- The checks before the messages of a propagation resource. -/
def resourceAccepted (P : Platform) (r : LxmfRouter σ)
    (remoteHash : Option Hash16) (peeringKey : Option Bytes)
    (messages : List Bytes) (transferLimitKb : Option F64) : Prop :=
  messages ≠ [] ∧ r.resourceAllowed remoteHash = true
    ∧ ¬ (1 < messages.length ∧ remoteHash = none)
    ∧ withinTransferLimit messages transferLimitKb = true
    ∧ r.resourceKeyFailure P remoteHash peeringKey messages = none

instance decidableResourceAccepted (P : Platform) (r : LxmfRouter σ)
    (remoteHash : Option Hash16) (peeringKey : Option Bytes)
    (messages : List Bytes) (transferLimitKb : Option F64) :
    Decidable (resourceAccepted P r remoteHash peeringKey messages
      transferLimitKb) :=
  inferInstanceAs (Decidable (_ ∧ _ ∧ _ ∧ _ ∧ _))

theorem processPropagationResource_shelf (r : LxmfRouter σ)
    (remoteHash : Option Hash16) (peeringKey : Option Bytes)
    (messages : List Bytes) (transferLimitKb : Option F64) (nowMs : Nat) :
    (r.processPropagationResource P remoteHash peeringKey messages
      transferLimitKb nowMs).2.shelf
      = r.shelf.receive P nowMs
        (if resourceAccepted P r remoteHash peeringKey messages
            transferLimitKb then
          resourceEntries P r.minStampCost messages nowMs
        else []) := by
  unfold processPropagationResource
  split
  case isTrue hempty =>
    rw [if_neg fun h => h.1 (List.isEmpty_iff.mp hempty)]
    rfl
  case isFalse hempty =>
    split
    case isTrue hallowed =>
      rw [if_neg fun h => by rw [h.2.1] at hallowed; cases hallowed]
      rfl
    case isFalse hallowed =>
      split
      case isTrue hmany =>
        rw [if_neg fun h => h.2.2.1 hmany]
        rfl
      case isFalse hmany =>
        split
        case isTrue hlimit =>
          rw [if_neg fun h => by rw [h.2.2.2.1] at hlimit; cases hlimit]
          rfl
        case isFalse hlimit =>
          split
          case h_1 peerId hkey =>
            rw [if_neg fun h => by rw [h.2.2.2.2] at hkey; cases hkey]
            rfl
          case h_2 hkey =>
            rw [if_pos ⟨fun h => hempty (by rw [h]; rfl),
              by simpa using hallowed, hmany, by simpa using hlimit,
              hkey⟩]
            exact processMessages_shelf r remoteHash nowMs messages

/-- The entry an item of a payload holds, past the stamp check. -/
def itemEntry (P : Platform) (minCost : Option Nat) (item : Bytes) :
    Option PropagationEntry :=
  match PropagationEntry.fromBytes P item with
  | .ok entry => stampChecked P minCost entry
  | .error _ => none

/-- The entries a payload brings. -/
def payloadEntries (P : Platform) (minCost : Option Nat) :
    PeerSyncResponse → List PropagationEntry
  | .payload items => items.filterMap (itemEntry P minCost)
  | _ => []

theorem applyItem_shelf (minCost : Option Nat) (nowMs : Nat)
    (acc : PayloadTally × LxmfRouter σ) (item : Bytes) :
    (applyItem P minCost nowMs acc item).2.shelf
      = acc.2.shelf.receive P nowMs (itemEntry P minCost item).toList := by
  unfold applyItem itemEntry
  dsimp only
  cases PropagationEntry.fromBytes P item with
  | error e => rfl
  | ok sent =>
      dsimp only
      cases stampChecked P minCost sent with
      | none => rfl
      | some entry => exact fileUnseen_shelf acc.2 entry nowMs

theorem applyItems_shelf (r : LxmfRouter σ) (response : PeerSyncResponse)
    (nowMs : Nat) :
    (r.applyItems P response nowMs).2.shelf
      = r.shelf.receive P nowMs
        (payloadEntries P r.minStampCost response) := by
  cases response with
  | error code => rfl
  | bool flag => rfl
  | idList ids => rfl
  | payload items =>
      suffices ∀ acc : PayloadTally × LxmfRouter σ,
          (items.foldl (applyItem P r.minStampCost nowMs) acc).2.shelf
            = acc.2.shelf.receive P nowMs
              (items.filterMap (itemEntry P r.minStampCost)) from
        this ({}, r)
      induction items with
      | nil => exact fun acc => rfl
      | cons item items ih =>
          intro acc
          rw [List.foldl_cons, ih, applyItem_shelf, ← Shelf.receive_append,
            List.filterMap_cons]
          cases itemEntry P r.minStampCost item with
          | none => rfl
          | some entry => rfl

theorem applyPeerSyncPayload_shelf (r : LxmfRouter σ) (peerId : Hash16)
    (response : PeerSyncResponse) (nowMs : Nat) :
    (r.applyPeerSyncPayload P peerId response nowMs).2.shelf
      = r.shelf.receive P nowMs
        (payloadEntries P r.minStampCost response) :=
  applyItems_shelf r response nowMs

-- ------------------------------------------------------ the ways out

theorem handlePeerSyncAck_shelf (r : LxmfRouter σ) (peerId : Hash16)
    (req : PeerSyncRequest) (nowMs : Nat) :
    (r.handlePeerSyncAck peerId req nowMs).2.shelf
      = r.shelf.run P ((acknowledged req).map ShelfOp.drop) := by
  cases req with
  | messageAck delivered => exact removeEntries_shelf r delivered
  | offer key available => rfl
  | messageGetList => rfl
  | messageGet wants haves limit => rfl

/-- Cleaning drops every expired entry, and some others. -/
theorem cleanPropagationStore_shelf (r : LxmfRouter σ) (nowMs : Nat) :
    ∃ ids : List Hash32,
      (r.cleanPropagationStore nowMs).2.shelf
        = r.shelf.run P (ids.map ShelfOp.drop)
      ∧ ∀ id entry, r.shelf.entries.lookup id = some entry →
        expiredEntry (nowS nowMs) entry = true → id ∈ ids := by
  obtain ⟨ids, hids, hexpired⟩ := cleanPropagationStore_drops r nowMs
  refine ⟨ids, ?_, hexpired⟩
  rw [hids]
  exact removeEntries_shelf r ids

/-- The ids `cleanup_propagation` removes. -/
def outdatedIds (r : LxmfRouter σ) (nowMs maxAgeMs : Nat) : List Hash32 :=
  (r.propagationStore.entries.entries.filter fun e =>
    ((e.2.timestamp.max (.fin 0)).mul (.fin 1000)).toU64
      ≤ nowMs - maxAgeMs).map (·.1)

theorem cleanupPropagation_shelf (r : LxmfRouter σ)
    (nowMs maxAgeMs : Nat) :
    (r.cleanupPropagation nowMs maxAgeMs).2.shelf
      = r.shelf.run P ((r.outdatedIds nowMs maxAgeMs).map
        ShelfOp.forget) := by
  have hforget (ids : List Hash32) (store : PropagationStore) :
      LxmfRouter.shelf { r with
          propagationStore := ids.foldl PropagationStore.forget store }
        = Shelf.run P (LxmfRouter.shelf { r with propagationStore := store })
          (ids.map ShelfOp.forget) := by
    induction ids generalizing store with
    | nil => rfl
    | cons id ids ih =>
        rw [List.foldl_cons, ih]
        rfl
  exact hforget (r.outdatedIds nowMs maxAgeMs) r.propagationStore

theorem cleanTransientIdCaches_shelf (r : LxmfRouter σ) (nowMs : Nat) :
    (r.cleanTransientIdCaches P nowMs).2.shelf
      = r.shelf.apply P (.expire nowMs) := by
  unfold cleanTransientIdCaches
  dsimp only
  split
  case isTrue => exact saveLocalCaches_shelf _
  case isFalse => rfl

end LxmfRouter

end Lxmf
