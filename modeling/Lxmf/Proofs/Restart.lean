/-
What a restart finds: the propagation store in memory and the files it
would be read back from.

# Agreement

`Agrees` ties each entry to the file the store remembers for it, and
each file that reads as an entry to an entry that is there. Filing and
dropping keep it; they change both sides. `cleanup_propagation` changes
memory alone: the files of what it removes stay, and a restart brings
the messages back.

# One file for each id

A directory may come with two files of one id. The store remembers one
of them, and when the message goes the other stays. Nothing of the
router makes such a directory, so that it had none at the start is
assumed.
-/
import Lxmf.Library.Run
import Lxmf.Proofs.Numerals
import Lxmf.Proofs.ShelfEvents
import Lxmf.Router.Restart

namespace Lxmf

/-- What is to survive a restart of an entry: id, data and time. -/
def PropagationEntry.message (entry : PropagationEntry) :
    Hash32 × Bytes × F64 :=
  (entry.transientId, entry.lxmData, entry.timestamp)

/-- The messages of a store with a finite positive time. -/
def PropagationStore.messages (s : PropagationStore) :
    Set (Hash32 × Bytes × F64) :=
  { m | ∃ id entry, s.get id = some entry
      ∧ entry.timestamp.positive = true ∧ entry.message = m }

-- ========================================================= one directory

section Directory

variable {P : Platform}

/-- The file of this name reads as the entry. -/
def Loads (P : Platform) (files : String → Option Bytes) (name : String)
    (entry : PropagationEntry) : Prop :=
  ∃ data value, files name = some data
    ∧ Disk.loadPropagationEntry P name data = some (entry, value)

/-- No two files read as entries of one id. -/
def OneFilePerId (P : Platform) (files : String → Option Bytes) : Prop :=
  ∀ name name' entry entry', Loads P files name entry →
    Loads P files name' entry' →
    entry.transientId = entry'.transientId → name = name'

/-- What a file reads as has its data, the id of its name and a positive
time. -/
theorem loadPropagationEntry_spec {name : String} {data : Bytes}
    {entry : PropagationEntry} {value : Nat}
    (h : Disk.loadPropagationEntry P name data = some (entry, value)) :
    entry.lxmData = data ∧ filenameId name = some entry.transientId
      ∧ entry.timestamp.positive = true := by
  unfold Disk.loadPropagationEntry at h
  split at h
  case h_1 => cases h
  case h_2 transientId timestamp stampValue hparse =>
    dsimp only at h
    split at h
    case h_1 =>
      split at h
      case isFalse => cases h
      case isTrue =>
        injection h with h
        injection h with h _
        rw [← h]
        exact ⟨rfl, filenameId_of_parse hparse⟩
    case h_2 =>
      split at h
      case isFalse => cases h
      case isTrue =>
        injection h with h
        injection h with h _
        rw [← h]
        exact ⟨rfl, filenameId_of_parse hparse⟩

/-- The file written for an entry reads as it, if its time is one that is
read back. -/
theorem loadPropagationEntry_filename {entry : PropagationEntry}
    (h : entry.timestamp.IsDouble) :
    (Disk.loadPropagationEntry P (entry.filename P) entry.lxmData).map
        (·.1.message)
      = if entry.timestamp.positive then some entry.message else none := by
  unfold Disk.loadPropagationEntry
  rw [parse_filename P h]
  cases hpositive : entry.timestamp.positive with
  | false => rfl
  | true =>
      simp only [if_true]
      rw [if_pos (by rfl)]
      rfl

theorem mem_propagationFiles {disk : Disk} {name : String} {data : Bytes} :
    (name, data) ∈ disk.propagationFiles ↔ disk.files name = some data := by
  unfold Disk.propagationFiles Disk.files
  rw [List.mem_filterMap]
  have hpath : Disk.propagationPath "" = "propagation/" := rfl
  constructor
  · rintro ⟨⟨path, data'⟩, hfile, hread⟩
    split at hread
    case isFalse => cases hread
    case isTrue hstart =>
      injection hread with hread
      injection hread with hname hdata
      obtain ⟨rest, hrest⟩ := List.isPrefixOf_iff_prefix.mp hstart
      dsimp only at hname hdata hrest
      rw [← hrest, List.drop_left] at hname
      have hsame : Disk.propagationPath (String.ofList rest) = path := by
        refine String.toList_injective ?_
        rw [← hrest, hpath]
        unfold Disk.propagationPath
        simp only [String.toList_append, String.toList_ofList]
      rw [← hdata, ← hname, hsame]
      exact AList.mem_lookup_iff.mpr hfile
  · intro hfile
    refine ⟨⟨Disk.propagationPath name, data⟩,
      AList.mem_lookup_iff.mp hfile, ?_⟩
    have htext : (Disk.propagationPath name).toList
        = (Disk.propagationPath "").toList ++ name.toList := by
      rw [hpath]
      unfold Disk.propagationPath
      rw [String.toList_append]
    dsimp only
    rw [htext, if_pos (List.isPrefixOf_iff_prefix.mpr
      (List.prefix_append _ _)), List.drop_left, String.ofList_toList]

-- ----------------------------------------------------------- the loop

/-- Every entry of the loop's store is read from one of the files, whose
name is remembered. -/
theorem loadFiles_lookup {fs : List (String × Bytes)} {disk : Disk}
    {id : Hash32} {entry : PropagationEntry}
    (h : (fs.foldl (Disk.loadPropagationFile P)
      (.new, disk)).1.entries.lookup id = some entry) :
    entry.transientId = id ∧ ∃ name data value, (name, data) ∈ fs
      ∧ Disk.loadPropagationEntry P name data = some (entry, value)
      ∧ (fs.foldl (Disk.loadPropagationFile P)
        (.new, disk)).1.filenames.lookup id = some name := by
  induction fs using List.reverseRecOn with
  | nil => cases h
  | append_singleton fs file ih =>
      rw [List.foldl_append, List.foldl_cons, List.foldl_nil] at h ⊢
      generalize fs.foldl (Disk.loadPropagationFile P) (.new, disk) = acc
        at h ih ⊢
      have hbefore : acc.1.entries.lookup id = some entry →
          entry.transientId = id ∧ ∃ name data value,
            (name, data) ∈ fs ++ [file]
            ∧ Disk.loadPropagationEntry P name data = some (entry, value)
            ∧ acc.1.filenames.lookup id = some name := by
        intro hold
        obtain ⟨hid, name, data, value, hmem, hload, hname⟩ := ih hold
        exact ⟨hid, name, data, value, List.mem_append_left _ hmem, hload,
          hname⟩
      unfold Disk.loadPropagationFile at h ⊢
      cases hload : Disk.loadPropagationEntry P file.1 file.2 with
      | none =>
          rw [hload] at h
          exact hbefore h
      | some loaded =>
          rw [hload] at h
          dsimp only [PropagationStore.insertWithStampValueAndFilename]
            at h ⊢
          by_cases hid : id = loaded.1.transientId
          · subst hid
            rw [AList.lookup_insert] at h ⊢
            injection h with h
            rw [← h]
            exact ⟨rfl, file.1, file.2, loaded.2,
              List.mem_append_right fs List.mem_cons_self, hload, rfl⟩
          · rw [AList.lookup_insert_ne hid] at h ⊢
            exact hbefore h

/-- Every file that reads as an entry leaves one under its id. -/
theorem mem_loadFiles {fs : List (String × Bytes)} {name : String}
    {data : Bytes} {entry : PropagationEntry} {value : Nat}
    (hmem : (name, data) ∈ fs)
    (hload : Disk.loadPropagationEntry P name data = some (entry, value))
    (acc : PropagationStore × Disk) :
    entry.transientId
      ∈ (fs.foldl (Disk.loadPropagationFile P) acc).1.entries := by
  induction fs using List.reverseRecOn with
  | nil => cases hmem
  | append_singleton fs file ih =>
      rw [List.foldl_append, List.foldl_cons, List.foldl_nil]
      generalize fs.foldl (Disk.loadPropagationFile P) acc = acc' at ih ⊢
      unfold Disk.loadPropagationFile
      rcases List.mem_append.mp hmem with hearlier | hlast
      · split
        case h_1 => exact (AList.mem_insert _).mpr (.inr (ih hearlier))
        case h_2 => exact ih hearlier
      · rw [← List.mem_singleton.mp hlast, hload]
        exact (AList.mem_insert _).mpr (.inl rfl)

/-- The loop deletes files that read as no entry. -/
theorem loadFiles_files {fs : List (String × Bytes)} {name : String}
    (h : ∀ data, (name, data) ∈ fs →
      Disk.loadPropagationEntry P name data ≠ none)
    (acc : PropagationStore × Disk) :
    (fs.foldl (Disk.loadPropagationFile P) acc).2.files name
      = acc.2.files name := by
  induction fs generalizing acc with
  | nil => rfl
  | cons file fs ih =>
      rw [List.foldl_cons, ih fun data hmem => h data
        (List.mem_cons_of_mem file hmem)]
      unfold Disk.loadPropagationFile
      split
      case h_1 => rfl
      case h_2 hnone =>
        have hname : name ≠ file.1 := by
          rintro rfl
          exact h file.2 List.mem_cons_self hnone
        rw [Disk.files_removePropagationEntryNamed, Shelf.unlink,
          Function.update_of_ne hname]

theorem loadFiles_files_sub {fs : List (String × Bytes)} {name : String}
    {data : Bytes} (acc : PropagationStore × Disk)
    (h : (fs.foldl (Disk.loadPropagationFile P) acc).2.files name
      = some data) : acc.2.files name = some data := by
  induction fs generalizing acc with
  | nil => exact h
  | cons file fs ih =>
      have hrest := ih _ h
      unfold Disk.loadPropagationFile at hrest
      split at hrest
      case h_1 => exact hrest
      case h_2 =>
        rw [Disk.files_removePropagationEntryNamed] at hrest
        unfold Shelf.unlink at hrest
        by_cases hname : name = file.1
        · rw [hname, Function.update_self] at hrest
          cases hrest
        · rw [Function.update_of_ne hname] at hrest
          exact hrest

-- ------------------------------------------------------ the whole store

theorem loadPropagationStore_lookup {disk : Disk} {id : Hash32}
    {entry : PropagationEntry}
    (h : (disk.loadPropagationStore P).1.entries.lookup id = some entry) :
    entry.transientId = id ∧ ∃ name, Loads P disk.files name entry
      ∧ (disk.loadPropagationStore P).1.filenames.lookup id
        = some name := by
  obtain ⟨hid, name, data, value, hmem, hload, hname⟩ := loadFiles_lookup h
  exact ⟨hid, name, ⟨data, value, mem_propagationFiles.mp hmem, hload⟩,
    hname⟩

theorem mem_loadPropagationStore {disk : Disk} {name : String}
    {entry : PropagationEntry} (h : Loads P disk.files name entry) :
    entry.transientId ∈ (disk.loadPropagationStore P).1.entries := by
  obtain ⟨data, value, hfile, hload⟩ := h
  exact mem_loadFiles (mem_propagationFiles.mpr hfile) hload _

/-- Reading the directory changes nothing in what it reads as. -/
theorem loads_loadPropagationStore {disk : Disk} {name : String}
    {entry : PropagationEntry} :
    Loads P (disk.loadPropagationStore P).2.files name entry
      ↔ Loads P disk.files name entry := by
  constructor
  · rintro ⟨data, value, hfile, hload⟩
    exact ⟨data, value, loadFiles_files_sub _ hfile, hload⟩
  · rintro ⟨data, value, hfile, hload⟩
    refine ⟨data, value, (loadFiles_files ?_ _).trans hfile, hload⟩
    intro data' hmem hnone
    have hsame := (mem_propagationFiles.mp hmem).symm.trans hfile
    injection hsame with hsame
    rw [hsame, hload] at hnone
    cases hnone

/-- The messages read are those of the files. -/
theorem mem_messages_load {disk : Disk}
    (hone : OneFilePerId P disk.files) {m : Hash32 × Bytes × F64} :
    m ∈ (disk.loadPropagationStore P).1.messages
      ↔ ∃ name entry, Loads P disk.files name entry
        ∧ entry.message = m := by
  constructor
  · rintro ⟨id, entry, hentry, _, hm⟩
    obtain ⟨_, name, hloads, _⟩ := loadPropagationStore_lookup hentry
    exact ⟨name, entry, hloads, hm⟩
  · rintro ⟨name, entry, hloads, hm⟩
    obtain ⟨found, hfound⟩ := HashMap.mem_iff_lookup.mp
      (mem_loadPropagationStore hloads)
    obtain ⟨hid, name', hloads', _⟩ := loadPropagationStore_lookup hfound
    -- the entry under the id is read from the only file of the id
    have hname := hone name name' entry found hloads hloads' hid.symm
    subst hname
    obtain ⟨data, value, hfile, hload⟩ := hloads
    obtain ⟨data', value', hfile', hload'⟩ := hloads'
    have hdata := hfile.symm.trans hfile'
    injection hdata with hdata
    subst hdata
    have hsame := hload.symm.trans hload'
    injection hsame with hsame
    injection hsame with hsame _
    subst hsame
    exact ⟨_, entry, hfound, (loadPropagationEntry_spec hload).2.2, hm⟩

end Directory

-- =========================================================== agreement

namespace Shelf

section Agreement

variable {P : Platform} {files : String → Option Bytes} {s : Shelf}

/-- The file of the entry under `id`: it is named after the id, has the
entry's data and reads as the entry if the time is read back. -/
structure Filed (P : Platform) (files : String → Option Bytes)
    (id : Hash32) (entry : PropagationEntry) (name : String) : Prop where
  own : entry.transientId = id
  named : filenameId name = some id
  data : files name = some entry.lxmData
  loads : (Disk.loadPropagationEntry P name entry.lxmData).map
      (·.1.message)
    = if entry.timestamp.positive then some entry.message else none

/-- Every entry has the file the store remembers, and every file that
reads as an entry is one of these. -/
structure AgreesWith (P : Platform) (files : String → Option Bytes)
    (s : Shelf) : Prop where
  root : s.files = some files
  stored : ∀ id entry, s.entries.lookup id = some entry →
    ∃ name, s.filenames.lookup id = some name
      ∧ Filed P files id entry name
  loaded : ∀ name entry, Loads P files name entry →
    entry.transientId ∈ s.entries
      ∧ s.filenames.lookup entry.transientId = some name

def Agrees (P : Platform) (s : Shelf) : Prop :=
  ∃ files, s.AgreesWith P files

theorem AgreesWith.oneFilePerId (h : s.AgreesWith P files) :
    OneFilePerId P files := by
  intro name name' entry entry' hloads hloads' hid
  have hname := (h.loaded name entry hloads).2
  rw [hid, (h.loaded name' entry' hloads').2] at hname
  injection hname with hname
  exact hname.symm

/-- The messages on the shelf are those the files read as. -/
theorem AgreesWith.message_iff (h : s.AgreesWith P files)
    {m : Hash32 × Bytes × F64} :
    (∃ id entry, s.entries.lookup id = some entry
        ∧ entry.timestamp.positive = true ∧ entry.message = m)
      ↔ ∃ name entry, Loads P files name entry ∧ entry.message = m := by
  constructor
  · rintro ⟨id, entry, hentry, hpositive, hm⟩
    obtain ⟨name, _, hfiled⟩ := h.stored id entry hentry
    have hloads := hfiled.loads
    rw [if_pos hpositive] at hloads
    obtain ⟨loaded, hload, hmessage⟩ := Option.map_eq_some_iff.mp hloads
    exact ⟨name, loaded.1, ⟨_, loaded.2, hfiled.data, hload⟩,
      hmessage.trans hm⟩
  · rintro ⟨name, entry, hloads, hm⟩
    obtain ⟨hmem, hname⟩ := h.loaded name entry hloads
    obtain ⟨found, hfound⟩ := HashMap.mem_iff_lookup.mp hmem
    obtain ⟨name', hname', hfiled⟩ := h.stored _ found hfound
    rw [hname] at hname'
    injection hname' with hname'
    subst hname'
    obtain ⟨data, value, hfile, hload⟩ := hloads
    have hdata := hfiled.data.symm.trans hfile
    injection hdata with hdata
    have hmessage := hfiled.loads
    rw [hdata, hload] at hmessage
    split at hmessage
    case isFalse => cases hmessage
    case isTrue hpositive =>
      injection hmessage with hmessage
      exact ⟨_, found, hfound, hpositive, hmessage.symm.trans hm⟩

-- --------------------------------------------------- the operations

/-- A new entry and the file written for it. -/
theorem AgreesWith.file (h : s.AgreesWith P files)
    {entry : PropagationEntry} (hnew : entry.transientId ∉ s.entries)
    (hdouble : entry.timestamp.IsDouble) (nowMs : Nat) :
    (s.apply P (.file entry nowMs)).AgreesWith P
      (Function.update files (entry.filename P) (some entry.lxmData)) := by
  refine ⟨?_, ?_, ?_⟩
  · simp only [apply]
    rw [h.root]
    rfl
  · intro id found hfound
    simp only [apply] at hfound ⊢
    by_cases hid : id = entry.transientId
    · subst hid
      rw [AList.lookup_insert] at hfound ⊢
      injection hfound with hfound
      subst hfound
      refine ⟨_, rfl, rfl, filenameId_filename P entry, ?_, ?_⟩
      · exact Function.update_self ..
      · exact loadPropagationEntry_filename hdouble
    · rw [AList.lookup_insert_ne hid] at hfound ⊢
      obtain ⟨name, hname, hfiled⟩ := h.stored id found hfound
      refine ⟨name, hname, hfiled.own, hfiled.named, ?_, hfiled.loads⟩
      rw [Function.update_of_ne, hfiled.data]
      rintro rfl
      have hsame := hfiled.named
      rw [filenameId_filename] at hsame
      injection hsame with hsame
      exact hid hsame.symm
  · rintro name found ⟨data, value, hfile, hload⟩
    simp only [apply]
    by_cases hname : name = entry.filename P
    · subst hname
      have hsame := (loadPropagationEntry_spec hload).2.1
      rw [filenameId_filename] at hsame
      injection hsame with hsame
      rw [← hsame, AList.lookup_insert]
      exact ⟨(AList.mem_insert _).mpr (.inl rfl), rfl⟩
    · rw [Function.update_of_ne hname] at hfile
      obtain ⟨hmem, hfilename⟩ := h.loaded name found
        ⟨data, value, hfile, hload⟩
      have hid : found.transientId ≠ entry.transientId := by
        intro hid
        rw [hid] at hmem
        exact hnew hmem
      rw [AList.lookup_insert_ne hid]
      exact ⟨(AList.mem_insert _).mpr (.inr hmem), hfilename⟩

/-- An entry that goes, with a directory that keeps the files of others
and has none left that reads as one of its id. -/
theorem AgreesWith.without (h : s.AgreesWith P files) {id : Hash32}
    {files' : String → Option Bytes}
    (hkept : ∀ name, filenameId name ≠ some id → files' name = files name)
    (hgone : ∀ name entry, Loads P files' name entry →
      entry.transientId ≠ id) :
    ({ s.without id with files := some files' } : Shelf).AgreesWith P
      files' := by
  refine ⟨rfl, ?_, ?_⟩
  · intro id' entry hentry
    simp only [Shelf.without] at hentry ⊢
    have hid : id' ≠ id := (HashMap.lookup_of_lookup_erase hentry).1
    rw [AList.lookup_erase_ne hid] at hentry ⊢
    obtain ⟨name, hname, hfiled⟩ := h.stored id' entry hentry
    refine ⟨name, hname, hfiled.own, hfiled.named, ?_, hfiled.loads⟩
    rw [hkept name, hfiled.data]
    rw [hfiled.named]
    intro hsame
    injection hsame with hsame
    exact hid hsame
  · intro name entry hloads
    have hid := hgone name entry hloads
    obtain ⟨data, value, hfile, hload⟩ := hloads
    rw [hkept name] at hfile
    · obtain ⟨hmem, hname⟩ := h.loaded name entry
        ⟨data, value, hfile, hload⟩
      simp only [Shelf.without]
      rw [AList.lookup_erase_ne hid]
      exact ⟨AList.mem_erase.mpr ⟨hid, hmem⟩, hname⟩
    · rw [(loadPropagationEntry_spec hload).2.1]
      intro hsame
      injection hsame with hsame
      exact hid hsame

/-- An id dropped, with its file. -/
theorem AgreesWith.drop (h : s.AgreesWith P files) (id : Hash32) :
    (s.apply P (.drop id)).Agrees P := by
  simp only [apply]
  cases hentry : s.entries.lookup id with
  | none =>
      have hgone (name : String) (entry : PropagationEntry)
          (hloads : Loads P files name entry) : entry.transientId ≠ id := by
        rintro rfl
        exact AList.lookup_eq_none.mp hentry (h.loaded name entry hloads).1
      have hwithout := h.without (fun _ _ => rfl) hgone
      rw [← h.root] at hwithout
      exact ⟨files, hwithout⟩
  | some entry =>
      obtain ⟨name, hname, hfiled⟩ := h.stored id entry hentry
      have hunlink : s.unlinkEntry entry = some (unlink name files) := by
        unfold unlinkEntry
        rw [hfiled.own, hname, h.root]
        rfl
      dsimp only
      rw [hunlink]
      refine ⟨_, h.without ?_ ?_⟩
      · intro name' hnamed
        have hne : name' ≠ name := by
          rintro rfl
          exact hnamed hfiled.named
        rw [unlink, Function.update_of_ne hne]
      · rintro name' entry' ⟨data, value, hfile, hload⟩ hid
        unfold unlink at hfile
        by_cases hsame : name' = name
        · rw [hsame, Function.update_self] at hfile
          cases hfile
        · rw [Function.update_of_ne hsame] at hfile
          have hname' := (h.loaded name' entry'
            ⟨data, value, hfile, hload⟩).2
          rw [hid, hname] at hname'
          injection hname' with hname'
          exact hsame hname'.symm

/-- An id forgotten whose time is not read back. -/
theorem AgreesWith.forget (h : s.AgreesWith P files) {id : Hash32}
    (hid : ∀ entry, s.entries.lookup id = some entry →
      entry.timestamp.positive = false) :
    (s.apply P (.forget id)).AgreesWith P files := by
  have hgone (name : String) (entry : PropagationEntry)
      (hloads : Loads P files name entry) : entry.transientId ≠ id := by
    rintro rfl
    obtain ⟨id', found, hfound, hpositive, hmessage⟩ :=
      h.message_iff.mpr ⟨name, entry, hloads, rfl⟩
    have hsame : id' = entry.transientId := by
      obtain ⟨_, _, hfiled⟩ := h.stored id' found hfound
      rw [← hfiled.own]
      exact congrArg Prod.fst hmessage
    rw [hsame] at hfound
    rw [hid found hfound] at hpositive
    cases hpositive
  have hwithout := h.without (fun _ _ => rfl) hgone
  rw [← h.root] at hwithout
  exact hwithout

-- ------------------------------------------------------- runs of them

theorem Agrees.receive (h : s.Agrees P) {entries : List PropagationEntry}
    (hdouble : ∀ entry ∈ entries, entry.timestamp.IsDouble) (nowMs : Nat) :
    (s.receive P nowMs entries).Agrees P := by
  induction entries generalizing s with
  | nil => exact h
  | cons entry entries ih =>
      rw [receive_cons]
      refine ih ?_ fun e he => hdouble e (List.mem_cons_of_mem entry he)
      split
      case isTrue => exact h
      case isFalse hseen =>
        obtain ⟨files, h⟩ := h
        refine ⟨_, h.file ?_ (hdouble entry List.mem_cons_self) nowMs⟩
        intro hmem
        refine hseen ?_
        unfold seen
        rw [decide_eq_true hmem]
        rfl

theorem Agrees.drops (h : s.Agrees P) {s' : Shelf}
    (hdrops : Runs P ShelfOp.Drops s s') : s'.Agrees P := by
  refine hdrops.invariant h fun s op hs hop => ?_
  obtain ⟨files, hs⟩ := hs
  cases op with
  | file entry nowMs => cases hop
  | drop id => exact hs.drop id
  | forget id => cases hop
  | expire nowMs => exact ⟨files, hs.root, hs.stored, hs.loaded⟩

theorem AgreesWith.forgets (h : s.AgreesWith P files) {ids : List Hash32}
    (hids : ∀ id ∈ ids, ∀ entry, s.entries.lookup id = some entry →
      entry.timestamp.positive = false) :
    (s.run P (ids.map ShelfOp.forget)).AgreesWith P files := by
  induction ids generalizing s with
  | nil => exact h
  | cons id ids ih =>
      rw [List.map_cons, run_cons]
      refine ih (h.forget (hids id List.mem_cons_self)) ?_
      intro id' hid' entry hentry
      have hremoves : ShelfOp.Removes (.forget id) := trivial
      exact hids id' (List.mem_cons_of_mem id hid') entry
        (lookup_of_removes hremoves hentry)

/-- Forgotten ids are off the shelf; the files stay. -/
theorem run_forgets (s : Shelf) (ids : List Hash32) :
    (s.run P (ids.map ShelfOp.forget)).files = s.files
      ∧ ∀ id entry, (s.run P (ids.map ShelfOp.forget)).entries.lookup id
          = some entry → id ∉ ids ∧ s.entries.lookup id = some entry := by
  induction ids generalizing s with
  | nil => exact ⟨rfl, fun id entry h => ⟨List.not_mem_nil, h⟩⟩
  | cons first ids ih =>
      rw [List.map_cons, run_cons]
      obtain ⟨hfiles, hentries⟩ := ih (s.apply P (.forget first))
      refine ⟨hfiles, ?_⟩
      intro id entry h
      obtain ⟨hids, hbefore⟩ := hentries id entry h
      have hne : id ≠ first :=
        (HashMap.lookup_of_lookup_erase hbefore).1
      have hremoves : ShelfOp.Removes (.forget first) := trivial
      exact ⟨List.not_mem_cons_of_ne_of_not_mem hne hids,
        lookup_of_removes hremoves hbefore⟩

end Agreement

end Shelf

-- =========================================================== the router

namespace LxmfRouter

section Restarting

variable {σ : Type} {P : Platform}

/-- A restart would find the messages that are in memory. -/
def MatchesDisk (P : Platform) (r : LxmfRouter σ) : Prop :=
  ∃ disk, r.persistenceRoot = some disk
    ∧ r.propagationStore.messages
      = (disk.loadPropagationStore P).1.messages

/-- Every time an event brings is the value of a double. -/
def TimesAreDoubles (P : Platform) (r : LxmfRouter σ) (e : RouterEvent) :
    Prop :=
  ∀ entry ∈ eventEntries P r e, entry.timestamp.IsDouble

/-- No message with a finite positive time is removed from memory
alone. -/
def ForgetsNoMessage (r : LxmfRouter σ) (e : RouterEvent) : Prop :=
  ∀ id ∈ r.eventForgets e, ∀ entry,
    r.propagationStore.get id = some entry →
    entry.timestamp.positive = false

theorem agreesWith_disk {r : LxmfRouter σ}
    {files : String → Option Bytes} (h : r.shelf.AgreesWith P files) :
    ∃ disk, r.persistenceRoot = some disk ∧ disk.files = files :=
  Option.map_eq_some_iff.mp h.root

theorem matchesDisk_of_agrees {r : LxmfRouter σ} (h : r.shelf.Agrees P) :
    r.MatchesDisk P := by
  obtain ⟨files, h⟩ := h
  obtain ⟨disk, hroot, rfl⟩ := agreesWith_disk h
  refine ⟨disk, hroot, ?_⟩
  ext m
  rw [mem_messages_load h.oneFilePerId]
  exact h.message_iff

theorem eventForgets_cases (r : LxmfRouter σ) (e : RouterEvent) :
    r.eventForgets e = []
      ∨ ∃ nowMs maxAgeMs, e = .cleanupPropagation nowMs maxAgeMs := by
  cases e with
  | cleanupPropagation nowMs maxAgeMs => exact .inr ⟨_, _, rfl⟩
  | _ => exact .inl rfl

variable [MessageStore σ]

theorem handle_agrees {r : LxmfRouter σ} (h : r.shelf.Agrees P)
    {e : RouterEvent} (htimes : TimesAreDoubles P r e)
    (hforgets : r.ForgetsNoMessage e) : (r.handle P e).shelf.Agrees P := by
  rcases eventForgets_cases r e with hnone | hcleanup
  · obtain ⟨s, hdrops, hshelf⟩ := handle_drops P r e
    rw [hnone] at hshelf
    rw [hshelf]
    exact (h.receive htimes e.nowMs).drops hdrops
  · obtain ⟨nowMs, maxAgeMs, rfl⟩ := hcleanup
    obtain ⟨files, h⟩ := h
    refine ⟨files, ?_⟩
    simp only [handle]
    rw [cleanupPropagation_shelf (P := P)]
    exact h.forgets hforgets

/-- A message removed from memory alone is found again. -/
theorem forgetsNoMessage_of_matchesDisk {r : LxmfRouter σ}
    (h : r.shelf.Agrees P) {e : RouterEvent}
    (hmatches : (r.handle P e).MatchesDisk P) : r.ForgetsNoMessage e := by
  intro id hid entry hentry
  rcases eventForgets_cases r e with hnone | hcleanup
  · rw [hnone] at hid
    cases hid
  · obtain ⟨nowMs, maxAgeMs, rfl⟩ := hcleanup
    obtain ⟨files, h⟩ := h
    obtain ⟨disk, hroot, hmessages⟩ := hmatches
    simp only [handle] at hroot hmessages
    have hshelf := cleanupPropagation_shelf (P := P) r nowMs maxAgeMs
    obtain ⟨hfiles, hentries⟩ := Shelf.run_forgets (P := P) r.shelf
      (r.outdatedIds nowMs maxAgeMs)
    rw [← hshelf] at hfiles hentries
    -- the directory is the one that agreed with memory before
    have hdisk : disk.files = files := by
      have hafter : (r.cleanupPropagation nowMs maxAgeMs).2.shelf.files
          = some disk.files := by
        unfold shelf
        rw [hroot]
        rfl
      rw [hfiles, h.root] at hafter
      injection hafter with hafter
      exact hafter.symm
    refine Bool.eq_false_iff.mpr fun hpositive => ?_
    have hloads := h.message_iff.mp ⟨id, entry, hentry, hpositive, rfl⟩
    rw [← hdisk] at hloads
    have hone : OneFilePerId P disk.files := by
      rw [hdisk]
      exact h.oneFilePerId
    have hfound := (mem_messages_load hone).mpr hloads
    rw [← hmessages] at hfound
    obtain ⟨id', entry', hentry', _, hmessage⟩ := hfound
    obtain ⟨hkept, hbefore⟩ := hentries id' entry' hentry'
    obtain ⟨_, _, hfiled⟩ := h.stored id entry hentry
    obtain ⟨_, _, hfiled'⟩ := h.stored id' entry' hbefore
    have hsame : id' = id := by
      rw [← hfiled.own, ← hfiled'.own]
      exact congrArg Prod.fst hmessage
    rw [hsame] at hkept
    exact hkept hid

-- ------------------------------------------------------- the start

omit [MessageStore σ] in
theorem cleanTickets_shelf (r : LxmfRouter σ) (nowMs : Nat) :
    (r.cleanTickets P nowMs).shelf = r.shelf := by
  refine (persist_shelf _ fun disk => ?_).trans rfl
  exact Disk.files_saveValue (by decide) _ disk

omit [MessageStore σ] in
theorem cleanOutboundStampCosts_shelf (r : LxmfRouter σ) (nowMs : Nat) :
    (r.cleanOutboundStampCosts P nowMs).2.shelf = r.shelf := by
  unfold cleanOutboundStampCosts
  dsimp only
  split
  case isTrue =>
    refine (persist_shelf _ fun disk => ?_).trans rfl
    exact Disk.files_saveValue (by decide) _ disk
  case isFalse => rfl

omit [MessageStore σ] in
/-- What was read agrees with the directory it was read from. -/
theorem restored_agrees (r : LxmfRouter σ) {disk : Disk}
    (hone : OneFilePerId P disk.files) :
    (r.restored P disk).shelf.Agrees P := by
  refine ⟨(disk.loadPropagationStore P).2.files, rfl, ?_, ?_⟩
  · intro id entry hentry
    obtain ⟨hid, name, hloads, hname⟩ := loadPropagationStore_lookup hentry
    obtain ⟨data, value, hfile, hload⟩ :=
      loads_loadPropagationStore.mpr hloads
    obtain ⟨hdata, hnamed, hpositive⟩ := loadPropagationEntry_spec hload
    rw [← hdata] at hfile hload
    refine ⟨name, hname, hid, hnamed.trans (congrArg some hid), hfile, ?_⟩
    rw [hload, if_pos hpositive]
    rfl
  · intro name entry hloads
    have hbefore := loads_loadPropagationStore.mp hloads
    have hmem := mem_loadPropagationStore hbefore
    refine ⟨hmem, ?_⟩
    obtain ⟨found, hfound⟩ := HashMap.mem_iff_lookup.mp hmem
    obtain ⟨hid, name', hloads', hname'⟩ :=
      loadPropagationStore_lookup hfound
    rw [hone name name' entry found hbefore hloads' hid.symm]
    exact hname'

/-- A router built over such a directory agrees with it. -/
theorem withStoreAndRoot_agrees (delivery : RnsOutbound) (store : σ)
    {disk : Disk} (config : RuntimeConfig) (systemNowMs nowMs : Nat)
    (hone : OneFilePerId P disk.files) :
    (withStoreAndRoot P delivery store disk config systemNowMs
      nowMs).shelf.Agrees P := by
  unfold withStoreAndRoot
  dsimp only
  have hrestored := restored_agrees (P := P)
    (withConfig (.withStore delivery store) config systemNowMs) hone
  generalize LxmfRouter.restored P
    (withConfig (.withStore delivery store) config systemNowMs) disk
      = r at hrestored ⊢
  rw [← cleanTickets_shelf (P := P) r nowMs] at hrestored
  generalize r.cleanTickets P nowMs = r at hrestored ⊢
  rw [← cleanOutboundStampCosts_shelf (P := P) r nowMs] at hrestored
  generalize (r.cleanOutboundStampCosts P nowMs).2 = r at hrestored ⊢
  have hcaches : (r.cleanTransientIdCaches P nowMs).2.shelf.Agrees P := by
    rw [cleanTransientIdCaches_shelf]
    have hexpire : ShelfOp.Drops (.expire nowMs) := trivial
    exact hrestored.drops (.one r.shelf hexpire)
  generalize (r.cleanTransientIdCaches P nowMs).2 = r at hcaches ⊢
  rw [saveLocalCaches_shelf]
  obtain ⟨ids, hids, _⟩ := cleanPropagationStore_shelf (P := P) r nowMs
  exact hcaches.drops (Sheds.drops hids)

end Restarting

-- ============================================================ whole runs

/-- In every run of a router built over a directory with at most one file
for each id, memory and disk match throughout exactly when no cleanup
removes a message from memory alone. -/
theorem matchesDisk_throughout_iff {σ : Type} [MessageStore σ]
    (P : Platform) (delivery : RnsOutbound) (store : σ) (disk : Disk)
    (config : RuntimeConfig) (systemNowMs nowMs : Nat)
    (hone : OneFilePerId P disk.files) (events : List RouterEvent)
    (htimes : ∀ done e, done ++ [e] <+: events →
      TimesAreDoubles P (done.foldl (handle P) (withStoreAndRoot P delivery
        store disk config systemNowMs nowMs)) e) :
    (∀ done, done <+: events →
      MatchesDisk P (done.foldl (handle P) (withStoreAndRoot P delivery
        store disk config systemNowMs nowMs)))
      ↔ ∀ done e, done ++ [e] <+: events →
        ForgetsNoMessage (done.foldl (handle P) (withStoreAndRoot P
          delivery store disk config systemNowMs nowMs)) e :=
  @Run.holds_throughout_iff (LxmfRouter σ) RouterEvent (handle P)
    ForgetsNoMessage (fun r => r.shelf.Agrees P) _ events
    (TimesAreDoubles P) (MatchesDisk P)
    (withStoreAndRoot_agrees delivery store config systemNowMs nowMs hone)
    (fun _ => matchesDisk_of_agrees)
    (fun _ _ h htimes hforgets => handle_agrees h htimes hforgets)
    (fun _ _ h _ => forgetsNoMessage_of_matchesDisk h) htimes

section RestartInstance

open Reference

def docFilename : String :=
  "1111111111111111111111111111111111111111111111111111111111111111_1_0"

/-- A directory with one message, of one second past the epoch. -/
def docDisk : Disk :=
  (∅ : Disk).insert (Disk.propagationPath docFilename) docData

theorem docDisk_oneFilePerId : OneFilePerId platform docDisk.files := by
  have hname (name : String) (entry : PropagationEntry)
      (h : Loads platform docDisk.files name entry) :
      Disk.propagationPath name = Disk.propagationPath docFilename := by
    obtain ⟨data, _, hfile, _⟩ := h
    by_contra hne
    unfold Disk.files docDisk at hfile
    rw [AList.lookup_insert_ne hne, AList.lookup_empty] at hfile
    cases hfile
  intro name name' entry entry' hloads hloads' _
  exact String.append_right_inj "propagation/" |>.mp
    ((hname name entry hloads).trans (hname name' entry' hloads').symm)

/-- The router built over it, one second past the epoch. -/
noncomputable def docRestart : LxmfRouter InMemoryStore :=
  withStoreAndRoot platform docOutbound ({} : InMemoryStore) docDisk {} 0
    1000

/-- A cleanup of what is older than that leaves memory and disk alike. -/
theorem matchesDisk_throughout_iff_doc :
    docRestart.propagationStore.has (List.Vector.replicate 32 0x11) = true
      ∧ MatchesDisk platform
        (docRestart.handle platform (.cleanupPropagation 500 0)) := by
  refine ⟨by decide +kernel, ?_⟩
  refine (matchesDisk_throughout_iff platform docOutbound
    ({} : InMemoryStore) docDisk {} 0 1000 docDisk_oneFilePerId
    [.cleanupPropagation 500 0] ?_).mpr ?_ _ (List.prefix_refl _)
  · intro done e hprefix entry hentry
    obtain ⟨rfl, rfl⟩ := Run.prefix_singleton hprefix
    cases hentry
  · intro done e hprefix id hid
    obtain ⟨rfl, rfl⟩ := Run.prefix_singleton hprefix
    have hnone : docRestart.outdatedIds 500 0 = [] := by decide +kernel
    have hmem : id ∈ docRestart.outdatedIds 500 0 := hid
    rw [hnone] at hmem
    cases hmem

/-- A cleanup of all leaves the file, and a restart brings the message
back. -/
theorem docRestart_resurrects :
    ¬ ∀ (disk : Disk) (events : List RouterEvent),
      OneFilePerId platform disk.files →
      ∀ done, done <+: events →
        MatchesDisk platform (done.foldl (handle platform)
          (withStoreAndRoot platform docOutbound ({} : InMemoryStore) disk
            {} 0 1000)) := by
  intro h
  have hmatches : MatchesDisk platform
      (docRestart.handle platform (.cleanupPropagation 1000 0)) :=
    h docDisk [.cleanupPropagation 1000 0] docDisk_oneFilePerId
      [.cleanupPropagation 1000 0] (List.prefix_refl _)
  have hforgets := forgetsNoMessage_of_matchesDisk
    (withStoreAndRoot_agrees docOutbound ({} : InMemoryStore) {} 0 1000
      docDisk_oneFilePerId) hmatches
  have hid : List.Vector.replicate 32 0x11
      ∈ docRestart.outdatedIds 1000 0 := by decide +kernel
  have hstored : (docRestart.propagationStore.get
      (List.Vector.replicate 32 0x11)).any (·.timestamp.positive)
        = true := by decide +kernel
  obtain ⟨entry, hentry, hpositive⟩ := (Option.any_eq_true _ _).mp hstored
  exact Bool.false_ne_true
    ((hforgets _ hid entry hentry).symm.trans hpositive)

end RestartInstance

end LxmfRouter

end Lxmf
