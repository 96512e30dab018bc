/-
What is left of a peer that was written and read back, by either codec.

# The record below the root

`save_peer` writes fifteen fields and `load_peers` fills the rest as for
a new peer (`stored`). The numbers go through an `i64` and are read back
only where they are not negative, so the record is exact as long as
every field fits (`Fits`).

# The directory

A record is read whatever the name of its file, so what is loaded under
an id could come from any file. Saving and removing keep one file for
each peer of a table, under the name of its id, and no other
(`PeersDirectory`): the names are those of the ids, because the base 64
of two ids differs.

# The bytes

`from_bytes` looks each key up in the map `to_bytes` wrote. Every key
occurs once at most, so a lookup passes the entries before it one by
one, those that may be absent too (`getValue_optionalEntry`).
-/
import Lxmf.PeerBytes
import Lxmf.Proofs.Tables

namespace Lxmf

-- ============================================================= the record

theorem valueToOptU64_ofNat {n : Nat} (h : n < 2 ^ 63) :
    valueToOptU64 (.ofNat n) = some n := by
  unfold valueToOptU64
  rw [asI64_ofNat_of_lt h, Option.bind_eq_bind, Option.bind_some,
    if_pos (Int.natCast_nonneg n), Int.toNat_natCast]

/-- Every state has a number of its own. -/
theorem peerStateFromU8_toNat (state : PeerState) :
    (Integer.ofU64AsI64 state.toNat).asU64.bind peerStateFromU8
      = some state := by
  cases state <;> decide

namespace Peer

/-- Every 64-bit field is below `2 ^ 63` and every 32-bit field within
its type. -/
structure Fits (p : Peer) : Prop where
  lastSyncMs : p.lastSyncMs < 2 ^ 63
  lastAttemptMs : p.lastAttemptMs < 2 ^ 63
  nextSyncMs : p.nextSyncMs < 2 ^ 63
  backoffMs : p.backoffMs < 2 ^ 63
  lastHeardMs : p.lastHeardMs < 2 ^ 63
  rxBytes : p.rxBytes < 2 ^ 63
  txBytes : p.txBytes < 2 ^ 63
  messagesOffered : p.messagesOffered < 2 ^ 63
  messagesOutgoing : p.messagesOutgoing < 2 ^ 63
  messagesIncoming : p.messagesIncoming < 2 ^ 63
  messagesUnhandled : p.messagesUnhandled < 2 ^ 63
  peeringTimebase : p.peeringTimebase < 2 ^ 63
  propagationSyncLimit : ∀ n ∈ p.propagationSyncLimit, n < 2 ^ 63
  failures : p.failures ≤ u32Max
  peeringKeyValue : ∀ n ∈ p.peeringKeyValue, n < 2 ^ 32
  peeringCost : ∀ n ∈ p.peeringCost, n < 2 ^ 32
  propagationStampCost : ∀ n ∈ p.propagationStampCost, n < 2 ^ 32
  propagationStampCostFlexibility :
    ∀ n ∈ p.propagationStampCostFlexibility, n < 2 ^ 32

/-- A peer as its record is read back. -/
def stored (p : Peer) : Peer :=
  { Peer.new p.id 0 with
    state := p.state
    lastSyncMs := p.lastSyncMs
    lastAttemptMs := p.lastAttemptMs
    nextSyncMs := p.nextSyncMs
    backoffMs := p.backoffMs
    failures := p.failures
    lastHeardMs := p.lastHeardMs
    rxBytes := p.rxBytes
    txBytes := p.txBytes
    messagesOffered := p.messagesOffered
    messagesOutgoing := p.messagesOutgoing
    messagesIncoming := p.messagesIncoming
    messagesUnhandled := p.messagesUnhandled
    peeringKey := p.peeringKey }

/-- The one codec: what is written of a peer is read. -/
theorem peerFromValue_toValue {p : Peer} (h : p.Fits) :
    peerFromValue p.toValue = .ok p.stored := by
  have hfailures : p.failures < 2 ^ 63 :=
    lt_of_le_of_lt h.failures (by decide)
  unfold peerFromValue toValue
  simp only [readPeerState, assignedField, readableField,
    fieldValues_cons, String.reduceEq, if_true, if_false, fieldValues_nil,
    List.getLast?_singleton, Option.bind_some, List.filterMap_cons,
    List.filterMap_nil, valueToFixedBytes_binary, orMsgpack_some,
    Except.ok_bind]
  rw [valueToOptU64_ofNat h.lastSyncMs, valueToOptU64_ofNat h.lastAttemptMs,
    valueToOptU64_ofNat h.nextSyncMs, valueToOptU64_ofNat h.backoffMs,
    valueToOptU64_ofNat hfailures, valueToOptU64_ofNat h.lastHeardMs,
    valueToOptU64_ofNat h.rxBytes, valueToOptU64_ofNat h.txBytes,
    valueToOptU64_ofNat h.messagesOffered,
    valueToOptU64_ofNat h.messagesOutgoing,
    valueToOptU64_ofNat h.messagesIncoming,
    valueToOptU64_ofNat h.messagesUnhandled]
  simp only [Value.ofNat, List.getLast?_singleton, Option.bind_some,
    peerStateFromU8_toNat, if_pos h.failures]
  unfold stored
  -- the key is `Nil` where there is none
  cases p.peeringKey with
  | none => rfl
  | some key => rfl

/-- Whatever the numbers, the record is one of its peer. -/
theorem peerFromValue_toValue_id (p : Peer) :
    ∃ q, peerFromValue p.toValue = .ok q ∧ q.id = p.id := by
  unfold peerFromValue toValue
  simp only [readableField, fieldValues_cons, String.reduceEq, if_true,
    if_false, fieldValues_nil, List.getLast?_singleton,
    List.filterMap_cons, List.filterMap_nil, valueToFixedBytes_binary,
    orMsgpack_some, Except.ok_bind]
  exact ⟨_, rfl, rfl⟩

theorem stored_shouldSync (p : Peer) (nowMs : Nat) :
    p.stored.shouldSync nowMs = p.shouldSync nowMs := rfl

theorem stored_isAlive (p : Peer) : p.stored.isAlive = p.isAlive := rfl

end Peer

-- ========================================================= names of files

/-- The alphabet repeats no character. -/
theorem base64Char_inj {a b : Nat} (h : base64Char a = base64Char b) :
    a % 64 = b % 64 := by
  have hnodup : base64Alphabet.Nodup := by decide
  have hlength : base64Alphabet.length = 64 := by decide
  have ha : a % 64 < base64Alphabet.length := by omega
  have hb : b % 64 < base64Alphabet.length := by omega
  unfold base64Char at h
  rw [List.getD_eq_getElem?_getD, List.getD_eq_getElem?_getD,
    List.getElem?_eq_getElem ha, List.getElem?_eq_getElem hb] at h
  exact hnodup.getElem_inj_iff.mp h

/-- The bytes are told by their number, the number by its digits. -/
theorem base64UrlNoPad_inj {as bs : Bytes} (hlength : as.length = bs.length)
    (h : base64UrlNoPad as = base64UrlNoPad bs) : as = bs := by
  induction as using base64UrlNoPad.induct generalizing bs with
  | case1 a b c rest ih =>
      match bs with
      | x :: y :: z :: rest' =>
          simp only [base64UrlNoPad, List.cons.injEq] at h
          obtain ⟨h₁, h₂, h₃, h₄, hrest⟩ := h
          have h₁ := base64Char_inj h₁
          have h₂ := base64Char_inj h₂
          have h₃ := base64Char_inj h₃
          have h₄ := base64Char_inj h₄
          have hlen : rest.length = rest'.length := by simpa using hlength
          have := a.toNat_lt
          have := b.toNat_lt
          have := c.toNat_lt
          have := x.toNat_lt
          have := y.toNat_lt
          have := z.toNat_lt
          have ha : a.toNat = x.toNat := by omega
          have hb : b.toNat = y.toNat := by omega
          have hc : c.toNat = z.toNat := by omega
          rw [ih hlen hrest, UInt8.toNat_inj.mp ha, UInt8.toNat_inj.mp hb,
            UInt8.toNat_inj.mp hc]
  | case2 a b =>
      match bs with
      | [x, y] =>
          simp only [base64UrlNoPad, List.cons.injEq] at h
          obtain ⟨h₁, h₂, h₃, -⟩ := h
          have h₁ := base64Char_inj h₁
          have h₂ := base64Char_inj h₂
          have h₃ := base64Char_inj h₃
          have := a.toNat_lt
          have := b.toNat_lt
          have := x.toNat_lt
          have := y.toNat_lt
          have ha : a.toNat = x.toNat := by omega
          have hb : b.toNat = y.toNat := by omega
          rw [UInt8.toNat_inj.mp ha, UInt8.toNat_inj.mp hb]
  | case3 a =>
      match bs with
      | [x] =>
          simp only [base64UrlNoPad, List.cons.injEq] at h
          obtain ⟨h₁, h₂, -⟩ := h
          have h₁ := base64Char_inj h₁
          have h₂ := base64Char_inj h₂
          have := a.toNat_lt
          have := x.toNat_lt
          have ha : a.toNat = x.toNat := by omega
          rw [UInt8.toNat_inj.mp ha]
  | case4 => exact (List.length_eq_zero_iff.mp hlength.symm).symm

namespace Disk

/-- A file of the peers directory. -/
def peerFile (path : String) : Bool :=
  "peers/".toList.isPrefixOf path.toList

theorem peerFile_peerPath (id : Hash16) : peerFile (peerPath id) = true := by
  unfold peerFile peerPath
  rw [List.isPrefixOf_iff_prefix, String.toList_append]
  exact List.prefix_append _ _

/-- Two peers never share a file. -/
theorem peerPath_inj {id id' : Hash16} (h : peerPath id = peerPath id') :
    id = id' := by
  have hlist := congrArg String.toList h
  unfold peerPath at hlist
  rw [String.toList_append, String.toList_append] at hlist
  have hnames : base64UrlNoPad id.toList = base64UrlNoPad id'.toList := by
    simpa only [String.toList_ofList] using List.append_cancel_left hlist
  have hlength : id.toList.length = id'.toList.length := by
    rw [id.toList_length, id'.toList_length]
  exact List.Vector.toList_injective (base64UrlNoPad_inj hlength hnames)

-- ========================================================== the directory

variable {P : Platform}

/-- What `load_peers` makes of one file. -/
def loadPeerFile (P : Platform) (file : Sigma fun _ : String => Bytes) :
    Option Peer :=
  if peerFile file.1 then
    match P.readValue file.2 with
    | .ok value => (peerFromValue value).toOption
    | .error _ => none
  else none

theorem loadPeers_eq (disk : Disk) :
    disk.loadPeers P = (disk.entries.filterMap (loadPeerFile P)).foldl
      (fun t peer => t.insert peer.id peer) ∅ := rfl

/-- The peers directory holds the record of every peer of a table, under
the name of its id, and nothing else. -/
structure PeersDirectory (P : Platform) (t : PeerTable) (disk : Disk) :
    Prop where
  keyed : ∀ id p, t.lookup id = some p → p.id = id
  filed : ∀ id, (disk.lookup (peerPath id)).map P.readValue
    = (t.lookup id).map fun p => .ok p.toValue
  only : ∀ path data, peerFile path = true →
    disk.lookup path = some data → ∃ id, path = peerPath id

variable {t : PeerTable} {disk : Disk}

theorem PeersDirectory.empty : PeersDirectory P ∅ ∅ where
  keyed _ _ h := by cases h
  filed _ := rfl
  only _ _ _ h := by cases h

/-- A peer that is saved is in its file. -/
theorem PeersDirectory.savePeer (hP : RmpvCodec P)
    (h : PeersDirectory P t disk) (p : Peer) :
    PeersDirectory P (t.insert p.id p) (disk.savePeer P p) := by
  obtain ⟨buf, hbuf⟩ := hP.write_ok p.toValue
  have hsaved : disk.savePeer P p = disk.insert (peerPath p.id) buf := by
    unfold Disk.savePeer saveValue
    rw [hbuf]
  rw [hsaved]
  refine ⟨fun id q hq => ?_, fun id => ?_, fun path data hfile hdata => ?_⟩
  · by_cases hid : id = p.id
    · subst hid
      rw [AList.lookup_insert] at hq
      cases hq
      rfl
    · rw [AList.lookup_insert_ne hid] at hq
      exact h.keyed id q hq
  · by_cases hid : id = p.id
    · subst hid
      rw [AList.lookup_insert, AList.lookup_insert, Option.map_some,
        Option.map_some, hP.read_write _ _ hbuf]
    · have hpath : peerPath id ≠ peerPath p.id :=
        fun heq => hid (peerPath_inj heq)
      rw [AList.lookup_insert_ne hid, AList.lookup_insert_ne hpath]
      exact h.filed id
  · by_cases hpath : path = peerPath p.id
    · exact ⟨p.id, hpath⟩
    · rw [AList.lookup_insert_ne hpath] at hdata
      exact h.only path data hfile hdata

/-- A peer that is removed has no file. -/
theorem PeersDirectory.removePeer (h : PeersDirectory P t disk)
    (removed : Hash16) :
    PeersDirectory P (t.erase removed) (disk.removePeer removed) := by
  unfold Disk.removePeer
  refine ⟨fun id q hq => ?_, fun id => ?_, fun path data hfile hdata => ?_⟩
  · by_cases hid : id = removed
    · rw [hid, AList.lookup_erase] at hq
      cases hq
    · rw [AList.lookup_erase_ne hid] at hq
      exact h.keyed id q hq
  · by_cases hid : id = removed
    · rw [hid, AList.lookup_erase, AList.lookup_erase]
      rfl
    · have hpath : peerPath id ≠ peerPath removed :=
        fun heq => hid (peerPath_inj heq)
      rw [AList.lookup_erase_ne hid, AList.lookup_erase_ne hpath]
      exact h.filed id
  · by_cases hpath : path = peerPath removed
    · exact ⟨removed, hpath⟩
    · rw [AList.lookup_erase_ne hpath] at hdata
      exact h.only path data hfile hdata

/-- Another file is written or removed. -/
theorem PeersDirectory.congr (h : PeersDirectory P t disk) {disk' : Disk}
    (hsame : ∀ path, peerFile path = true →
      disk'.lookup path = disk.lookup path) :
    PeersDirectory P t disk' where
  keyed := h.keyed
  filed id := by
    rw [hsame _ (peerFile_peerPath id)]
    exact h.filed id
  only path data hfile hdata :=
    h.only path data hfile ((hsame path hfile).symm.trans hdata)

/-- The file under the name of an id decides what is loaded under it. -/
theorem PeersDirectory.loadPeers_lookup (h : PeersDirectory P t disk)
    (id : Hash16) :
    (disk.loadPeers P).lookup id
      = (t.lookup id).bind fun p => (peerFromValue p.toValue).toOption := by
  rw [loadPeers_eq]
  refine AList.lookup_foldl_insert_iff fun q => ⟨?_, ?_⟩
  · rintro ⟨hmem, hq⟩
    obtain ⟨⟨path, data⟩, hentry, hload⟩ := List.mem_filterMap.mp hmem
    have hdata : disk.lookup path = some data :=
      AList.mem_lookup_iff.mpr hentry
    unfold loadPeerFile at hload
    split at hload
    case isFalse => cases hload
    case isTrue hfile =>
      obtain ⟨id', rfl⟩ := h.only path data hfile hdata
      have hfiled := h.filed id'
      rw [hdata, Option.map_some] at hfiled
      obtain ⟨p, hp, hread⟩ := Option.map_eq_some_iff.mp hfiled.symm
      dsimp only at hload
      rw [← hread] at hload
      dsimp only at hload
      obtain ⟨q', hq', hid'⟩ := p.peerFromValue_toValue_id
      rw [hq'] at hload
      cases hload
      have hsame : id' = id := by
        rw [← h.keyed id' p hp, ← hid', hq]
      rw [← hsame, hp, Option.bind_some, hq']
      rfl
  · intro hfound
    obtain ⟨p, hp, hq⟩ := Option.bind_eq_some_iff.mp hfound
    have hfiled := h.filed id
    rw [hp, Option.map_some] at hfiled
    obtain ⟨data, hdata, hread⟩ := Option.map_eq_some_iff.mp hfiled
    obtain ⟨q', hq', hid'⟩ := p.peerFromValue_toValue_id
    rw [hq'] at hq
    cases hq
    refine ⟨List.mem_filterMap.mpr ⟨⟨peerPath id, data⟩,
      AList.mem_lookup_iff.mp hdata, ?_⟩, hid'.trans (h.keyed id p hp)⟩
    unfold loadPeerFile
    dsimp only
    rw [if_pos (peerFile_peerPath id), hread]
    dsimp only
    rw [hq']
    rfl

/-- What happens below the root, as far as the peers go. -/
inductive PeerFileOp where
  | savePeer (peer : Peer)
  | removePeer (id : Hash16)
  | elsewhere (path : String) (content : Option Bytes)
      (h : peerFile path = false)

/-- The files after an operation. -/
def PeerFileOp.onDisk (P : Platform) (disk : Disk) : PeerFileOp → Disk
  | .savePeer peer => disk.savePeer P peer
  | .removePeer id => disk.removePeer id
  | .elsewhere path (some content) _ => disk.insert path content
  | .elsewhere path none _ => disk.erase path

/-- The peers that are saved and not removed. -/
def PeerFileOp.onTable (t : PeerTable) : PeerFileOp → PeerTable
  | .savePeer peer => t.insert peer.id peer
  | .removePeer id => t.erase id
  | .elsewhere _ _ _ => t

/-- Each operation keeps table and directory together. -/
theorem PeersDirectory.step (hP : RmpvCodec P)
    (h : PeersDirectory P t disk) (op : PeerFileOp) :
    PeersDirectory P (op.onTable t) (op.onDisk P disk) := by
  cases op with
  | savePeer peer => exact h.savePeer hP peer
  | removePeer id => exact h.removePeer id
  | elsewhere path content hpath =>
      have hne : ∀ other, peerFile other = true → other ≠ path := by
        rintro other hother rfl
        rw [hpath] at hother
        cases hother
      cases content with
      | some content =>
          exact h.congr fun other hother =>
            AList.lookup_insert_ne (hne other hother)
      | none =>
          exact h.congr fun other hother =>
            AList.lookup_erase_ne (hne other hother)

/-- So does any sequence of them. -/
theorem peersDirectory_run (hP : RmpvCodec P) (ops : List PeerFileOp) :
    PeersDirectory P (ops.foldl PeerFileOp.onTable ∅)
      (ops.foldl (PeerFileOp.onDisk P) ∅) := by
  induction ops using List.reverseRecOn with
  | nil => exact .empty
  | append_singleton ops op ih =>
      rw [List.foldl_append, List.foldl_append]
      exact ih.step hP op

end Disk

-- ============================================================== the bytes

theorem getValue_nil (key : String) : getValue [] key = none := rfl

/-- The first entry of a key is the one that is found. -/
theorem getValue_cons (name key : String) (value : Value)
    (dict : List (Value × Value)) :
    getValue ((.str name, value) :: dict) key
      = if name = key then some value else getValue dict key := by
  unfold getValue
  by_cases h : name = key
  · rw [if_pos h, List.find?_cons_of_pos (by simp [h])]
    rfl
  · have hne : Value.str name ≠ Value.str key := by
      intro heq
      cases heq
      exact h rfl
    rw [if_neg h, List.find?_cons_of_neg (by simpa using hne)]

/-- An optional field is found if it was written. -/
theorem getValue_optionalEntry {α : Type} (name key : String)
    (write : α → Value) (field : Option α)
    (dict : List (Value × Value)) :
    getValue (optionalEntry name write field ++ dict) key
      = if name = key then (field.map write).or (getValue dict key)
        else getValue dict key := by
  cases field with
  | none => exact (ite_self _).symm
  | some a => exact getValue_cons name key (write a) dict

/-- A 64-bit number as `from_bytes` reads it. -/
theorem asI64_map_i64AsU64 {n : Nat} (h : n < 2 ^ 63) :
    (Value.ofNat n).asI64.map i64AsU64 = some n := by
  rw [asI64_ofNat, Option.map_some, i64AsU64_ofNat,
    Nat.mod_eq_of_lt (by omega)]

theorem valueToOptU32_of_lt {n : Nat} (h : n < 2 ^ 32) :
    valueToOptU32 (.ofNat n) = some n := by
  rw [valueToOptU32_ofNat, Nat.mod_eq_of_lt h]

/-- A field that is written where it is there reads as it was. -/
theorem bind_map_of_read {α : Type} {field : Option α}
    {write : α → Value} {read : Value → Option α}
    (h : ∀ a ∈ field, read (write a) = some a) :
    (field.map write).bind read = field := by
  cases field with
  | none => rfl
  | some a => exact h a rfl

namespace Peer

theorem setAlive_id (p : Peer) (alive : Bool) :
    (p.setAlive alive).id = p.id := by
  unfold setAlive
  split
  case isTrue => rfl
  case isFalse =>
    split
    case isTrue => rfl
    case isFalse => rfl

/-- A new peer is alive exactly if it is set so. -/
theorem setAlive_new_isAlive (id : Hash16) (nowMs : Nat) (alive : Bool) :
    ((new id nowMs).setAlive alive).isAlive = alive := by
  cases alive with
  | true => rfl
  | false => rfl

/-- The metadata keep their pairs, in whatever order. -/
theorem metadataFromValue_metadataToValue
    (metadata : HashMap String Bytes) :
    ∃ read, metadataFromValue (metadataToValue metadata) = some read
      ∧ read.Agrees metadata := by
  refine ⟨_, rfl, fun key => ?_⟩
  refine (readEntries_lookup (f := fun bytes => bytes) metadata
    (fun key bytes => (.str key, .binary bytes)) ?_ key).trans
    Option.map_id_apply
  intro key bytes _
  rfl

/-- Whatever `to_bytes` writes is the same in both peers; the limit of a
sync may be taken from that of a transfer. -/
structure SameWritten (p q : Peer) : Prop where
  id : q.id = p.id
  peeringTimebase : q.peeringTimebase = p.peeringTimebase
  alive : q.isAlive = p.isAlive
  lastHeardMs : q.lastHeardMs = p.lastHeardMs
  syncStrategy : q.syncStrategy = p.syncStrategy
  peeringKey : q.peeringKey = p.peeringKey
  peeringKeyValue : q.peeringKeyValue = p.peeringKeyValue
  peeringCost : q.peeringCost = p.peeringCost
  metadata : Option.Rel AList.Agrees q.metadata p.metadata
  linkEstablishmentRate : q.linkEstablishmentRate = p.linkEstablishmentRate
  syncTransferRate : q.syncTransferRate = p.syncTransferRate
  propagationTransferLimit :
    q.propagationTransferLimit = p.propagationTransferLimit
  propagationSyncLimit : q.propagationSyncLimit
    = p.propagationSyncLimit.or (p.propagationTransferLimit.map F64.toU64)
  propagationStampCost : q.propagationStampCost = p.propagationStampCost
  propagationStampCostFlexibility :
    q.propagationStampCostFlexibility = p.propagationStampCostFlexibility
  messagesOffered : q.messagesOffered = p.messagesOffered
  messagesOutgoing : q.messagesOutgoing = p.messagesOutgoing
  messagesIncoming : q.messagesIncoming = p.messagesIncoming
  rxBytes : q.rxBytes = p.rxBytes
  txBytes : q.txBytes = p.txBytes
  lastAttemptMs : q.lastAttemptMs = p.lastAttemptMs

/-- The other codec, of values. -/
theorem fromDict_dict {p : Peer} (h : p.Fits) (nowMs : Nat) :
    ∃ q, fromDict p.dict nowMs = .ok q ∧ p.SameWritten q := by
  unfold fromDict dict
  simp only [List.append_assoc, List.cons_append, List.nil_append,
    getValue_cons, getValue_optionalEntry, getValue_nil, String.reduceEq,
    if_true, if_false, Option.or_none]
  simp only [orMsgpack_some, Except.ok_bind, valueToFixedBytes_binary]
  refine ⟨_, rfl, {
    id := setAlive_id _ _
    peeringTimebase := congrArg (·.getD 0)
      (asI64_map_i64AsU64 h.peeringTimebase)
    alive := setAlive_new_isAlive p.id nowMs p.isAlive
    lastHeardMs := congrArg (·.getD 0) (asI64_map_i64AsU64 h.lastHeardMs)
    syncStrategy := congrArg (·.getD defaultSyncStrategy)
      (valueToOptU8_ofNat p.syncStrategy)
    peeringKey := bind_map_of_read fun _ _ => rfl
    peeringKeyValue := bind_map_of_read fun n hn =>
      valueToOptU32_of_lt (h.peeringKeyValue n hn)
    peeringCost := bind_map_of_read fun n hn =>
      valueToOptU32_of_lt (h.peeringCost n hn)
    metadata := ?_
    linkEstablishmentRate := rfl
    syncTransferRate := rfl
    propagationTransferLimit := bind_map_of_read fun _ _ => rfl
    propagationSyncLimit := ?_
    propagationStampCost := bind_map_of_read fun n hn =>
      valueToOptU32_of_lt (h.propagationStampCost n hn)
    propagationStampCostFlexibility := bind_map_of_read fun n hn =>
      valueToOptU32_of_lt (h.propagationStampCostFlexibility n hn)
    messagesOffered := congrArg (·.getD 0)
      (asI64_map_i64AsU64 h.messagesOffered)
    messagesOutgoing := congrArg (·.getD 0)
      (asI64_map_i64AsU64 h.messagesOutgoing)
    messagesIncoming := congrArg (·.getD 0)
      (asI64_map_i64AsU64 h.messagesIncoming)
    rxBytes := congrArg (·.getD 0) (asI64_map_i64AsU64 h.rxBytes)
    txBytes := congrArg (·.getD 0) (asI64_map_i64AsU64 h.txBytes)
    lastAttemptMs := congrArg (·.getD 0)
      (asI64_map_i64AsU64 h.lastAttemptMs) }⟩
  · show Option.Rel AList.Agrees
      ((p.metadata.map metadataToValue).bind metadataFromValue) p.metadata
    cases p.metadata with
    | none => exact .none
    | some metadata =>
        obtain ⟨read, hread, hagrees⟩ :=
          metadataFromValue_metadataToValue metadata
        rw [Option.map_some, Option.bind_some, hread]
        exact .some hagrees
  · have hlimit : ((p.propagationSyncLimit.map Value.ofNat).bind
        fun v => v.asI64.map i64AsU64) = p.propagationSyncLimit :=
      bind_map_of_read fun n hn =>
        asI64_map_i64AsU64 (h.propagationSyncLimit n hn)
    have htransfer : (p.propagationTransferLimit.map Value.f64).bind
        valueToF64 = p.propagationTransferLimit :=
      bind_map_of_read fun _ _ => rfl
    dsimp only
    rw [hlimit, htransfer]

/-- And of bytes. -/
theorem fromBytes_toBytes {P : Platform} (hP : RmpvCodec P) {p : Peer}
    (h : p.Fits) (nowMs : Nat) :
    ∃ bytes q, p.toBytes P = .ok bytes
      ∧ fromBytes P bytes nowMs = .ok q ∧ p.SameWritten q := by
  obtain ⟨bytes, hwrite⟩ := hP.write_ok (.map p.dict)
  obtain ⟨q, hq, hsame⟩ := fromDict_dict h nowMs
  refine ⟨bytes, q, Except.mapError_eq_ok.mpr hwrite, ?_, hsame⟩
  have hread : readRns P bytes = .ok (.map p.dict) :=
    Except.mapError_eq_ok.mpr (hP.read_write _ _ hwrite)
  unfold fromBytes
  rw [hread, Except.ok_bind]
  exact hq

end Peer

-- ============================================================= the result

namespace Disk.PeerFileOp

/-- The files below the root after some operations. -/
def files (P : Platform) (ops : List PeerFileOp) : Disk :=
  ops.foldl (onDisk P) ∅

/-- The peers they leave saved. -/
def saved (ops : List PeerFileOp) : PeerTable := ops.foldl onTable ∅

/-- After any operations on the directory the peers last saved are read. -/
theorem loadPeers_files {P : Platform} (hP : RmpvCodec P)
    {ops : List PeerFileOp} {id : Hash16} {p : Peer}
    (hsaved : (saved ops).lookup id = some p) (hfits : p.Fits) :
    ((files P ops).loadPeers P).lookup id = some p.stored := by
  have hlookup := (peersDirectory_run hP ops).loadPeers_lookup id
  rw [show (ops.foldl onTable ∅).lookup id = some p from hsaved,
    Option.bind_some, Peer.peerFromValue_toValue hfits] at hlookup
  exact hlookup

end Disk.PeerFileOp

open Disk.PeerFileOp

/-- A peer that is saved is loaded with every field of its record, and
so syncs when the saved one would. A peer made from the bytes of another
has all that the bytes tell. -/
theorem peer_codecs_preserve {P : Platform} (hP : RmpvCodec P) :
    (∀ (ops : List Disk.PeerFileOp) (id : Hash16) (p : Peer),
      (saved ops).lookup id = some p → p.Fits →
      ((files P ops).loadPeers P).lookup id = some p.stored
        ∧ ∀ nowMs, p.stored.shouldSync nowMs = p.shouldSync nowMs
          ∧ p.stored.isAlive = p.isAlive)
    ∧ ∀ p : Peer, p.Fits → ∀ nowMs, ∃ bytes q,
      p.toBytes P = .ok bytes ∧ Peer.fromBytes P bytes nowMs = .ok q
        ∧ p.SameWritten q := by
  refine ⟨fun ops id p hsaved hfits => ⟨loadPeers_files hP hsaved hfits,
    fun nowMs => ⟨p.stored_shouldSync nowMs, p.stored_isAlive⟩⟩,
    fun p hfits nowMs => Peer.fromBytes_toBytes hP hfits nowMs⟩

section Instance

open Reference

/-- A peer in backoff with a transfer limit and no limit of a sync. -/
def writtenPeer : Peer :=
  { Peer.new (List.Vector.replicate 16 0x05) 0 with
    state := .backoff
    nextSyncMs := 900
    failures := 1
    peeringKey := some [0x6b]
    peeringKeyValue := some 20
    peeringCost := some 18
    metadata := some ((∅ : HashMap String Bytes).insert "name" [0x70])
    propagationTransferLimit := some (.fin 256) }

theorem writtenPeer_fits : writtenPeer.Fits := by
  constructor <;> simp [writtenPeer, Peer.new, u32Max]

theorem peer_codecs_preserve_doc :
    ((files platform
        [.savePeer writtenPeer, .elsewhere "node_stats" none rfl]
        ).loadPeers platform).lookup writtenPeer.id
      = some writtenPeer.stored
    ∧ ∃ bytes q, writtenPeer.toBytes platform = .ok bytes
      ∧ Peer.fromBytes platform bytes 5 = .ok q
      ∧ writtenPeer.SameWritten q :=
  ⟨((peer_codecs_preserve platform_rmpvCodec).1 _ writtenPeer.id
      writtenPeer (AList.lookup_insert _) writtenPeer_fits).1,
    (peer_codecs_preserve platform_rmpvCodec).2 writtenPeer
      writtenPeer_fits 5⟩

end Instance

end Lxmf
