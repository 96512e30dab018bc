/-
What a file store reads back.

A record is read as it was written, with every number cut to the width
of its type (`trimmed`), and so unchanged where it fits (`Fits`). The
queued messages below a root are a list (`loadOutbound`), and each
operation of the store is told by what it does to this list, as long as
every file of the directory is the record its name says (`Filed`).
-/
import Std.Data.String.ToNat
import Lxmf.FileStore
import Lxmf.Library.Except
import Lxmf.Reference

namespace Lxmf

-- ============================================================== numbers

/-- A number is written as an `i64`, its low 64 bits. -/
theorem asI64_ofNat (n : Nat) :
    (Value.ofNat n).asI64 = some (BitVec.ofNat 64 n).toInt := by
  have hlt := BitVec.toInt_lt (x := BitVec.ofNat 64 n)
  exact if_pos hlt

theorem asI64_ofNat_of_lt {n : Nat} (h : n < 2 ^ 63) :
    (Value.ofNat n).asI64 = some (n : Int) := by
  have hval : (BitVec.ofNat 64 n).toInt = n := by
    rw [BitVec.toInt_eq_toNat_cond, BitVec.toNat_ofNat]
    split
    case isTrue => omega
    case isFalse => omega
  rw [asI64_ofNat, hval]

/-- Read back as a `u64` it keeps these bits, as a `u32` half of them. -/
theorem i64AsU64_ofNat (n : Nat) :
    i64AsU64 (BitVec.ofNat 64 n).toInt = n % 2 ^ 64 := by
  unfold i64AsU64
  rw [BitVec.ofInt_toInt, BitVec.toNat_ofNat]

theorem i64AsU32_ofNat (n : Nat) :
    i64AsU32 (BitVec.ofNat 64 n).toInt = n % 2 ^ 32 := by
  unfold i64AsU32
  rw [BitVec.toNat_ofInt, BitVec.toInt_eq_toNat_cond, BitVec.toNat_ofNat]
  split
  case isTrue => omega
  case isFalse => omega

theorem valueToOptU32_ofNat (n : Nat) :
    valueToOptU32 (.ofNat n) = some (n % 2 ^ 32) := by
  unfold valueToOptU32
  rw [asI64_ofNat, Option.map_some, ← i64AsU32_ofNat]
  rfl

theorem valueToOptU8_ofNat (n : UInt8) :
    valueToOptU8 (.ofNat n.toNat) = some n := by
  have hlt := n.toNat_lt
  unfold valueToOptU8
  rw [asI64_ofNat, Option.map_some]
  congr 1
  apply UInt8.toNat_inj.mp
  show (BitVec.ofInt 8 _).toNat = _
  rw [BitVec.toNat_ofInt, BitVec.toInt_eq_toNat_cond, BitVec.toNat_ofNat]
  split
  case isTrue => omega
  case isFalse => omega

-- ==================================================== optional fields

/-- What may be absent is read back as it was, a number cut to its width.
-/
theorem valueToBytes_option (v : Option Bytes) :
    valueToBytes (optionBytesToValue v) = v := by
  cases v with
  | none => rfl
  | some b => rfl

theorem valueToOptU32_option (v : Option Nat) :
    valueToOptU32 (optionU32ToValue v) = v.map (· % 2 ^ 32) := by
  cases v with
  | none => rfl
  | some n => exact valueToOptU32_ofNat n

theorem valueToOptU8_option (v : Option UInt8) :
    valueToOptU8 (optionU8ToValue v) = v := by
  cases v with
  | none => rfl
  | some n => exact valueToOptU8_ofNat n

theorem valueToOptBool_option (v : Option Bool) :
    valueToOptBool (optionBoolToValue v) = v := by
  cases v with
  | none => rfl
  | some b => rfl

theorem valueToOptString_option (v : Option String) :
    valueToOptString (optionStringToValue v) = v := by
  cases v with
  | none => rfl
  | some s => rfl

theorem valueToFixedBytes_option {n : Nat} (v : Option (FixedBytes n)) :
    valueToFixedBytes n (optionBytesToValue (v.map (·.toList))) = v := by
  cases v with
  | none => rfl
  | some b => exact valueToFixedBytes_binary b

-- ======================================================== named fields

theorem orMsgpack_some {α : Type} (e : String) (a : α) :
    orMsgpack e (some a) = .ok a := rfl

theorem fieldValues_nil (key : String) : fieldValues [] key = [] := rfl

/-- A reader collects the values under a name in their order. -/
theorem fieldValues_cons (name key : String) (value : Value)
    (entries : List (Value × Value)) :
    fieldValues ((.str name, value) :: entries) key
      = if name = key then value :: fieldValues entries key
        else fieldValues entries key := by
  unfold fieldValues
  by_cases h : name = key
  · rw [if_pos h, List.filter_cons_of_pos]
    · rfl
    · rw [h]
      exact beq_self_eq_true (some key)
  · rw [if_neg h, List.filter_cons_of_neg]
    intro heq
    exact h (Option.some.inj (eq_of_beq heq))

-- ============================================================= messages

/-- The numbers of a message cut to 32 bits. -/
def LXMessage.trimmed (m : LXMessage) : LXMessage :=
  { m with
    stampCost := m.stampCost.map (· % 2 ^ 32)
    stampValue := m.stampValue.map (· % 2 ^ 32) }

/-- A message is read back with its numbers cut. -/
theorem decodeMessageValue_encode (m : LXMessage) :
    decodeMessageValue (encodeMessageValue m) = .ok m.trimmed := by
  unfold encodeMessageValue decodeMessageValue
  simp only [assignedField, fieldValues_cons, String.reduceEq, if_true,
    if_false, fieldValues_nil, List.getLast?_singleton, Option.bind_some]
  simp only [valueToFixedBytes_binary, orMsgpack_some, Except.ok_bind,
    valueToBytes_option, valueToOptU32_option, valueToOptU8_option,
    valueToOptBool_option, valueToOptString_option,
    valueToFixedBytes_option, valueToOptU8_ofNat]
  rfl

-- ============================================================== records

/-- A record as it is read back. -/
def QueuedMessage.trimmed (item : QueuedMessage) : QueuedMessage where
  id := item.id % 2 ^ 64
  message := item.message.trimmed
  mode := item.mode
  attempts := item.attempts % 2 ^ 32
  nextAttemptAtMs := item.nextAttemptAtMs % 2 ^ 64

/-- The four modes have four numbers. -/
theorem deliveryModeFromI64_to (mode : DeliveryMode) :
    deliveryModeFromI64 (BitVec.ofNat 64 (deliveryModeToI64 mode)).toInt
      = .ok mode := by
  cases mode <;> decide

/-- So is a record. -/
theorem decodeOutboundValue_encode (item : QueuedMessage) :
    decodeOutboundValue (encodeOutboundValue item) = .ok item.trimmed := by
  unfold encodeOutboundValue decodeOutboundValue
  simp only [assignedField, readableField, fieldValues_cons,
    String.reduceEq, if_true, if_false, fieldValues_nil,
    List.getLast?_singleton, Option.bind_some, List.filterMap_cons,
    List.filterMap_nil, asI64_ofNat]
  simp only [List.mapM_cons, List.mapM_nil, deliveryModeFromI64_to,
    Except.ok_bind, Except.pure_eq_ok, List.getLast?_singleton,
    orMsgpack_some, decodeMessageValue_encode, i64AsU64_ofNat,
    i64AsU32_ofNat]
  rfl

/-- The numbers of a record fit their types. -/
structure QueuedMessage.Fits (item : QueuedMessage) : Prop where
  id : item.id < 2 ^ 64
  attempts : item.attempts < 2 ^ 32
  nextAttemptAtMs : item.nextAttemptAtMs < 2 ^ 64
  stampCost : ∀ n ∈ item.message.stampCost, n < 2 ^ 32
  stampValue : ∀ n ∈ item.message.stampValue, n < 2 ^ 32

theorem map_mod_of_lt {v : Option Nat} {k : Nat} (h : ∀ n ∈ v, n < k) :
    v.map (· % k) = v := by
  cases v with
  | none => rfl
  | some n => exact congrArg some (Nat.mod_eq_of_lt (h n rfl))

/-- Where the numbers fit, nothing is cut. -/
theorem QueuedMessage.trimmed_of_fits {item : QueuedMessage}
    (h : item.Fits) : item.trimmed = item := by
  unfold QueuedMessage.trimmed LXMessage.trimmed
  rw [Nat.mod_eq_of_lt h.id, Nat.mod_eq_of_lt h.attempts,
    Nat.mod_eq_of_lt h.nextAttemptAtMs, map_mod_of_lt h.stampCost,
    map_mod_of_lt h.stampValue]

-- ================================================================ paths

/-- A file of the directory of queued messages. -/
def queuedFile (path : String) : Bool :=
  "outbound/".toList.isPrefixOf path.toList

/-- The file of a queued message is in the directory, that of a failed one
is not. -/
theorem queuedFile_outboundPath (id : Nat) :
    queuedFile (outboundPath id) = true := by
  unfold queuedFile outboundPath
  rw [List.isPrefixOf_iff_prefix, String.toList_append,
    String.toList_append, List.append_assoc]
  exact List.prefix_append _ _

theorem queuedFile_failedPath (id : Nat) :
    queuedFile (failedPath id) = false := by
  unfold queuedFile failedPath
  rw [String.toList_append, String.toList_append]
  rfl

/-- Between a fixed start and a fixed end the number decides. -/
theorem eq_of_append_toString {before after : String} {a b : Nat}
    (h : before ++ toString a ++ after = before ++ toString b ++ after) :
    a = b := by
  have hlist := congrArg String.toList h
  simp only [String.toList_append, List.append_assoc,
    List.append_cancel_left_eq, List.append_cancel_right_eq] at hlist
  exact Nat.repr_injective (String.toList_inj.mp hlist)

/-- Two ids have two files. -/
theorem outboundPath_inj {a b : Nat} (h : outboundPath a = outboundPath b) :
    a = b :=
  eq_of_append_toString h

theorem failedPath_inj {a b : Nat} (h : failedPath a = failedPath b) :
    a = b :=
  eq_of_append_toString h

-- ============================================================ the store

namespace FileMessageStore

variable {P : Platform}

/-- A record can be written, and its bytes are read back. -/
theorem encodeOutbound_ok (hP : RmpvCodec P) (item : QueuedMessage) :
    ∃ data, encodeOutbound P item = .ok data
      ∧ decodeOutbound P data = .ok item.trimmed := by
  obtain ⟨data, hdata⟩ := hP.write_ok (encodeOutboundValue item)
  refine ⟨data, ?_, ?_⟩
  · exact Except.mapError_eq_ok.mpr hdata
  · unfold decodeOutbound readRns
    rw [hP.read_write _ _ hdata]
    exact decodeOutboundValue_encode item

/-- Every queued file is the record its name says. -/
def Filed (s : FileMessageStore P) : Prop :=
  ∀ file ∈ s.root.entries, queuedFile file.1 →
    ∃ item, file.1 = outboundPath item.id
      ∧ decodeOutbound P file.2 = .ok item

/-- What `load_outbound` makes of one file. -/
def loadFile (P : Platform) (file : Sigma fun _ : String => Bytes) :
    Option QueuedMessage :=
  if queuedFile file.1 then (decodeOutbound P file.2).toOption else none

/-- Loading goes through the files in the order of the map. -/
theorem loadOutbound_eq (s : FileMessageStore P) :
    s.loadOutbound = s.root.entries.filterMap (loadFile P) := rfl

/-- An empty root has no file that could be wrong. -/
theorem filed_empty : Filed ({} : FileMessageStore P) := by
  intro file hfile
  cases hfile

/-- Deleting the file of an id drops its record, and no other. -/
theorem filterMap_loadFile_filter {s : FileMessageStore P} (hs : Filed s)
    (id : Nat) :
    (s.root.entries.filter fun e => e.1 ≠ outboundPath id).filterMap
        (loadFile P)
      = s.loadOutbound.filter fun m => m.id ≠ id := by
  rw [loadOutbound_eq, List.filter_filterMap, List.filterMap_filter]
  refine List.filterMap_congr fun file hfile => ?_
  unfold loadFile
  by_cases hqueued : queuedFile file.1
  · obtain ⟨item, hpath, hdecode⟩ := hs file hfile hqueued
    rw [if_pos hqueued, hdecode]
    show _ = Option.filter _ (some item)
    rw [Option.filter_some, hpath]
    by_cases hid : item.id = id
    · simp [hid]
    · have hne : outboundPath item.id ≠ outboundPath id :=
        fun h => hid (outboundPath_inj h)
      simp [hid, hne]
      rfl
  · rw [if_neg hqueued]
    simp

/-- Saving a record writes one file that is read back as it. -/
theorem root_saveOutbound (hP : RmpvCodec P) (item : QueuedMessage)
    (s : FileMessageStore P) :
    ∃ data, (s.saveOutbound item).root
        = s.root.insert (outboundPath item.id) data
      ∧ decodeOutbound P data = .ok item.trimmed := by
  obtain ⟨data, hencode, hdecode⟩ := encodeOutbound_ok hP item
  refine ⟨data, ?_, hdecode⟩
  unfold saveOutbound
  rw [hencode]

/-- Saving a failure writes one file elsewhere. -/
theorem root_saveFailed (hP : RmpvCodec P) (item : FailedDelivery)
    (s : FileMessageStore P) :
    ∃ data, (s.saveFailed item).root
        = s.root.insert (failedPath item.id) data
      ∧ P.writeValue (encodeFailedValue item) = .ok data := by
  obtain ⟨data, hdata⟩ := hP.write_ok (encodeFailedValue item)
  refine ⟨data, ?_, hdata⟩
  unfold saveFailed
  rw [hdata]

/-- Each operation leaves every file the record its name says, if the id is
a `u64`. -/
theorem filed_saveOutbound (hP : RmpvCodec P) {s : FileMessageStore P}
    (hs : Filed s) {item : QueuedMessage} (hid : item.id < 2 ^ 64) :
    Filed (s.saveOutbound item) := by
  obtain ⟨data, hroot, hdecode⟩ := root_saveOutbound hP item s
  intro file hfile hqueued
  rw [hroot, HashMap.entries_insert] at hfile
  rcases List.mem_cons.mp hfile with rfl | hold
  · refine ⟨item.trimmed, ?_, hdecode⟩
    show outboundPath item.id = outboundPath (item.id % 2 ^ 64)
    rw [Nat.mod_eq_of_lt hid]
  · exact hs file (List.mem_of_mem_filter hold) hqueued

theorem filed_removeOutbound {s : FileMessageStore P} (hs : Filed s)
    (id : Nat) : Filed (s.removeOutbound id) := by
  intro file hfile hqueued
  unfold removeOutbound at hfile
  rw [HashMap.entries_erase] at hfile
  exact hs file (List.mem_of_mem_filter hfile) hqueued

theorem filed_saveFailed (hP : RmpvCodec P) {s : FileMessageStore P}
    (hs : Filed s) (item : FailedDelivery) : Filed (s.saveFailed item) := by
  obtain ⟨data, hroot, _⟩ := root_saveFailed hP item s
  intro file hfile hqueued
  rw [hroot, HashMap.entries_insert] at hfile
  rcases List.mem_cons.mp hfile with rfl | hold
  · rw [queuedFile_failedPath] at hqueued
    cases hqueued
  · exact hs file (List.mem_of_mem_filter hold) hqueued

/-- A saved record is loaded first, and in place of the one of its id. -/
theorem loadOutbound_saveOutbound (hP : RmpvCodec P)
    {s : FileMessageStore P} (hs : Filed s) (item : QueuedMessage) :
    (s.saveOutbound item).loadOutbound
      = item.trimmed :: s.loadOutbound.filter fun m => m.id ≠ item.id := by
  obtain ⟨data, hroot, hdecode⟩ := root_saveOutbound hP item s
  have hload : loadFile P ⟨outboundPath item.id, data⟩
      = some item.trimmed := by
    unfold loadFile
    rw [if_pos (queuedFile_outboundPath item.id), hdecode]
    rfl
  rw [loadOutbound_eq, hroot, HashMap.entries_insert,
    List.filterMap_cons_some hload, filterMap_loadFile_filter hs]

/-- A removed one is loaded no more, and every other still is. -/
theorem loadOutbound_removeOutbound {s : FileMessageStore P} (hs : Filed s)
    (id : Nat) :
    (s.removeOutbound id).loadOutbound
      = s.loadOutbound.filter fun m => m.id ≠ id := by
  rw [loadOutbound_eq]
  unfold removeOutbound
  rw [HashMap.entries_erase, filterMap_loadFile_filter hs]

/-- A failed record is in a directory of its own. -/
theorem loadOutbound_saveFailed (hP : RmpvCodec P) (s : FileMessageStore P)
    (item : FailedDelivery) :
    (s.saveFailed item).loadOutbound = s.loadOutbound := by
  obtain ⟨data, hroot, _⟩ := root_saveFailed hP item s
  have hload (file : Sigma fun _ : String => Bytes)
      (hpath : file.1 = failedPath item.id) : loadFile P file = none := by
    unfold loadFile
    rw [hpath, queuedFile_failedPath]
    rfl
  rw [loadOutbound_eq, hroot, HashMap.entries_insert,
    List.filterMap_cons_none (hload _ rfl), loadOutbound_eq,
    List.filterMap_filter]
  refine List.filterMap_congr fun file _ => ?_
  by_cases hpath : file.1 = failedPath item.id
  · rw [hload file hpath]
    simp
  · simp [hpath]

/-- A record whose numbers fit is read back as it was, from its bytes and
from the file it was saved in. -/
theorem queued_message_round_trips (hP : RmpvCodec P) {item : QueuedMessage}
    (hfits : item.Fits) (s : FileMessageStore P) :
    ∃ data, encodeOutbound P item = .ok data
      ∧ decodeOutbound P data = .ok item
      ∧ (s.saveOutbound item).root.lookup (outboundPath item.id) = some data
      ∧ item ∈ (s.saveOutbound item).loadOutbound := by
  obtain ⟨data, hencode, hdecode⟩ := encodeOutbound_ok hP item
  rw [QueuedMessage.trimmed_of_fits hfits] at hdecode
  have hroot : (s.saveOutbound item).root
      = s.root.insert (outboundPath item.id) data := by
    unfold saveOutbound
    rw [hencode]
  refine ⟨data, hencode, hdecode, ?_, ?_⟩
  · rw [hroot, AList.lookup_insert]
  · rw [loadOutbound_eq, hroot, HashMap.entries_insert]
    refine List.mem_filterMap.mpr ⟨_, List.mem_cons_self, ?_⟩
    unfold loadFile
    rw [if_pos (queuedFile_outboundPath item.id), hdecode]
    rfl

/-- A record at the ends of its types' ranges. -/
def docRecord : QueuedMessage where
  id := 2 ^ 64 - 1
  message :=
    { LXMessage.new (List.Vector.replicate 16 0x11)
        (List.Vector.replicate 16 0x22) with
      stamp := some []
      stampCost := some (2 ^ 32 - 1)
      method := some 0xff }
  mode := .paper
  attempts := 2 ^ 32 - 1
  nextAttemptAtMs := 2 ^ 64 - 1

theorem queued_message_round_trips_doc :
    ∃ data, encodeOutbound Reference.platform docRecord = .ok data
      ∧ decodeOutbound Reference.platform data = .ok docRecord
      ∧ (saveOutbound docRecord
            ({} : FileMessageStore Reference.platform)).root.lookup
          (outboundPath docRecord.id) = some data
      ∧ docRecord ∈ (saveOutbound docRecord
            ({} : FileMessageStore Reference.platform)).loadOutbound :=
  queued_message_round_trips Reference.platform_rmpvCodec
    ⟨by decide, by decide, by decide,
      by rintro n ⟨⟩; decide, by rintro n ⟨⟩⟩ {}

end FileMessageStore

-- ============================================================ restoring

namespace RnsRouter

variable {σ : Type} [MessageStore σ]

/-- An item as `restore_outbound` queues it. -/
def shifted (base : Option Nat) (item : QueuedMessage) : QueuedMessage :=
  match base with
  | some base =>
      if 0 < item.nextAttemptAtMs ∧ base ≤ item.nextAttemptAtMs then
        { item with nextAttemptAtMs := item.nextAttemptAtMs - base }
      else item
  | none => item

/-- Restoring moves the times of an item and nothing else. -/
theorem shifted_id (base : Option Nat) (item : QueuedMessage) :
    (shifted base item).id = item.id := by
  unfold shifted
  split
  case h_1 =>
    split
    case isTrue => rfl
    case isFalse => rfl
  case h_2 => rfl

theorem shifted_message (base : Option Nat) (item : QueuedMessage) :
    (shifted base item).message = item.message := by
  unfold shifted
  split
  case h_1 =>
    split
    case isTrue => rfl
    case isFalse => rfl
  case h_2 => rfl

omit [MessageStore σ] in
/-- What restoring one item does to the router: it is queued, and the
next id moves on. -/
theorem restoreItem_eq (base : Option Nat) (r : RnsRouter σ)
    (item : QueuedMessage) :
    restoreItem base r item
      = { r with
          nextId := max r.nextId (satAdd64 item.id 1)
          outbound := r.outbound ++ [shifted base item] } := by
  rw [← shifted_id base item]
  rfl

omit [MessageStore σ] in
/-- All items are queued behind those that are. -/
theorem foldl_restoreItem_outbound (base : Option Nat)
    (items : List QueuedMessage) (r : RnsRouter σ) :
    (items.foldl (restoreItem base) r).outbound
      = r.outbound ++ items.map (shifted base) := by
  induction items generalizing r with
  | nil => exact (List.append_nil _).symm
  | cons item items ih =>
      rw [List.foldl_cons, ih, restoreItem_eq, List.append_assoc]
      rfl

/-- A fresh router takes in what its store holds, in some order. -/
theorem withStore_eq (delivery : RnsOutbound) (store : σ) :
    ∃ base items, List.Perm items (MessageStore.loadOutbound store)
      ∧ withStore delivery store
        = items.foldl (restoreItem base) (empty delivery store) := by
  let items := (MessageStore.loadOutbound store).mergeSort
    fun a b => a.id ≤ b.id
  exact ⟨restoreBase items, items, List.mergeSort_perm _ _, rfl⟩

/-- So its queue is what the store holds, with times moved. -/
theorem withStore_outbound (delivery : RnsOutbound) (store : σ) :
    ∃ base items, List.Perm items (MessageStore.loadOutbound store)
      ∧ (withStore delivery store).outbound
        = items.map (shifted base) := by
  obtain ⟨base, items, hperm, heq⟩ := withStore_eq delivery store
  refine ⟨base, items, hperm, ?_⟩
  rw [heq, foldl_restoreItem_outbound]
  rfl

end RnsRouter

end Lxmf
