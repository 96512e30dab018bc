/-
What is read back of a directory of propagation nodes, from the wire and
from the disk (lxmf-rs/src/rns/pn.rs: the codecs;
lxmf-rs/src/rns/storage.rs: `save_pn_directory`, `load_pn_directory`).

# The second path

An entry is written alike in a response and in the file. A response gives
back the entry that was written; the file gives its announce only, which
is put into the directory as one that comes in now would be. So what a
directory says of a node is computed again from the data of its announce,
and the same comes out because that is how it came to be there: every
directory is `Sound`.

Loading is applying a response at time zero (`restorePnEntry_of_ok`), so
the loaded directory is told by the cells of the written one.
-/
import Lxmf.Proofs.FileStore
import Lxmf.Proofs.PnDir
import Lxmf.Proofs.Reception
import Lxmf.Proofs.Tables

namespace Lxmf

open Registers (Cell Update put updatesOf)

variable {P : Platform}

-- ============================================================== entries

/-- The time fits in the integer that carries it. -/
def PnDirEntryWire.Timely (entry : PnDirEntryWire) : Prop :=
  entry.lastSeenMs < 2 ^ 63

def PnDirResponse.Timely (resp : PnDirResponse) : Prop :=
  ∀ entry ∈ resp.entries, entry.Timely

theorem entryFromValue_entryToValue {entry : PnDirEntryWire}
    (h : entry.Timely) : entryFromValue (entryToValue entry) = .ok entry := by
  unfold entryFromValue entryToValue
  have hpos : ¬ (entry.lastSeenMs : Int) < 0 := by omega
  have hlen : ¬ [Value.binary entry.destinationHash.toList,
      .binary entry.appData, .ofNat entry.lastSeenMs,
      .boolean entry.acked].length < 4 := Nat.lt_irrefl 4
  dsimp only
  rw [if_neg hlen]
  simp only [List.getD_cons_zero, List.getD_cons_succ,
    valueToFixedBytes_binary, valueToBytes, asI64_ofNat_of_lt h,
    orMsgpack_some, Except.ok_bind]
  rw [if_neg hpos]
  rfl

theorem hashFromValue_binary (hash : Hash16) :
    hashFromValue (.binary hash.toList) = .ok hash := by
  unfold hashFromValue
  rw [valueToFixedBytes_binary, orMsgpack_some]

theorem hashesFromValue_hashesToValue (hashes : List Hash16) :
    hashesFromValue (hashesToValue hashes) = .ok hashes :=
  List.mapM_map_eq_pure fun hash _ => hashFromValue_binary hash

-- ========================================================== the messages

theorem PnDirOp.asI64 (op : PnDirOp) :
    (Value.ofNat op.toNat).asI64 = some (op.toNat : Int) := by
  cases op with
  | list => rfl
  | get => rfl
  | ack => rfl

theorem readPnDirOp_of_read (op : PnDirOp) {bytes : Bytes}
    {fields : List Value}
    (h : P.readValue bytes = .ok (.array (.ofNat op.toNat :: fields)))
    (kind : String) :
    readPnDirOp P kind bytes = .ok ((op.toNat : Int), fields) := by
  unfold readPnDirOp
  rw [readRns_eq_ok.mpr h, Except.ok_bind]
  dsimp only
  rw [op.asI64]
  rfl

theorem decodePnDirRequest_of_read {bytes : Bytes} (req : PnDirRequest)
    (h : P.readValue bytes = .ok req.toValue) :
    decodePnDirRequest P bytes = .ok req := by
  unfold decodePnDirRequest
  cases req with
  | list =>
      rw [readPnDirOp_of_read .list h]
      rfl
  | get hash =>
      rw [readPnDirOp_of_read .get h]
      show (do return PnDirRequest.get (← hashFromValue _)) = _
      rw [hashFromValue_binary]
      rfl
  | ack hashes =>
      rw [readPnDirOp_of_read .ack h]
      show (do return PnDirRequest.ack (← hashesFromValue _)) = _
      rw [hashesFromValue_hashesToValue]
      rfl

theorem decodePnDirResponse_of_read {bytes : Bytes} {resp : PnDirResponse}
    (htimely : resp.Timely) (h : P.readValue bytes = .ok resp.toValue) :
    decodePnDirResponse P bytes = .ok resp := by
  unfold decodePnDirResponse
  cases resp with
  | list entries =>
      rw [readPnDirOp_of_read .list h]
      have hback : (entries.map entryToValue).mapM entryFromValue
          = .ok entries :=
        List.mapM_map_eq_pure fun entry hentry =>
          entryFromValue_entryToValue (htimely entry hentry)
      show (do return PnDirResponse.list (← List.mapM entryFromValue _)) = _
      rw [hback]
      rfl
  | get entry =>
      rw [readPnDirOp_of_read .get h]
      cases entry with
      | none => rfl
      | some entry =>
          have hback := entryFromValue_entryToValue
            (htimely entry (List.mem_singleton_self entry))
          show (entryFromValue (entryToValue entry) >>= fun entry =>
            pure (PnDirResponse.get (some entry))) = _
          rw [hback]
          rfl
  | ack hashes =>
      rw [readPnDirOp_of_read .ack h]
      show (do return PnDirResponse.ack (← hashesFromValue _)) = _
      rw [hashesFromValue_hashesToValue]
      rfl

-- ============================================================== the file

namespace PnDirectory

variable {d : PnDirectory} {hash : Hash16} {nowMs : Nat}

/-- Every entry was seen at a time that fits. -/
def Timely (d : PnDirectory) : Prop :=
  ∀ hash entry, d.lookup hash = some entry → entry.toWire.Timely

def Op.Timely : Op → Prop
  | .upsertAnnounce _ _ nowMs => nowMs < 2 ^ 63
  | _ => True

theorem Timely.insert {entry : PnDirectoryEntry} (h : d.Timely)
    (hentry : entry.toWire.Timely) :
    PnDirectory.Timely (d.insert hash entry) := by
  intro other entry' hlookup
  by_cases hother : other = hash
  · subst hother
    rw [AList.lookup_insert] at hlookup
    injection hlookup with hsame
    rwa [← hsame]
  · rw [AList.lookup_insert_ne hother] at hlookup
    exact h other entry' hlookup

theorem Timely.apply (h : d.Timely) {op : Op} (hop : op.Timely) :
    (op.apply P d).Timely := by
  cases op with
  | upsertAnnounce destinationHash appData nowMs =>
      show Timely ((d.upsertAnnounce P destinationHash appData
        nowMs).toOption.getD d)
      unfold PnDirectory.upsertAnnounce
      cases pnAnnounceDataIsValid P appData with
      | false => exact h
      | true =>
          have htime : nowMs < 2 ^ 63 := hop
          exact h.insert htime
  | acknowledge destinationHash =>
      unfold Op.apply PnDirectory.acknowledge
      dsimp only
      split
      case h_1 entry hentry => exact h.insert (h destinationHash entry hentry)
      case h_2 => exact h
  | delete destinationHash =>
      exact fun other entry hlookup =>
        h other entry (HashMap.lookup_of_lookup_erase hlookup).2

theorem timely_built {ops : List Op} (h : ∀ op ∈ ops, op.Timely) :
    (built P ops).Timely := by
  unfold built
  induction ops using List.reverseRecOn with
  | nil =>
      intro hash entry hlookup
      cases hlookup
  | append_singleton ops op ih =>
      rw [List.foldl_append]
      have hbefore := ih fun op hop => h op (List.mem_append_left _ hop)
      exact hbefore.apply (h op (List.mem_append_right _
        (List.mem_singleton_self op)))

-- ---------------------------------------------------------- reading it

/-- An entry that reads is applied as one received at time zero. -/
theorem restorePnEntry_of_ok {item : Value} {entry : PnDirEntryWire}
    (h : entryFromValue item = .ok entry) (d : PnDirectory) :
    Disk.restorePnEntry P d item = PnDirService.applyEntry P 0 d entry := by
  unfold Disk.restorePnEntry PnDirService.applyEntry
  rw [h, Nat.max_zero]

theorem foldl_restorePnEntry {wires : List PnDirEntryWire}
    (h : ∀ wire ∈ wires, wire.Timely) (d : PnDirectory) :
    (wires.map entryToValue).foldl (Disk.restorePnEntry P) d
      = wires.foldl (PnDirService.applyEntry P 0) d := by
  rw [List.foldl_map]
  refine List.foldl_ext _ _ _ fun d wire hwire => ?_
  exact restorePnEntry_of_ok (entryFromValue_entryToValue (h wire hwire)) d

/-- Of a list of entries, those of a node change its cell. -/
theorem updatesOf_entries (hash : Hash16) (wires : List PnDirEntryWire) :
    updatesOf hash (wires.flatMap (PnDirEntryWire.updates P nowMs))
      = ((wires.filter fun wire =>
          decide (wire.destinationHash = hash)).flatMap
        (PnDirEntryWire.updates P nowMs)).map (·.2) := by
  unfold updatesOf
  congr 1
  induction wires with
  | nil => rfl
  | cons wire wires ih =>
      rw [List.flatMap_cons, List.filter_append, ih]
      by_cases h : wire.destinationHash = hash
      · rw [List.filter_cons_of_pos (by simp [h]), List.flatMap_cons,
          List.filter_eq_self.mpr]
        intro u hu
        rw [PnDirEntryWire.key_of_mem_updates hu]
        exact decide_eq_true h
      · rw [List.filter_cons_of_neg (by simp [h]),
          List.filter_eq_nil_iff.mpr, List.nil_append]
        intro u hu
        rw [PnDirEntryWire.key_of_mem_updates hu]
        exact fun hsame => h (of_decide_eq_true hsame)

/-- What an announce says is computed again as it was. -/
theorem Sound.announced (h : Sound P d) {entry : PnDirectoryEntry}
    (hentry : d.lookup hash = some entry) :
    Lxmf.announced P 0 entry.toWire = entry.unacked := by
  obtain ⟨-, -, hannounce⟩ := h hash entry hentry
  injection hannounce with hdata hrest
  injection hrest with hname hcost
  unfold Lxmf.announced PnDirectoryEntry.unacked PnDirectoryEntry.toWire
  rw [Nat.max_zero, hname, hcost]

/-- The updates an entry is written as make its cell. -/
theorem Sound.rewrites (h : Sound P d) {entry : PnDirectoryEntry}
    (hentry : d.lookup hash = some entry) :
    ((entry.toWire.updates P 0).map (·.2)).foldl Update.act none
      = some ⟨entry.unacked, entry.acked⟩ := by
  have hvalid : pnAnnounceDataIsValid P entry.toWire.appData = true :=
    (h hash entry hentry).2.1
  unfold PnDirEntryWire.updates
  have hacked : entry.toWire.acked = entry.acked := rfl
  rw [if_pos hvalid, h.announced hentry, hacked]
  cases entry.acked with
  | true => rfl
  | false => rfl

theorem load_savePnDirectory (hP : RmpvCodec P) (hsound : Sound P d)
    (htimely : d.Timely) (disk : Disk) :
    AList.Agrees ((disk.savePnDirectory P d).loadPnDirectory P) d := by
  have hwires : ∀ wire ∈ d.list.map PnDirectoryEntry.toWire,
      wire.Timely := by
    intro wire hwire
    obtain ⟨entry, hentry, rfl⟩ := List.mem_map.mp hwire
    obtain ⟨hash, hlookup⟩ := mem_list hentry
    exact htimely hash entry hlookup
  have hload : (disk.savePnDirectory P d).loadPnDirectory P
      = (d.list.map PnDirectoryEntry.toWire).foldl
        (PnDirService.applyEntry P 0) ∅ := by
    unfold Disk.loadPnDirectory Disk.savePnDirectory
    rw [Disk.loadValue_saveValue hP, ← foldl_restorePnEntry hwires,
      List.map_map]
    rfl
  intro hash
  apply lookup_of_cells
  rw [hload, PnDirService.foldl_applyEntry_cells, Registers.run_apply,
    updatesOf_entries]
  have hlisted : (d.list.map PnDirectoryEntry.toWire).filter
      (fun wire => decide (wire.destinationHash = hash))
      = (d.lookup hash).toList.map PnDirectoryEntry.toWire := by
    rw [← hsound.filter_list hash, List.filter_map]
    rfl
  rw [hlisted]
  unfold cells
  cases hlookup : d.lookup hash with
  | none => rfl
  | some entry =>
      have hmake := hsound.rewrites hlookup
      rw [← List.append_nil (entry.toWire.updates P 0)] at hmake
      exact hmake

end PnDirectory

-- ============================================================ the result

/-- Requests and responses are read back as they were written, and a
directory is loaded as it was saved. -/
theorem pn_directory_round_trips (hP : RmpvCodec P) :
    (∀ req : PnDirRequest,
      (encodePnDirRequest P req >>= decodePnDirRequest P) = .ok req)
    ∧ (∀ resp : PnDirResponse, resp.Timely →
      (encodePnDirResponse P resp >>= decodePnDirResponse P) = .ok resp)
    ∧ ∀ ops : List PnDirectory.Op, (∀ op ∈ ops, op.Timely) →
      ∀ disk : Disk,
        AList.Agrees ((disk.savePnDirectory P
          (PnDirectory.built P ops)).loadPnDirectory P)
          (PnDirectory.built P ops) := by
  refine ⟨fun req => ?_, fun resp htimely => ?_, fun ops hops disk => ?_⟩
  · obtain ⟨bytes, hwrite⟩ := hP.write_ok req.toValue
    have hencode : encodePnDirRequest P req = .ok bytes :=
      Except.mapError_eq_ok.mpr hwrite
    rw [hencode, Except.ok_bind]
    exact decodePnDirRequest_of_read req (hP.read_write _ _ hwrite)
  · obtain ⟨bytes, hwrite⟩ := hP.write_ok resp.toValue
    have hencode : encodePnDirResponse P resp = .ok bytes :=
      Except.mapError_eq_ok.mpr hwrite
    rw [hencode, Except.ok_bind]
    exact decodePnDirResponse_of_read htimely (hP.read_write _ _ hwrite)
  · exact PnDirectory.load_savePnDirectory hP
      (PnDirectory.sound_built P ops) (PnDirectory.timely_built hops) disk

section Instance

open Reference PnDirService

/-- An announce, then its acknowledgement. -/
noncomputable def docPnOps : List PnDirectory.Op :=
  [.upsertAnnounce docPn (docAnnounce 10) 200, .acknowledge docPn]

theorem docPnOps_timely : ∀ op ∈ docPnOps, op.Timely := by
  intro op hop
  rcases List.mem_cons.mp hop with rfl | hop
  · show 200 < 2 ^ 63
    decide
  · rw [List.mem_singleton.mp hop]
    exact trivial

theorem pn_directory_round_trips_doc :
    (encodePnDirRequest platform (.ack [docPn])
        >>= decodePnDirRequest platform) = .ok (.ack [docPn])
    ∧ (encodePnDirResponse platform (.get (some ⟨docPn, docAnnounce 10, 200,
        true⟩)) >>= decodePnDirResponse platform)
      = .ok (.get (some ⟨docPn, docAnnounce 10, 200, true⟩))
    ∧ AList.Agrees ((Disk.savePnDirectory platform
          (PnDirectory.built platform docPnOps) ∅).loadPnDirectory platform)
        (PnDirectory.built platform docPnOps) := by
  have hround := pn_directory_round_trips platform_rmpvCodec
  refine ⟨hround.1 _, hround.2.1 _ ?_, hround.2.2 _ docPnOps_timely ∅⟩
  intro entry hentry
  rw [List.mem_singleton.mp hentry]
  show 200 < 2 ^ 63
  decide

end Instance

end Lxmf
