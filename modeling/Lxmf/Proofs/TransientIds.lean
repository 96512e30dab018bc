/-
The id of a propagated message, at the client and at the node.

The client hashes the destination and the ciphertext and draws a stamp
for that hash. The node gets one string of bytes, takes the last 32 as
the stamp and hashes the rest. Both arrive at one id, whatever stamp is
appended, and a stamp drawn at some cost passes at every lower one: the
targets are the powers of two, compared as big-endian numbers.
-/
import Lxmf.Proofs.PeeringKey
import Lxmf.Proofs.Reception

namespace Lxmf

variable {P : Platform}

-- ============================================================ the target

/-- Bytes as a big-endian number. -/
def bigEndian : Bytes → Nat
  | [] => 0
  | b :: bs => b.toNat * 256 ^ bs.length + bigEndian bs

theorem bigEndian_lt (bs : Bytes) : bigEndian bs < 256 ^ bs.length := by
  induction bs with
  | nil => decide
  | cons b bs ih =>
      have hb := b.toNat_lt
      have hmul : (b.toNat + 1) * 256 ^ bs.length
          ≤ 256 * 256 ^ bs.length := Nat.mul_le_mul_right _ (by omega)
      unfold bigEndian
      rw [List.length_cons, pow_succ]
      rw [Nat.add_mul] at hmul
      omega

/-- The comparison loop compares the numbers. -/
theorem atMostTarget_iff {hash target : Bytes}
    (h : hash.length = target.length) :
    atMostTarget hash target = true ↔ bigEndian hash ≤ bigEndian target := by
  induction hash generalizing target with
  | nil =>
      cases List.length_eq_zero_iff.mp h.symm
      exact iff_of_true rfl (Nat.le_refl _)
  | cons b bs ih =>
      cases target with
      | nil => cases h
      | cons t ts =>
          have hlen : bs.length = ts.length := Nat.succ.inj h
          have hbs := bigEndian_lt bs
          have hts := bigEndian_lt ts
          unfold atMostTarget bigEndian
          rw [hlen] at hbs ⊢
          split
          case isTrue hlt =>
            have hlt := UInt8.lt_iff_toNat_lt.mp hlt
            have hmul : (b.toNat + 1) * 256 ^ ts.length
                ≤ t.toNat * 256 ^ ts.length := Nat.mul_le_mul_right _ hlt
            rw [Nat.add_mul] at hmul
            refine iff_of_true rfl ?_
            omega
          case isFalse hge =>
            split
            case isTrue hlt =>
              have hlt := UInt8.lt_iff_toNat_lt.mp hlt
              have hmul : (t.toNat + 1) * 256 ^ ts.length
                  ≤ b.toNat * 256 ^ ts.length := Nat.mul_le_mul_right _ hlt
              rw [Nat.add_mul] at hmul
              refine iff_of_false (by decide) ?_
              omega
            case isFalse hle =>
              have heq : b.toNat = t.toNat := by
                rw [UInt8.lt_iff_toNat_lt] at hge hle
                omega
              rw [ih hlen, heq]
              omega

theorem bigEndian_zeros (n : Nat) :
    bigEndian (List.replicate n 0) = 0 := by
  induction n with
  | zero => rfl
  | succ n ih =>
      rw [List.replicate_succ]
      unfold bigEndian
      rw [ih]
      simp

/-- One byte among zeros. -/
theorem bigEndian_set {n i : Nat} (hi : i < n) (b : UInt8) :
    bigEndian ((List.replicate n 0).set i b)
      = b.toNat * 256 ^ (n - 1 - i) := by
  induction n generalizing i with
  | zero => omega
  | succ n ih =>
      rw [List.replicate_succ]
      cases i with
      | zero =>
          rw [List.set_cons_zero]
          unfold bigEndian
          rw [bigEndian_zeros, List.length_replicate]
          rfl
      | succ i =>
          have hi : i < n := by omega
          rw [List.set_cons_succ]
          unfold bigEndian
          rw [ih hi]
          have hexp : n + 1 - 1 - (i + 1) = n - 1 - i := by omega
          rw [hexp]
          simp

/-- The target of a shift is its power of two. -/
theorem bigEndian_stampTarget {shift : Nat} (h : shift < 256) :
    bigEndian (stampTarget shift) = 2 ^ shift := by
  have hbit : 2 ^ (shift % 8) < 256 :=
    Nat.pow_lt_pow_right (by decide) (Nat.mod_lt shift (by decide) : _ < 8)
  have hbyte : (UInt8.ofNat (2 ^ (shift % 8))).toNat = 2 ^ (shift % 8) :=
    Nat.mod_eq_of_lt hbit
  unfold stampTarget
  rw [bigEndian_set (by unfold hashLength; omega), hbyte]
  have hexp : hashLength - 1 - (hashLength - 1 - shift / 8)
      = shift / 8 := by
    unfold hashLength
    omega
  rw [hexp, show 256 = 2 ^ 8 from rfl, ← pow_mul, ← pow_add]
  congr 1
  omega

theorem length_stampTarget (shift : Nat) :
    (stampTarget shift).length = hashLength := by
  unfold stampTarget
  rw [List.length_set, List.length_replicate]

/-- A stamp that passes at a cost passes at every lower one. -/
theorem stampValid_mono {workblock stamp : Bytes} {cost lower : Nat}
    (hle : lower ≤ cost) (h : stampValid P workblock stamp cost = true) :
    stampValid P workblock stamp lower = true := by
  unfold stampValid at *
  by_cases hzero : lower = 0
  · rw [if_pos hzero]
  · have hcost : cost ≠ 0 := by omega
    rw [if_neg hcost] at h
    rw [if_neg hzero]
    split at h
    case isTrue => cases h
    case isFalse hmax =>
      rw [if_neg (by omega)]
      dsimp only at h ⊢
      rw [if_neg (by omega)] at h ⊢
      have hlen (shift : Nat) :
          (fullHash P (workblock ++ stamp)).toList.length
            = (stampTarget shift).length := by
        rw [length_stampTarget]
        exact List.Vector.toList_length _
      rw [atMostTarget_iff (hlen _)] at h ⊢
      refine h.trans ?_
      rw [bigEndian_stampTarget (by omega), bigEndian_stampTarget (by omega)]
      exact Nat.pow_le_pow_right (by decide) (by omega)

-- ============================================================== one stamp

/-- The node's check, on data with a stamp appended: the id is that of
the data, whatever the stamp. -/
theorem validatePnStamp_append {data : Bytes} (stamp : FixedBytes stampSize)
    (hlen : lxmfOverhead < data.length) (cost : Nat) :
    validatePnStamp P (data ++ stamp.toList) cost
      = match stampWorkblock P (fullHash P data).toList
            workblockExpandRoundsPn with
        | .error _ => none
        | .ok workblock =>
            if stampValid P workblock stamp.toList cost then
              some (fullHash P data, data,
                stampValue P workblock stamp.toList, stamp.toList)
            else none := by
  have hstamp : stamp.toList.length = stampSize := stamp.toList_length
  unfold validatePnStamp
  rw [List.length_append, hstamp, if_neg (by omega)]
  dsimp only
  rewrite [Nat.add_sub_cancel, List.take_left, List.drop_left]
  generalize stampWorkblock P (fullHash P data).toList
    workblockExpandRoundsPn = workblock
  cases workblock with
  | error _ => rfl
  | ok _ => rfl

theorem validatePnStamp_id {data : Bytes} {stamp : FixedBytes stampSize}
    (hlen : lxmfOverhead < data.length) {cost : Nat}
    (h : (validatePnStamp P (data ++ stamp.toList) cost).isSome) :
    ∃ value, validatePnStamp P (data ++ stamp.toList) cost
      = some (fullHash P data, data, value, stamp.toList) := by
  rw [validatePnStamp_append stamp hlen] at h ⊢
  split at h
  case h_1 => cases h
  case h_2 =>
    split at h
    case isTrue hvalid =>
      rw [if_pos hvalid]
      exact ⟨_, rfl⟩
    case isFalse => cases h

/-- A stamp the client draws passes the node's check, at the cost it was
drawn for and at every lower one. -/
theorem generatePropagationStamp_valid {m : LXMessage} {rng : OsRng}
    {encrypted : Bytes} {cost value : Nat} {id : Hash32}
    {stamp : FixedBytes stampSize}
    (h : m.generatePropagationStamp P rng encrypted cost
      = .ok (id, stamp, value))
    (hlen : lxmfOverhead < destinationLength + encrypted.length)
    {lower : Nat} (hle : lower ≤ cost) :
    id = m.transientIdFromEncrypted P encrypted
    ∧ (validatePnStamp P (m.destinationHash.toList ++ encrypted
        ++ stamp.toList) lower).isSome := by
  have hdata : lxmfOverhead
      < (m.destinationHash.toList ++ encrypted).length := by
    rw [List.length_append, m.destinationHash.toList_length]
    exact hlen
  unfold LXMessage.generatePropagationStamp at h
  dsimp only at h
  split at h
  case h_2 => cases h
  case h_1 drawn drawnValue hdraw =>
    injection h with h
    injection h with hid h
    injection h with hstamp _
    subst hid hstamp
    refine ⟨rfl, ?_⟩
    rw [validatePnStamp_append _ hdata]
    have hfirst := congrArg Prod.fst hdraw
    unfold generateStamp at hfirst
    unfold LXMessage.transientIdFromEncrypted at hfirst
    cases hworkblock : stampWorkblock P
        (fullHash P (m.destinationHash.toList ++ encrypted)).toList
        workblockExpandRoundsPn with
    | error e =>
        rw [hworkblock] at hfirst
        cases hfirst
    | ok workblock =>
        rw [hworkblock] at hfirst
        dsimp only
        rw [if_pos (stampValid_mono hle (generateStampLoop_valid hfirst))]
        rfl

-- ================================================== from client to node

namespace LxmfRouter

variable {σ : Type}

/-- What the client packs, decoded and processed by a node. -/
def deliverPropagated (P : Platform) (r : LxmfRouter σ) (m : LXMessage)
    (encrypted : Bytes) (stamp : FixedBytes stampSize) (timestamp : F64)
    (nowMs : Nat) (sourceHash : Option Hash16)
    (countClientReceive : Bool) :
    Except RnsError (Option Hash32 × LxmfRouter σ) := do
  let packed ← liftLxmf (m.propagationPackedFromEncrypted P encrypted
    timestamp (some stamp.toList))
  match ← decodePropagatedPayload P packed sourceHash countClientReceive with
  | .propagated timestamp lxmData _ sourceHash countClientReceive =>
      return r.processPropagated P timestamp lxmData nowMs sourceHash
        countClientReceive
  | _ => return (none, r)

/-- The codec carries time and data from one end to the other. -/
theorem deliverPropagated_eq (hP : RmpvCodec P) (r : LxmfRouter σ)
    (m : LXMessage) (encrypted : Bytes) (stamp : FixedBytes stampSize)
    (timestamp : F64) (nowMs : Nat) (sourceHash : Option Hash16)
    (countClientReceive : Bool) :
    r.deliverPropagated P m encrypted stamp timestamp nowMs sourceHash
        countClientReceive
      = .ok (r.processPropagated P timestamp (m.destinationHash.toList
          ++ encrypted ++ stamp.toList) nowMs sourceHash
          countClientReceive) := by
  obtain ⟨packed, hpacked⟩ := hP.write_ok (.array [.f64 timestamp,
    .array [.binary (m.destinationHash.toList ++ encrypted
      ++ stamp.toList)]])
  have hwrite : m.propagationPackedFromEncrypted P encrypted timestamp
      (some stamp.toList) = .ok packed :=
    Except.mapError_eq_ok.mpr hpacked
  unfold deliverPropagated
  rw [hwrite]
  show (do
    match ← decodePropagatedPayload P packed sourceHash
      countClientReceive with
    | .propagated timestamp lxmData _ sourceHash countClientReceive =>
        return r.processPropagated P timestamp lxmData nowMs sourceHash
          countClientReceive
    | _ => return (none, r)) = _
  rw [decodePropagatedPayload_of_read (hP.read_write _ _ hpacked)]
  rfl

theorem stampChecked_of_passes {sent : PropagationEntry} {cost value : Nat}
    {id : Hash32} {unstamped stamp : Bytes}
    (h : validatePnStamp P sent.lxmData cost
      = some (id, unstamped, value, stamp)) :
    stampChecked P (some cost) sent
      = some { sent with
          transientId := id
          lxmData := unstamped ++ stamp } := by
  unfold stampChecked
  dsimp only
  rw [h]

theorem stampChecked_of_fails {sent : PropagationEntry} {cost : Nat}
    (h : validatePnStamp P sent.lxmData cost = none) :
    stampChecked P (some cost) sent = none := by
  unfold stampChecked
  dsimp only
  rw [h]

/-- A first copy is filed under the id of its data. -/
theorem processPropagated_new {r : LxmfRouter σ} {data : Bytes}
    {stamp : FixedBytes stampSize} (hlen : lxmfOverhead < data.length)
    {cost : Nat} (hmin : r.minStampCost = some cost)
    (hvalid : (validatePnStamp P (data ++ stamp.toList) cost).isSome)
    (hnew : r.seen (fullHash P data) = false) (timestamp : F64)
    (nowMs : Nat) (sourceHash : Option Hash16)
    (countClientReceive : Bool) :
    ∃ r' entry, r.processPropagated P timestamp (data ++ stamp.toList)
          nowMs sourceHash countClientReceive
        = (some (fullHash P data), r')
      ∧ entry.transientId = fullHash P data
      ∧ entry.lxmData = data ++ stamp.toList
      ∧ r'.propagationStore = r.propagationStore.insert P entry
      ∧ r'.minStampCost = r.minStampCost
      ∧ r'.seen (fullHash P data) = true := by
  obtain ⟨value, hpasses⟩ := validatePnStamp_id hlen hvalid
  let entry : PropagationEntry :=
    { propagatedEntry P timestamp (data ++ stamp.toList) with
      transientId := fullHash P data }
  let stats := r.countPropagated entry sourceHash countClientReceive
  have hchecked : stampChecked P r.minStampCost
      (propagatedEntry P timestamp (data ++ stamp.toList))
        = some entry := by
    rw [hmin]
    exact stampChecked_of_passes hpasses
  have hunseen : ¬ r.seen entry.transientId = true := by
    show ¬ r.seen (fullHash P data) = true
    rw [hnew]
    decide
  obtain ⟨root, hfile⟩ := fileEntry_eq (P := P)
    { r with nodeStats := stats } entry nowMs
  unfold processPropagated
  rw [hchecked]
  dsimp only
  rw [if_neg hunseen]
  refine ⟨_, entry, congrArg (Prod.mk _) hfile, rfl, rfl, rfl, rfl, ?_⟩
  unfold seen
  rw [Bool.or_eq_true]
  exact .inr (decide_eq_true ((AList.mem_insert _).mpr (.inl rfl)))

/-- A further copy, under whatever stamp, changes nothing. -/
theorem processPropagated_seen {r : LxmfRouter σ} {data : Bytes}
    {stamp : FixedBytes stampSize} (hlen : lxmfOverhead < data.length)
    {cost : Nat} (hmin : r.minStampCost = some cost)
    (hseen : r.seen (fullHash P data) = true) (timestamp : F64)
    (nowMs : Nat) (sourceHash : Option Hash16)
    (countClientReceive : Bool) :
    r.processPropagated P timestamp (data ++ stamp.toList) nowMs sourceHash
      countClientReceive = (none, r) := by
  unfold processPropagated
  rw [hmin]
  by_cases hvalid : (validatePnStamp P (data ++ stamp.toList) cost).isSome
  · obtain ⟨value, hpasses⟩ := validatePnStamp_id hlen hvalid
    rw [stampChecked_of_passes hpasses]
    exact if_pos hseen
  · rw [Option.not_isSome_iff_eq_none] at hvalid
    rw [stampChecked_of_fails hvalid]

end LxmfRouter

/-- What a client packs under a stamp it drew is filed by the node once,
under the client's own id and with the stamp; a copy under another
stamp that passes has the same id and is a duplicate. -/
theorem transient_ids_agree (hP : RmpvCodec P) {σ : Type}
    (r : LxmfRouter σ) (m : LXMessage) (encrypted : Bytes)
    (hlen : lxmfOverhead < destinationLength + encrypted.length)
    {rng : OsRng} {cost value : Nat} {id : Hash32}
    {stamp : FixedBytes stampSize}
    (hdrawn : m.generatePropagationStamp P rng encrypted cost
      = .ok (id, stamp, value))
    {minCost : Nat} (hmin : r.minStampCost = some minCost)
    (hcost : minCost ≤ cost)
    (hnew : r.seen (m.transientIdFromEncrypted P encrypted) = false)
    (timestamp : F64) (nowMs : Nat) (sourceHash : Option Hash16)
    (countClientReceive : Bool) :
    ∃ r' entry,
      r.deliverPropagated P m encrypted stamp timestamp nowMs sourceHash
          countClientReceive
        = .ok (some (m.transientIdFromEncrypted P encrypted), r')
      ∧ r'.propagationStore.entries.entries
        = ⟨m.transientIdFromEncrypted P encrypted, entry⟩
          :: r.propagationStore.entries.entries
      ∧ entry.transientId = m.transientIdFromEncrypted P encrypted
      ∧ entry.lxmData
        = m.destinationHash.toList ++ encrypted ++ stamp.toList
      ∧ ∀ other : FixedBytes stampSize,
        (validatePnStamp P (m.destinationHash.toList ++ encrypted
          ++ other.toList) minCost).isSome →
        (validatePnStamp P (m.destinationHash.toList ++ encrypted
            ++ other.toList) minCost).map (·.1)
          = some (m.transientIdFromEncrypted P encrypted)
        ∧ ∀ timestamp nowMs sourceHash countClientReceive,
          r'.deliverPropagated P m encrypted other timestamp nowMs
            sourceHash countClientReceive = .ok (none, r') := by
  have hdata : lxmfOverhead
      < (m.destinationHash.toList ++ encrypted).length := by
    rw [List.length_append, m.destinationHash.toList_length]
    exact hlen
  obtain ⟨_, hvalid⟩ := generatePropagationStamp_valid hdrawn hlen hcost
  obtain ⟨r', entry, hprocess, hid, hentry, hstored, hmin', hseen⟩ :=
    LxmfRouter.processPropagated_new hdata hmin hvalid hnew timestamp nowMs
      sourceHash countClientReceive
  have hstore : m.transientIdFromEncrypted P encrypted
      ∉ r.propagationStore.entries := by
    unfold LxmfRouter.seen PropagationStore.has at hnew
    rw [Bool.or_eq_false_iff] at hnew
    exact of_decide_eq_false hnew.1
  have hdeliver := (LxmfRouter.deliverPropagated_eq hP r m encrypted stamp
    timestamp nowMs sourceHash countClientReceive).trans
      (congrArg Except.ok hprocess)
  refine ⟨r', entry, hdeliver, ?_, hid, hentry, ?_⟩
  · rw [hstored]
    show (r.propagationStore.entries.insert entry.transientId
      entry).entries = _
    rw [hid]
    exact AList.entries_insert_of_notMem hstore
  · intro other hother
    refine ⟨?_, ?_⟩
    · obtain ⟨otherValue, hpasses⟩ := validatePnStamp_id hdata hother
      rw [hpasses]
      rfl
    · intro timestamp nowMs sourceHash countClientReceive
      rw [LxmfRouter.deliverPropagated_eq hP,
        LxmfRouter.processPropagated_seen hdata (hmin'.trans hmin) hseen]

section TransientIdInstance

open Reference

/-- The expansion of a workblock does not fail on the reference
platform. -/
theorem stampWorkblock_reference (material : Bytes) (rounds : Nat) :
    ∃ workblock, stampWorkblock platform material rounds
      = .ok workblock := by
  unfold stampWorkblock
  generalize List.range rounds = ns
  generalize ([] : Bytes) = workblock
  induction ns generalizing workblock with
  | nil => exact ⟨workblock, rfl⟩
  | cons n ns ih => exact ih _

/-- At cost zero the first stamp drawn will do. -/
theorem generatePropagationStamp_zero (m : LXMessage) (rng : OsRng)
    (encrypted : Bytes) :
    ∃ value, m.generatePropagationStamp platform rng encrypted 0
      = .ok (m.transientIdFromEncrypted platform encrypted,
          rng.fillBytes stampSize 0, value) := by
  obtain ⟨workblock, hworkblock⟩ := stampWorkblock_reference
    (m.transientIdFromEncrypted platform encrypted).toList
    workblockExpandRoundsPn
  have hstamp : generateStamp platform rng
      (m.transientIdFromEncrypted platform encrypted) 0
      workblockExpandRoundsPn
        = (some (rng.fillBytes stampSize 0), stampValue platform workblock
            (rng.fillBytes stampSize 0).toList) := by
    unfold generateStamp
    rw [hworkblock]
    show generateStampLoop platform rng workblock 0 0 (u32Max - 1 + 1) = _
    unfold generateStampLoop
    exact if_pos rfl
  unfold LXMessage.generatePropagationStamp
  dsimp only
  rw [hstamp]
  exact ⟨_, rfl⟩

/-- A hundred bytes of ciphertext. -/
def docCiphertext : Bytes := List.replicate 100 0x55

theorem transient_ids_agree_doc :
    ∃ r' entry,
      (docNode.setPropagationValidation 2 3).deliverPropagated platform
          docMessage docCiphertext (OsRng.fillBytes (fun _ => 7) stampSize 0)
          (.fin 1) 0 none true
        = .ok (some (docMessage.transientIdFromEncrypted platform
            docCiphertext), r')
      ∧ r'.propagationStore.entries.entries
        = [⟨docMessage.transientIdFromEncrypted platform docCiphertext,
            entry⟩] := by
  obtain ⟨value, hdrawn⟩ := generatePropagationStamp_zero docMessage
    (fun _ => 7) docCiphertext
  obtain ⟨r', entry, hdeliver, hentries, _⟩ :=
    transient_ids_agree platform_rmpvCodec
      (docNode.setPropagationValidation 2 3) docMessage docCiphertext
      (by decide) hdrawn rfl (Nat.le_refl 0) rfl (.fin 1) 0 none true
  exact ⟨r', entry, hdeliver, hentries⟩

end TransientIdInstance

end Lxmf
