/-
The four tables a router writes through, and their files.

# The tables

Tickets, stamp costs, the ids delivered here and the ids processed here
each have a file of their own below the storage root, with a codec of
its own. `Tables` is the part of a router they make up, with the root.

# What a file keeps

A reader drops what it does not expect: a time before zero, a cost above
32 bits, an id without a positive time. A table without such entries is
`Readable`, and reads back as it was (`load_save`).

# Steps

An operation changes the tables by steps of four kinds (`TableStep`),
each of which writes the file of what it changes or no file of a table
at all. A step keeps the tables `Persisted`, and so does every sequence
of steps.
-/
import Mathlib.Data.Option.Basic
import Mathlib.Logic.Relation
import Lxmf.Library.Lookup
import Lxmf.Proofs.FileStore
import Lxmf.Router.Restart

namespace Lxmf

-- ======================================================= one value a file

namespace Disk

variable {P : Platform} {disk : Disk} {path other : String} {v : Value}

theorem loadValue_saveValue (hP : RmpvCodec P) :
    (disk.saveValue P path v).loadValue P path = some v := by
  obtain ⟨buf, hbuf⟩ := hP.write_ok v
  unfold saveValue loadValue
  rw [hbuf]
  dsimp only
  rw [AList.lookup_insert]
  show (P.readValue buf).toOption = some v
  rw [hP.read_write v buf hbuf]
  rfl

theorem lookup_saveValue_of_ne (h : other ≠ path) :
    (disk.saveValue P path v).lookup other = disk.lookup other := by
  unfold saveValue
  split
  case h_1 => exact AList.lookup_insert_ne h
  case h_2 => rfl

/-- What is read depends on the one file. -/
theorem loadValue_congr {disk' : Disk}
    (h : disk'.lookup path = disk.lookup path) :
    disk'.loadValue P path = disk.loadValue P path := by
  unfold loadValue
  rw [h]

theorem loadValue_saveValue_of_ne (h : other ≠ path) :
    (disk.saveValue P path v).loadValue P other
      = disk.loadValue P other :=
  loadValue_congr (lookup_saveValue_of_ne h)

end Disk

/-- A map written entry by entry and read back. -/
theorem readEntries_lookup {K V W : Type} [DecidableEq K]
    (m : HashMap K V) (write : K → V → Value × Value)
    {read : Value × Value → Option (K × W)} {f : V → W}
    (h : ∀ k v, m.lookup k = some v → read (write k v) = some (k, f v))
    (k : K) :
    (readEntries read (m.entries.map fun e => write e.1 e.2)).lookup k
      = (m.lookup k).map f := by
  have hread : (m.entries.map fun e => write e.1 e.2).filterMap read
      = m.entries.map fun e => (e.1, f e.2) := by
    rw [List.filterMap_map, ← List.filterMap_eq_map]
    exact List.filterMap_congr fun e he =>
      h e.1 e.2 (AList.mem_lookup_iff.mpr he)
  unfold readEntries
  rw [hread, List.foldl_map]
  exact AList.lookup_rebuild f m k

/-- What is found in a map that was read comes from an entry of it. -/
theorem readEntries_spec {K V : Type} [DecidableEq K]
    {read : Value × Value → Option (K × V)}
    {entries : List (Value × Value)} {k : K} {v : V}
    (h : (readEntries read entries).lookup k = some v) :
    ∃ e ∈ entries, read e = some (k, v) := by
  suffices ∀ (l : List (K × V)) (m : HashMap K V),
      (l.foldl (fun m e => m.insert e.1 e.2) m).lookup k = some v →
      (k, v) ∈ l ∨ m.lookup k = some v by
    rcases this (entries.filterMap read) ∅ h with hmem | hnone
    · exact List.mem_filterMap.mp hmem
    · cases hnone
  intro l
  induction l with
  | nil => exact fun m hm => .inr hm
  | cons e l ih =>
      intro m hm
      rcases ih (m.insert e.1 e.2) hm with hmem | hold
      · exact .inl (List.mem_cons_of_mem e hmem)
      · by_cases hk : k = e.1
        · rw [hk, AList.lookup_insert] at hold
          injection hold with hv
          rw [hk, ← hv]
          exact .inl List.mem_cons_self
        · rw [AList.lookup_insert_ne hk] at hold
          exact .inr hold

-- ========================================================= the transients

/-- Every time in the cache is positive. -/
def CacheReadable (cache : HashMap Hash32 F64) : Prop :=
  ∀ id t, cache.lookup id = some t → (F64.fin 0).lt t = true

theorem transientCache_read {cache : HashMap Hash32 F64}
    (h : CacheReadable cache) :
    (transientCacheFromValue (transientCacheToValue cache)).Agrees
      cache := by
  intro id
  refine (readEntries_lookup (f := fun t => t) cache
    (fun id t => (.binary id.toList, .f64 t)) ?_ id).trans
    Option.map_id_apply
  intro id t ht
  have hpos := h id t ht
  simp [valueToF64, hpos]

/-- The reader yields positive times only. -/
theorem transientCacheFromValue_readable (v : Value) :
    CacheReadable (transientCacheFromValue v) := by
  intro id t h
  obtain ⟨e, _, hread⟩ := readEntries_spec h
  obtain ⟨id', _, hread⟩ := Option.bind_eq_some_iff.mp hread
  dsimp only at hread
  split at hread
  case isTrue hpos =>
    cases hread
    exact hpos
  case isFalse => cases hread

-- ============================================================= the costs

/-- The time can be read back. -/
def F64.NotNegative (t : F64) : Prop := t.lt (.fin 0) = false

theorem valueToF64Seconds_f64 {t : F64} (h : t.NotNegative) :
    valueToF64Seconds (.f64 t) = some t := by
  unfold valueToF64Seconds
  show (if t.lt (.fin 0) = true then none else some t) = some t
  rw [h]
  rfl

theorem valueToF64Seconds_notNegative {v : Value} {t : F64}
    (h : valueToF64Seconds v = some t) : t.NotNegative := by
  unfold valueToF64Seconds at h
  split at h
  case h_1 i _ =>
    split at h
    case isTrue hi =>
      cases h
      unfold F64.NotNegative F64.ofI64
      rw [if_neg (Int.not_lt.mpr hi)]
      simp [F64.lt]
    case isFalse => cases h
  case h_2 =>
    obtain ⟨u, _, hu⟩ := Option.bind_eq_some_iff.mp h
    split at hu
    case isTrue => cases hu
    case isFalse hneg =>
      cases hu
      exact Bool.eq_false_of_not_eq_true hneg

/-- Every cost is a `u32`, of a time that is not before zero. -/
def CostsReadable (costs : HashMap Hash16 (F64 × Nat)) : Prop :=
  ∀ dest e, costs.lookup dest = some e →
    e.1.NotNegative ∧ e.2 ≤ u32Max

theorem valueToOptU32_le {v : Value} {n : Nat}
    (h : valueToOptU32 v = some n) : n ≤ u32Max := by
  obtain ⟨i, _, hi⟩ := Option.map_eq_some_iff.mp h
  rw [← hi]
  exact Nat.le_sub_one_of_lt (BitVec.isLt _)

theorem stampCosts_read {costs : HashMap Hash16 (F64 × Nat)}
    (h : CostsReadable costs) :
    (stampCostsFromValue (stampCostsToValue costs)).Agrees costs := by
  intro dest
  refine (readEntries_lookup (f := fun e => e) costs
    (fun dest e => (.binary dest.toList, .array [.f64 e.1, .ofNat e.2]))
    ?_ dest).trans Option.map_id_apply
  intro dest e he
  obtain ⟨htime, hcost⟩ := h dest e he
  have hlt : e.2 < 2 ^ 32 := Nat.lt_succ_of_le hcost
  have hlow : valueToOptU32 (.ofNat e.2) = some e.2 := by
    rw [valueToOptU32_ofNat, Nat.mod_eq_of_lt hlt]
  simp [valueToF64Seconds_f64 htime, hlow]

theorem stampCostsFromValue_readable (v : Value) :
    CostsReadable (stampCostsFromValue v) := by
  intro dest e h
  obtain ⟨entry, _, hread⟩ := readEntries_spec h
  obtain ⟨dest', _, hread⟩ := Option.bind_eq_some_iff.mp hread
  split at hread
  case h_1 =>
    obtain ⟨t, ht, hread⟩ := Option.bind_eq_some_iff.mp hread
    obtain ⟨cost, hcost, hread⟩ := Option.bind_eq_some_iff.mp hread
    cases hread
    exact ⟨valueToF64Seconds_notNegative ht, valueToOptU32_le hcost⟩
  case h_2 => cases hread

-- =========================================================== the tickets

namespace TicketStore

/-- No time in the store is before zero. -/
structure Readable (ts : TicketStore) : Prop where
  outbound : ∀ (dest : Hash16) (entry : TicketEntry),
    ts.outbound.lookup dest = some entry → entry.expiresAtS.NotNegative
  inbound : ∀ (dest : Hash16) (ticket : Bytes) (t : F64),
    (ts.issued dest).lookup ticket = some t → t.NotNegative
  lastDeliveries : ∀ (dest : Hash16) (t : F64),
    ts.lastDeliveries.lookup dest = some t → t.NotNegative

/-- The two hold the same tickets and deliveries. -/
structure Agrees (ts ts' : TicketStore) : Prop where
  outbound : ts.outbound.Agrees ts'.outbound
  inbound : ∀ dest : Hash16, Option.Rel AList.Agrees
    (ts.inbound.lookup dest) (ts'.inbound.lookup dest)
  lastDeliveries : ts.lastDeliveries.Agrees ts'.lastDeliveries

variable {ts : TicketStore}

theorem snapshot_outbound (dest : Hash16) :
    ts.snapshot.outbound.lookup dest
      = (ts.outbound.lookup dest).map fun e => (e.expiresAtS, e.ticket) :=
  AList.lookup_rebuild (fun e : TicketEntry => (e.expiresAtS, e.ticket))
    ts.outbound dest

theorem restore_outbound (snapshot : TicketStoreSnapshot) (dest : Hash16) :
    (restore snapshot).outbound.lookup dest
      = (snapshot.outbound.lookup dest).map fun e => ⟨e.1, e.2⟩ :=
  AList.lookup_rebuild (fun e : F64 × Bytes => TicketEntry.mk e.1 e.2)
    snapshot.outbound dest

/-- What a snapshot of the tickets reads back as. -/
def reread (snapshot : TicketStoreSnapshot) : TicketStoreSnapshot where
  outbound := ticketsOutboundFromValue
    (ticketsOutboundToValue snapshot.outbound)
  inbound := ticketsInboundFromValue
    (ticketsInboundToValue snapshot.inbound)
  lastDeliveries := ticketsLastDeliveriesFromValue
    (ticketsLastDeliveriesToValue snapshot.lastDeliveries)

theorem reread_outbound (h : ts.Readable) (dest : Hash16) :
    (reread ts.snapshot).outbound.lookup dest
      = ts.snapshot.outbound.lookup dest := by
  refine (readEntries_lookup (f := fun e => e) ts.snapshot.outbound
    (fun dest e => (.binary dest.toList, .array [.f64 e.1, .binary e.2]))
    ?_ dest).trans Option.map_id_apply
  intro dest e he
  rw [snapshot_outbound] at he
  obtain ⟨entry, hentry, rfl⟩ := Option.map_eq_some_iff.mp he
  simp [valueToF64Seconds_f64 (h.outbound dest entry hentry)]

/-- The tickets of one destination. -/
theorem readInboundTickets {tickets : HashMap Bytes F64}
    (h : ∀ ticket t, tickets.lookup ticket = some t → t.NotNegative) :
    (readEntries readInboundTicket (tickets.entries.map fun t =>
      (.binary t.1, .array [.f64 t.2]))).Agrees tickets := by
  intro ticket
  refine (readEntries_lookup (f := fun t => t) tickets
    (fun ticket t => (.binary ticket, .array [.f64 t]))
    ?_ ticket).trans Option.map_id_apply
  intro ticket t ht
  simp [readInboundTicket, valueToBytes,
    valueToF64Seconds_f64 (h ticket t ht)]

theorem reread_inbound (h : ts.Readable) (dest : Hash16) :
    Option.Rel AList.Agrees ((reread ts.snapshot).inbound.lookup dest)
      (ts.inbound.lookup dest) := by
  have hread : (reread ts.snapshot).inbound.lookup dest
      = (ts.inbound.lookup dest).map fun tickets =>
        readEntries readInboundTicket (tickets.entries.map fun t =>
          (.binary t.1, .array [.f64 t.2])) := by
    refine readEntries_lookup ts.inbound (fun dest tickets =>
      (.binary dest.toList, .map (tickets.entries.map fun t =>
        (.binary t.1, .array [.f64 t.2])))) ?_ dest
    intro dest tickets _
    simp
  rw [hread]
  cases hlookup : ts.inbound.lookup dest with
  | none => exact .none
  | some tickets =>
      refine .some (readInboundTickets fun ticket t ht => ?_)
      refine h.inbound dest ticket t ?_
      unfold issued
      rw [hlookup]
      exact ht

theorem reread_lastDeliveries (h : ts.Readable) (dest : Hash16) :
    (reread ts.snapshot).lastDeliveries.lookup dest
      = ts.lastDeliveries.lookup dest := by
  refine (readEntries_lookup (f := fun t => t) ts.lastDeliveries
    (fun dest t => (.binary dest.toList, .f64 t))
    ?_ dest).trans Option.map_id_apply
  intro dest t ht
  simp [valueToF64Seconds_f64 (h.lastDeliveries dest t ht)]

/-- A readable store reads back as it was. -/
theorem restore_reread (h : ts.Readable) :
    (restore (reread ts.snapshot)).Agrees ts where
  outbound dest := by
    rw [restore_outbound, reread_outbound h, snapshot_outbound,
      Option.map_map]
    exact Option.map_id_apply
  inbound := reread_inbound h
  lastDeliveries := reread_lastDeliveries h

-- ------------------------------------------------------ from any file

theorem ticketsOutboundFromValue_notNegative {v : Value} {dest : Hash16}
    {e : F64 × Bytes}
    (h : (ticketsOutboundFromValue v).lookup dest = some e) :
    e.1.NotNegative := by
  obtain ⟨entry, _, hread⟩ := readEntries_spec h
  obtain ⟨dest', _, hread⟩ := Option.bind_eq_some_iff.mp hread
  split at hread
  case h_1 =>
    obtain ⟨t, ht, hread⟩ := Option.bind_eq_some_iff.mp hread
    cases hread
    exact valueToF64Seconds_notNegative ht
  case h_2 => cases hread

theorem readInboundTicket_notNegative {e : Value × Value} {ticket : Bytes}
    {t : F64} (h : readInboundTicket e = some (ticket, t)) :
    t.NotNegative := by
  obtain ⟨ticket', _, hread⟩ := Option.bind_eq_some_iff.mp h
  dsimp only at hread
  split at hread
  case h_1 =>
    obtain ⟨t', ht, hread⟩ := Option.bind_eq_some_iff.mp hread
    cases hread
    exact valueToF64Seconds_notNegative ht
  case h_2 =>
    obtain ⟨t', ht, hread⟩ := Option.bind_eq_some_iff.mp hread
    cases hread
    exact valueToF64Seconds_notNegative ht

theorem ticketsInboundFromValue_notNegative {v : Value} {dest : Hash16}
    {tickets : HashMap Bytes F64} {ticket : Bytes} {t : F64}
    (h : (ticketsInboundFromValue v).lookup dest = some tickets)
    (ht : tickets.lookup ticket = some t) : t.NotNegative := by
  obtain ⟨entry, _, hread⟩ := readEntries_spec h
  obtain ⟨dest', _, hread⟩ := Option.bind_eq_some_iff.mp hread
  split at hread
  case h_1 =>
    cases hread
    obtain ⟨e, _, he⟩ := readEntries_spec ht
    exact readInboundTicket_notNegative he
  case h_2 => cases hread

theorem ticketsLastDeliveriesFromValue_notNegative {v : Value}
    {dest : Hash16} {t : F64}
    (h : (ticketsLastDeliveriesFromValue v).lookup dest = some t) :
    t.NotNegative := by
  obtain ⟨entry, _, hread⟩ := readEntries_spec h
  obtain ⟨dest', _, hread⟩ := Option.bind_eq_some_iff.mp hread
  obtain ⟨t', ht, hread⟩ := Option.bind_eq_some_iff.mp hread
  cases hread
  exact valueToF64Seconds_notNegative ht

end TicketStore

/-- A table under a key: the default, or read from some value. -/
theorem assignedField_getD {α : Type} (entries : List (Value × Value))
    (key : String) (read : Value → α) (empty : α) :
    (assignedField entries key fun v => some (read v)).getD empty = empty
      ∨ ∃ v, (assignedField entries key fun v => some (read v)).getD empty
        = read v := by
  unfold assignedField
  cases (fieldValues entries key).getLast? with
  | none => exact .inl rfl
  | some v => exact .inr ⟨v, rfl⟩

namespace Disk

variable {P : Platform}

theorem loadAvailableTickets_save (hP : RmpvCodec P) (disk : Disk)
    (snapshot : TicketStoreSnapshot) :
    (disk.saveAvailableTickets P snapshot).loadAvailableTickets P
      = TicketStore.reread snapshot := by
  unfold saveAvailableTickets loadAvailableTickets
  rw [loadValue_saveValue hP]
  rfl

/-- Whatever the file holds, the tickets read from it are readable. -/
theorem loadAvailableTickets_readable (disk : Disk) :
    (TicketStore.restore (disk.loadAvailableTickets P)).Readable := by
  generalize hloaded : disk.loadAvailableTickets P = loaded
  unfold loadAvailableTickets at hloaded
  dsimp only at hloaded
  generalize ((disk.loadValue P "available_tickets").map
    mapEntries).getD [] = entries at hloaded
  refine ⟨?_, ?_, ?_⟩
  · intro dest entry hentry
    rw [TicketStore.restore_outbound, ← hloaded] at hentry
    obtain ⟨e, he, rfl⟩ := Option.map_eq_some_iff.mp hentry
    rcases assignedField_getD entries "outbound" ticketsOutboundFromValue ∅
      with hempty | ⟨v, hv⟩
    · rw [hempty] at he
      cases he
    · rw [hv] at he
      exact TicketStore.ticketsOutboundFromValue_notNegative he
  · intro dest ticket t ht
    show t.NotNegative
    have hissued : (TicketStore.restore loaded).issued dest
        = (loaded.inbound.lookup dest).getD ∅ := rfl
    rw [hissued, ← hloaded] at ht
    rcases assignedField_getD entries "inbound" ticketsInboundFromValue ∅
      with hempty | ⟨v, hv⟩
    · rw [hempty] at ht
      cases ht
    · rw [hv] at ht
      cases htickets : (ticketsInboundFromValue v).lookup dest with
      | none =>
          rw [htickets] at ht
          cases ht
      | some tickets =>
          rw [htickets] at ht
          exact TicketStore.ticketsInboundFromValue_notNegative htickets ht
  · intro dest t ht
    have hlast : (TicketStore.restore loaded).lastDeliveries
        = loaded.lastDeliveries := rfl
    rw [hlast, ← hloaded] at ht
    rcases assignedField_getD entries "last_deliveries"
      ticketsLastDeliveriesFromValue ∅ with hempty | ⟨v, hv⟩
    · rw [hempty] at ht
      cases ht
    · rw [hv] at ht
      exact TicketStore.ticketsLastDeliveriesFromValue_notNegative ht

end Disk

-- ================================================ readable operations

theorem nowS_notNegative (nowMs : Nat) : (nowS nowMs).NotNegative := by
  unfold F64.NotNegative nowS F64.lt
  rw [decide_eq_false_iff_not, not_lt]
  positivity

theorem nowS_pos {nowMs : Nat} (h : 0 < nowMs) :
    (F64.fin 0).lt (nowS nowMs) = true := by
  unfold nowS F64.lt
  rw [decide_eq_true_iff]
  positivity

/-- A time after now. -/
theorem notNegative_of_nowS_lt {nowMs : Nat} {t : F64}
    (h : (nowS nowMs).lt t = true) : t.NotNegative := by
  cases t with
  | nan => rfl
  | inf negative =>
      cases negative with
      | true => cases h
      | false => rfl
  | fin q =>
      have hnow : (0 : ℚ) ≤ nowMs / 1000 := by positivity
      have hq : ((nowMs : ℚ) / 1000) < q := of_decide_eq_true h
      exact decide_eq_false (not_lt.mpr (hnow.trans hq.le))

theorem CacheReadable.retain {cache : HashMap Hash32 F64}
    (h : CacheReadable cache) (keep : Hash32 → F64 → Bool) :
    CacheReadable (cache.retain keep) := by
  intro id t ht
  rw [HashMap.lookup_retain, Option.filter_eq_some_iff] at ht
  exact h id t ht.1

theorem CacheReadable.insert {cache : HashMap Hash32 F64}
    (h : CacheReadable cache) (id : Hash32) {t : F64}
    (ht : (F64.fin 0).lt t = true) :
    CacheReadable (cache.insert id t) := by
  intro other u hu
  by_cases hid : other = id
  · rw [hid, AList.lookup_insert] at hu
    cases hu
    exact ht
  · rw [AList.lookup_insert_ne hid] at hu
    exact h other u hu

theorem CostsReadable.retain {costs : HashMap Hash16 (F64 × Nat)}
    (h : CostsReadable costs) (keep : Hash16 → F64 × Nat → Bool) :
    CostsReadable (costs.retain keep) := by
  intro dest e he
  rw [HashMap.lookup_retain, Option.filter_eq_some_iff] at he
  exact h dest e he.1

theorem CostsReadable.insert {costs : HashMap Hash16 (F64 × Nat)}
    (h : CostsReadable costs) (dest : Hash16) {e : F64 × Nat}
    (he : e.1.NotNegative ∧ e.2 ≤ u32Max) :
    CostsReadable (costs.insert dest e) := by
  intro other u hu
  by_cases hdest : other = dest
  · rw [hdest, AList.lookup_insert] at hu
    cases hu
    exact he
  · rw [AList.lookup_insert_ne hdest] at hu
    exact h other u hu

theorem CostsReadable.erase {costs : HashMap Hash16 (F64 × Nat)}
    (h : CostsReadable costs) (dest : Hash16) :
    CostsReadable (costs.erase dest) := by
  intro other u hu
  by_cases hdest : other = dest
  · rw [hdest, AList.lookup_erase] at hu
    cases hu
  · rw [AList.lookup_erase_ne hdest] at hu
    exact h other u hu

namespace TicketStore

variable {ts : TicketStore} {dest other : Hash16}

theorem issued_insert_self (tickets : HashMap Bytes F64) :
    issued { ts with inbound := ts.inbound.insert dest tickets } dest
      = tickets := by
  unfold issued
  rw [AList.lookup_insert]
  rfl

theorem issued_insert_of_ne (h : other ≠ dest)
    (tickets : HashMap Bytes F64) :
    issued { ts with inbound := ts.inbound.insert dest tickets } other
      = ts.issued other := by
  unfold issued
  rw [AList.lookup_insert_ne h]

/-- The issued tickets within their grace. -/
def unexpired (nowMs : Nat) (tickets : HashMap Bytes F64) :
    HashMap Bytes F64 :=
  tickets.retain fun _ expiresAt =>
    (nowS nowMs).le (expiresAt.add (.fin ticketGrace))

theorem cleanExpired_inbound (nowMs : Nat) (dest : Hash16) :
    (ts.cleanExpired nowMs).inbound.lookup dest
      = (ts.inbound.lookup dest).map (unexpired nowMs) := by
  refine (AList.lookup_assign_keys (fun dest =>
    unexpired nowMs (ts.issued dest)) ts.inbound dest).trans ?_
  unfold issued
  cases ts.inbound.lookup dest with
  | none => rfl
  | some tickets => rfl

theorem issued_cleanExpired (nowMs : Nat) (dest : Hash16) :
    (ts.cleanExpired nowMs).issued dest
      = unexpired nowMs (ts.issued dest) := by
  unfold issued
  rw [cleanExpired_inbound]
  cases ts.inbound.lookup dest with
  | none => rfl
  | some tickets => rfl

theorem Readable.rememberTicket (h : ts.Readable) {entry : TicketEntry}
    (hentry : entry.expiresAtS.NotNegative) :
    (ts.rememberTicket dest entry).Readable where
  outbound other e he := by
    by_cases hother : other = dest
    · subst hother
      rw [TicketStore.rememberTicket, AList.lookup_insert] at he
      cases he
      exact hentry
    · rw [TicketStore.rememberTicket, AList.lookup_insert_ne hother] at he
      exact h.outbound other e he
  inbound := h.inbound
  lastDeliveries := h.lastDeliveries

theorem Readable.markTicketDelivered (h : ts.Readable) (nowMs : Nat) :
    (ts.markTicketDelivered dest nowMs).Readable where
  outbound := h.outbound
  inbound := h.inbound
  lastDeliveries other t ht := by
    by_cases hother : other = dest
    · subst hother
      rw [TicketStore.markTicketDelivered, AList.lookup_insert] at ht
      cases ht
      exact nowS_notNegative nowMs
    · rw [TicketStore.markTicketDelivered,
        AList.lookup_insert_ne hother] at ht
      exact h.lastDeliveries other t ht

theorem Readable.cleanExpired (h : ts.Readable) (nowMs : Nat) :
    (ts.cleanExpired nowMs).Readable where
  outbound other e he := by
    rw [TicketStore.cleanExpired, HashMap.lookup_retain,
      Option.filter_eq_some_iff] at he
    exact h.outbound other e he.1
  inbound other ticket t ht := by
    rw [issued_cleanExpired, unexpired, HashMap.lookup_retain,
      Option.filter_eq_some_iff] at ht
    exact h.inbound other ticket t ht.1
  lastDeliveries := h.lastDeliveries

/-- A ticket of a store into which one was put is that one or an old
one. -/
theorem lookup_issue {ticket found : Bytes} {x y : F64}
    (h : (issued { ts with
      inbound := ts.inbound.insert dest ((ts.issued dest).insert ticket x) }
        other).lookup found = some y) :
    (found = ticket ∧ y = x) ∨ (ts.issued other).lookup found = some y := by
  by_cases hother : other = dest
  · subst hother
    rw [issued_insert_self] at h
    by_cases hfound : found = ticket
    · rw [hfound, AList.lookup_insert] at h
      cases h
      exact .inl ⟨hfound, rfl⟩
    · rw [AList.lookup_insert_ne hfound] at h
      exact .inr h
  · rw [issued_insert_of_ne hother] at h
    exact .inr h

/-- A ticket just issued expires after now. -/
theorem Readable.issue (h : ts.Readable) (nowMs expiryS : Nat)
    (ticket : Bytes) :
    Readable { ts with
      inbound := ts.inbound.insert dest ((ts.issued dest).insert ticket
        ((nowS nowMs).add (.fin expiryS))) } where
  outbound := h.outbound
  inbound other found t ht := by
    rcases lookup_issue ht with ⟨-, rfl⟩ | hold
    · unfold F64.NotNegative nowS F64.add F64.lt
      rw [decide_eq_false_iff_not, not_lt]
      positivity
    · exact h.inbound other found t hold
  lastDeliveries := h.lastDeliveries

/-- Nothing is generated, and nothing changes; one of the issued tickets
is taken; or, where none can be, a new one is issued. -/
theorem generateTicket_cases (ts : TicketStore) (dest : Hash16)
    (nowMs expiryS : Nat) (rng : OsRng) :
    ts.generateTicket dest nowMs expiryS rng = (none, ts)
      ∨ (∃ entry, ts.reusable dest (nowS nowMs) = some entry
        ∧ ts.generateTicket dest nowMs expiryS rng = (some entry, ts))
      ∨ ts.reusable dest (nowS nowMs) = none
        ∧ ts.generateTicket dest nowMs expiryS rng
          = (some ⟨(nowS nowMs).add (.fin expiryS),
              (rng.fillBytes ticketLength 0).toList⟩, { ts with
            inbound := ts.inbound.insert dest ((ts.issued dest).insert
              (rng.fillBytes ticketLength 0).toList
              ((nowS nowMs).add (.fin expiryS))) }) := by
  unfold generateTicket
  dsimp only
  split
  case isTrue => exact .inl rfl
  case isFalse =>
    split
    case h_1 entry hentry => exact .inr (.inl ⟨entry, hentry, rfl⟩)
    case h_2 hnone => exact .inr (.inr ⟨hnone, rfl⟩)

theorem Readable.generateTicket (h : ts.Readable) (dest : Hash16)
    (nowMs expiryS : Nat) (rng : OsRng) :
    (ts.generateTicket dest nowMs expiryS rng).2.Readable := by
  rcases generateTicket_cases ts dest nowMs expiryS rng with
    heq | ⟨entry, _, heq⟩ | ⟨-, heq⟩
  · rw [heq]
    exact h
  · rw [heq]
    exact h
  · rw [heq]
    exact h.issue nowMs expiryS _

end TicketStore

-- ============================================================ the tables

/-- What a router writes through, and the root it writes below. -/
structure Tables where
  ticketStore : TicketStore
  outboundStampCosts : HashMap Hash16 (F64 × Nat)
  localDeliveries : HashMap Hash32 F64
  locallyProcessed : HashMap Hash32 F64
  persistenceRoot : Option Disk

namespace Tables

/-- Nothing in the tables is lost on the way to a file and back. -/
structure Readable (t : Tables) : Prop where
  tickets : t.ticketStore.Readable
  costs : CostsReadable t.outboundStampCosts
  delivered : CacheReadable t.localDeliveries
  processed : CacheReadable t.locallyProcessed

/-- The files decode to the tables. -/
structure StoredIn (P : Platform) (t : Tables) (disk : Disk) : Prop where
  tickets : (TicketStore.restore (disk.loadAvailableTickets P)).Agrees
    t.ticketStore
  costs : (disk.loadOutboundStampCosts P).Agrees t.outboundStampCosts
  delivered : (disk.loadLocalDeliveries P).Agrees t.localDeliveries
  processed : (disk.loadLocallyProcessed P).Agrees t.locallyProcessed

/-- The tables have a root, and its files decode to them. -/
structure Persisted (P : Platform) (t : Tables) : Prop where
  readable : t.Readable
  stored : ∃ disk, t.persistenceRoot = some disk ∧ t.StoredIn P disk

end Tables

/-- The files of the tables. -/
def tableFiles : List String :=
  ["available_tickets", "outbound_stamp_costs", "local_deliveries",
   "locally_processed"]

/-- The change leaves the files of the tables alone. -/
def LeavesTables (f : Disk → Disk) : Prop :=
  ∀ disk path, path ∈ tableFiles → (f disk).lookup path = disk.lookup path

/-- The ways a table changes. A readable table stays readable as long as
`ok` holds, which says what the step has to be given. -/
inductive TableStep (P : Platform) (ok : Prop) :
    Tables → Tables → Prop where
  | tickets (t : Tables) (ts : TicketStore)
      (h : ok → t.ticketStore.Readable → ts.Readable) :
      TableStep P ok t { t with
        ticketStore := ts
        persistenceRoot := t.persistenceRoot.map
          (Disk.saveAvailableTickets P ts.snapshot) }
  | costs (t : Tables) (costs : HashMap Hash16 (F64 × Nat))
      (h : ok → CostsReadable t.outboundStampCosts → CostsReadable costs) :
      TableStep P ok t { t with
        outboundStampCosts := costs
        persistenceRoot := t.persistenceRoot.map
          (Disk.saveOutboundStampCosts P costs) }
  | caches (t : Tables) (delivered processed : HashMap Hash32 F64)
      (hdelivered : ok → CacheReadable t.localDeliveries →
        CacheReadable delivered)
      (hprocessed : ok → CacheReadable t.locallyProcessed →
        CacheReadable processed) :
      TableStep P ok t { t with
        localDeliveries := delivered
        locallyProcessed := processed
        persistenceRoot := t.persistenceRoot.map fun disk =>
          Disk.saveLocallyProcessed P processed
            (Disk.saveLocalDeliveries P delivered disk) }
  | file (t : Tables) (f : Disk → Disk) (h : LeavesTables f) :
      TableStep P ok t { t with persistenceRoot := t.persistenceRoot.map f }

namespace Tables

variable {P : Platform} {t t' : Tables} {disk disk' : Disk}

/-- What is stored is told by the four files. -/
theorem StoredIn.congr (h : t.StoredIn P disk)
    (hfiles : ∀ path ∈ tableFiles, disk'.lookup path = disk.lookup path) :
    t.StoredIn P disk' where
  tickets := by
    unfold Disk.loadAvailableTickets
    rw [Disk.loadValue_congr (hfiles _ (by simp [tableFiles]))]
    exact h.tickets
  costs := by
    unfold Disk.loadOutboundStampCosts
    rw [Disk.loadValue_congr (hfiles _ (by simp [tableFiles]))]
    exact h.costs
  delivered := by
    unfold Disk.loadLocalDeliveries Disk.loadTransientCache
    rw [Disk.loadValue_congr (hfiles _ (by simp [tableFiles]))]
    exact h.delivered
  processed := by
    unfold Disk.loadLocallyProcessed Disk.loadTransientCache
    rw [Disk.loadValue_congr (hfiles _ (by simp [tableFiles]))]
    exact h.processed

theorem StoredIn.saveTickets (hP : RmpvCodec P) (h : t.StoredIn P disk)
    {ts : TicketStore} (hts : ts.Readable) :
    StoredIn P { t with ticketStore := ts }
      (disk.saveAvailableTickets P ts.snapshot) where
  tickets := by
    rw [Disk.loadAvailableTickets_save hP]
    exact TicketStore.restore_reread hts
  costs := by
    unfold Disk.loadOutboundStampCosts Disk.saveAvailableTickets
    rw [Disk.loadValue_saveValue_of_ne (by decide)]
    exact h.costs
  delivered := by
    unfold Disk.loadLocalDeliveries Disk.loadTransientCache
      Disk.saveAvailableTickets
    rw [Disk.loadValue_saveValue_of_ne (by decide)]
    exact h.delivered
  processed := by
    unfold Disk.loadLocallyProcessed Disk.loadTransientCache
      Disk.saveAvailableTickets
    rw [Disk.loadValue_saveValue_of_ne (by decide)]
    exact h.processed

theorem StoredIn.saveCosts (hP : RmpvCodec P) (h : t.StoredIn P disk)
    {costs : HashMap Hash16 (F64 × Nat)} (hcosts : CostsReadable costs) :
    StoredIn P { t with outboundStampCosts := costs }
      (disk.saveOutboundStampCosts P costs) where
  tickets := by
    unfold Disk.loadAvailableTickets Disk.saveOutboundStampCosts
    rw [Disk.loadValue_saveValue_of_ne (by decide)]
    exact h.tickets
  costs := by
    unfold Disk.loadOutboundStampCosts Disk.saveOutboundStampCosts
    rw [Disk.loadValue_saveValue hP]
    exact stampCosts_read hcosts
  delivered := by
    unfold Disk.loadLocalDeliveries Disk.loadTransientCache
      Disk.saveOutboundStampCosts
    rw [Disk.loadValue_saveValue_of_ne (by decide)]
    exact h.delivered
  processed := by
    unfold Disk.loadLocallyProcessed Disk.loadTransientCache
      Disk.saveOutboundStampCosts
    rw [Disk.loadValue_saveValue_of_ne (by decide)]
    exact h.processed

theorem StoredIn.saveDelivered (hP : RmpvCodec P) (h : t.StoredIn P disk)
    {cache : HashMap Hash32 F64} (hcache : CacheReadable cache) :
    StoredIn P { t with localDeliveries := cache }
      (disk.saveLocalDeliveries P cache) where
  tickets := by
    unfold Disk.loadAvailableTickets Disk.saveLocalDeliveries
    rw [Disk.loadValue_saveValue_of_ne (by decide)]
    exact h.tickets
  costs := by
    unfold Disk.loadOutboundStampCosts Disk.saveLocalDeliveries
    rw [Disk.loadValue_saveValue_of_ne (by decide)]
    exact h.costs
  delivered := by
    unfold Disk.loadLocalDeliveries Disk.loadTransientCache
      Disk.saveLocalDeliveries
    rw [Disk.loadValue_saveValue hP]
    exact transientCache_read hcache
  processed := by
    unfold Disk.loadLocallyProcessed Disk.loadTransientCache
      Disk.saveLocalDeliveries
    rw [Disk.loadValue_saveValue_of_ne (by decide)]
    exact h.processed

theorem StoredIn.saveProcessed (hP : RmpvCodec P) (h : t.StoredIn P disk)
    {cache : HashMap Hash32 F64} (hcache : CacheReadable cache) :
    StoredIn P { t with locallyProcessed := cache }
      (disk.saveLocallyProcessed P cache) where
  tickets := by
    unfold Disk.loadAvailableTickets Disk.saveLocallyProcessed
    rw [Disk.loadValue_saveValue_of_ne (by decide)]
    exact h.tickets
  costs := by
    unfold Disk.loadOutboundStampCosts Disk.saveLocallyProcessed
    rw [Disk.loadValue_saveValue_of_ne (by decide)]
    exact h.costs
  delivered := by
    unfold Disk.loadLocalDeliveries Disk.loadTransientCache
      Disk.saveLocallyProcessed
    rw [Disk.loadValue_saveValue_of_ne (by decide)]
    exact h.delivered
  processed := by
    unfold Disk.loadLocallyProcessed Disk.loadTransientCache
      Disk.saveLocallyProcessed
    rw [Disk.loadValue_saveValue hP]
    exact transientCache_read hcache

/-- A root makes no part of what is stored below it. -/
theorem StoredIn.withRoot (h : t.StoredIn P disk) (root : Option Disk) :
    StoredIn P { t with persistenceRoot := root } disk :=
  ⟨h.tickets, h.costs, h.delivered, h.processed⟩

/-- A step writes what it changes. -/
theorem Persisted.step (hP : RmpvCodec P) {ok : Prop} (hok : ok)
    (h : t.Persisted P) (hstep : TableStep P ok t t') :
    t'.Persisted P := by
  obtain ⟨hread, disk, hroot, hstored⟩ := h
  cases hstep with
  | tickets ts hts =>
      have hts := hts hok hread.tickets
      refine ⟨⟨hts, hread.costs, hread.delivered, hread.processed⟩,
        disk.saveAvailableTickets P ts.snapshot, ?_, ?_⟩
      · rw [hroot]
        rfl
      · exact (hstored.saveTickets hP hts).withRoot _
  | costs costs hcosts =>
      have hcosts := hcosts hok hread.costs
      refine ⟨⟨hread.tickets, hcosts, hread.delivered, hread.processed⟩,
        disk.saveOutboundStampCosts P costs, ?_, ?_⟩
      · rw [hroot]
        rfl
      · exact (hstored.saveCosts hP hcosts).withRoot _
  | caches delivered processed hdelivered hprocessed =>
      have hdelivered := hdelivered hok hread.delivered
      have hprocessed := hprocessed hok hread.processed
      refine ⟨⟨hread.tickets, hread.costs, hdelivered, hprocessed⟩,
        (disk.saveLocalDeliveries P delivered).saveLocallyProcessed P
          processed, ?_, ?_⟩
      · rw [hroot]
        rfl
      · exact ((hstored.saveDelivered hP hdelivered).saveProcessed hP
          hprocessed).withRoot _
  | file f hf =>
      refine ⟨⟨hread.tickets, hread.costs, hread.delivered,
        hread.processed⟩, f disk, ?_, ?_⟩
      · rw [hroot]
        rfl
      · exact (hstored.congr (hf disk)).withRoot _

theorem Persisted.steps (hP : RmpvCodec P) {ok : Prop} (hok : ok)
    (h : t.Persisted P)
    (hsteps : Relation.ReflTransGen (TableStep P ok) t t') :
    t'.Persisted P := by
  induction hsteps with
  | refl => exact h
  | tail _ hstep ih => exact ih.step hP hok hstep

end Tables

end Lxmf
