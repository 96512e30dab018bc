/-
Write-through persistence, and what a restart makes of it.

A router built over a storage root keeps its four tables in their files:
after every operation of a run the files decode to the tables
(`Tables.StoredIn`). A router restarted from these files starts with a
cleaning. It decides about tickets as the one that kept running does,
and about stamp costs and duplicates as that one does once it has
cleaned at the same time.
-/
import Lxmf.Proofs.Frames

namespace Lxmf

-- ============================================================= the start

theorem loadPropagationStore_leavesTables (P : Platform) :
    LeavesTables fun disk => (disk.loadPropagationStore P).2 := by
  intro disk path hpath
  unfold Disk.loadPropagationStore
  dsimp only
  generalize disk.propagationFiles = files
  generalize PropagationStore.new = store
  induction files generalizing store disk with
  | nil => rfl
  | cons file files ih =>
      rw [List.foldl_cons]
      refine (ih (Disk.loadPropagationFile P (store, disk) file).2
        (Disk.loadPropagationFile P (store, disk) file).1).trans ?_
      unfold Disk.loadPropagationFile
      split
      case h_1 => rfl
      case h_2 =>
        exact removePropagationEntryNamed_leavesTables file.1 disk path hpath

theorem TicketStore.Agrees.refl (ts : TicketStore) : ts.Agrees ts where
  outbound := .refl _
  inbound dest := by
    cases ts.inbound.lookup dest with
    | none => exact .none
    | some tickets => exact .some (.refl tickets)
  lastDeliveries := .refl _

namespace Disk

variable (P : Platform) (disk : Disk)

theorem loadTransientCache_readable (path : String) :
    CacheReadable (disk.loadTransientCache P path) := by
  unfold loadTransientCache
  cases disk.loadValue P path with
  | none =>
      intro id t h
      cases h
  | some v => exact transientCacheFromValue_readable v

theorem loadOutboundStampCosts_readable :
    CostsReadable (disk.loadOutboundStampCosts P) := by
  unfold loadOutboundStampCosts
  cases disk.loadValue P "outbound_stamp_costs" with
  | none =>
      intro dest e h
      cases h
  | some v => exact stampCostsFromValue_readable v

end Disk

namespace LxmfRouter

section Starting

variable {σ : Type} [MessageStore σ] {P : Platform}

omit [MessageStore σ] in
/-- What was read is what the files hold. -/
theorem restored_persisted (r : LxmfRouter σ) (disk : Disk) :
    (r.restored P disk).tables.Persisted P where
  readable :=
    { tickets := disk.loadAvailableTickets_readable
      costs := disk.loadOutboundStampCosts_readable P
      delivered := disk.loadTransientCache_readable P _
      processed := disk.loadTransientCache_readable P _ }
  stored := by
    refine ⟨(disk.loadPropagationStore P).2, rfl, ?_⟩
    have hstored : (r.restored P disk).tables.StoredIn P disk :=
      ⟨.refl _, .refl _, .refl _, .refl _⟩
    exact hstored.congr (loadPropagationStore_leavesTables P disk)

/-- The router as it starts, cleaned. -/
theorem withStoreAndRoot_persisted (hP : RmpvCodec P)
    (delivery : RnsOutbound) (store : σ) (disk : Disk)
    (config : RuntimeConfig) (systemNowMs nowMs : Nat) :
    (withStoreAndRoot P delivery store disk config systemNowMs
      nowMs).tables.Persisted P := by
  have hrestored := restored_persisted (P := P)
    (withConfig (.withStore delivery store) config systemNowMs) disk
  unfold withStoreAndRoot
  dsimp only
  generalize LxmfRouter.restored P
    (withConfig (.withStore delivery store) config systemNowMs) disk
      = r at hrestored ⊢
  have htickets : Keeps P True r (r.cleanTickets P nowMs) :=
    persistTicketStore_keeps r fun _ h => h.cleanExpired nowMs
  generalize r.cleanTickets P nowMs = r₁ at htickets ⊢
  have hcosts := htickets.trans (cleanOutboundStampCosts_keeps r₁ nowMs)
  generalize (r₁.cleanOutboundStampCosts P nowMs).2 = r₂ at hcosts ⊢
  have hcaches := hcosts.trans (cleanTransientIdCaches_keeps r₂ nowMs)
  generalize (r₂.cleanTransientIdCaches P nowMs).2 = r₃ at hcaches ⊢
  have hstore := hcaches.trans (cleanPropagationStore_keeps r₃ nowMs)
  generalize (r₃.cleanPropagationStore nowMs).2 = r₄ at hstore ⊢
  have hsaved : Keeps P True r₄ (r₄.saveLocalCaches P) :=
    saveLocalCaches_keeps r₄ (fun _ h => h) fun _ h => h
  exact (hstore.trans hsaved).toPersists.persisted hP trivial hrestored

/-- The tables and their files along a run. -/
theorem perform_persisted (hP : RmpvCodec P) {r : LxmfRouter σ}
    (h : r.tables.Persisted P) {ops : List (Operation σ)}
    (hvalid : ∀ op ∈ ops, op.Valid) :
    (r.performAll P ops).tables.Persisted P := by
  induction ops generalizing r with
  | nil => exact h
  | cons op ops ih =>
      refine ih (r := r.perform P op) ?_ fun other hother =>
        hvalid other (List.mem_cons_of_mem op hother)
      exact (perform_persists r op).persisted hP
        (hvalid op List.mem_cons_self) h

end Starting

end LxmfRouter

-- ======================================================= what is decided

theorem HashMap.retain_agrees {K V : Type} [DecidableEq K]
    {m m' : HashMap K V} (h : m.Agrees m') (keep : K → V → Bool) :
    (m.retain keep).Agrees (m'.retain keep) := by
  intro k
  rw [HashMap.lookup_retain, HashMap.lookup_retain, h k]

section Times

variable {nowMs t : Nat} {e : F64}

theorem nowS_lt_of_le (h : nowMs ≤ t) (hlt : (nowS t).lt e = true) :
    (nowS nowMs).lt e = true := by
  cases e with
  | nan => cases hlt
  | inf negative =>
      cases negative with
      | true => cases hlt
      | false => rfl
  | fin q =>
      have hq : ((t : ℚ) / 1000) < q := of_decide_eq_true hlt
      refine decide_eq_true (lt_of_le_of_lt ?_ hq)
      gcongr

/-- A ticket that has not expired is within its grace. -/
theorem within_grace (h : nowMs ≤ t) (hlt : (nowS t).lt e = true) :
    (nowS nowMs).le (e.add (.fin ticketGrace)) = true := by
  have hnow := nowS_lt_of_le h hlt
  cases e with
  | nan => cases hnow
  | inf negative =>
      cases negative with
      | true => cases hnow
      | false => rfl
  | fin q =>
      have hq : ((nowMs : ℚ) / 1000) < q := of_decide_eq_true hnow
      refine decide_eq_true (hq.le.trans ?_)
      exact le_add_of_nonneg_right (by positivity)

/-- A ticket that is worth reusing has not expired. -/
theorem nowS_lt_of_renewable
    (h : (F64.fin ticketRenew).lt (e.sub (nowS t)) = true) :
    (nowS t).lt e = true := by
  cases e with
  | nan => cases h
  | inf negative =>
      cases negative with
      | true => cases h
      | false => rfl
  | fin q =>
      have hq : ((ticketRenew : Nat) : ℚ) < q + -((t : ℚ) / 1000) :=
        of_decide_eq_true h
      have hpos : (0 : ℚ) ≤ (ticketRenew : Nat) := by positivity
      refine decide_eq_true ?_
      linarith

end Times

namespace TicketStore

/-- The two stores decide alike about tickets, from a time on: which one
to stamp with, which ones to accept, whether to issue one. -/
structure DecidesLike (nowMs : Nat) (ts ts' : TicketStore) : Prop where
  outbound : ∀ dest t, nowMs ≤ t →
    ts.getOutboundTicket dest t = ts'.getOutboundTicket dest t
  inbound : ∀ dest t, nowMs ≤ t → ∀ ticket,
    (ticket ∈ (ts.getInboundTickets dest t).getD []
      ↔ ticket ∈ (ts'.getInboundTickets dest t).getD [])
  recent : ∀ dest t,
    ts.recentlyDelivered dest t = ts'.recentlyDelivered dest t
  reusable : ∀ dest t, nowMs ≤ t →
    ((ts.reusable dest (nowS t)).isSome
      ↔ (ts'.reusable dest (nowS t)).isSome)

variable {ts ts' ts'' : TicketStore} {dest : Hash16}

theorem DecidesLike.trans {nowMs : Nat} (h : DecidesLike nowMs ts ts')
    (h' : DecidesLike nowMs ts' ts'') : DecidesLike nowMs ts ts'' where
  outbound dest t ht := (h.outbound dest t ht).trans (h'.outbound dest t ht)
  inbound dest t ht ticket :=
    (h.inbound dest t ht ticket).trans (h'.inbound dest t ht ticket)
  recent dest t := (h.recent dest t).trans (h'.recent dest t)
  reusable dest t ht :=
    (h.reusable dest t ht).trans (h'.reusable dest t ht)

theorem mem_getInboundTickets {t : Nat} {ticket : Bytes} :
    ticket ∈ (ts.getInboundTickets dest t).getD []
      ↔ ∃ e, (ts.issued dest).lookup ticket = some e
        ∧ (nowS t).lt e = true := by
  have hgot : (ts.getInboundTickets dest t).getD []
      = ((ts.issued dest).entries.filter fun e => (nowS t).lt e.2).map
        (·.1) := by
    unfold getInboundTickets
    dsimp only
    split
    case isTrue hempty => exact (List.isEmpty_iff.mp hempty).symm
    case isFalse => rfl
  rw [hgot, List.mem_map]
  constructor
  · intro h
    obtain ⟨e, he, rfl⟩ := h
    obtain ⟨hmem, hlt⟩ := List.mem_filter.mp he
    exact ⟨e.2, AList.mem_lookup_iff.mpr hmem, hlt⟩
  · intro h
    obtain ⟨e, he, hlt⟩ := h
    exact ⟨⟨ticket, e⟩,
      List.mem_filter.mpr ⟨AList.mem_lookup_iff.mp he, hlt⟩, rfl⟩

theorem reusable_isSome {now : F64} :
    (ts.reusable dest now).isSome
      ↔ ∃ ticket e, (ts.issued dest).lookup ticket = some e
        ∧ (F64.fin ticketRenew).lt (e.sub now) = true := by
  unfold reusable
  rw [Option.isSome_map, List.find?_isSome]
  constructor
  · intro h
    obtain ⟨e, he, hrenew⟩ := h
    exact ⟨e.1, e.2, AList.mem_lookup_iff.mpr he, hrenew⟩
  · intro h
    obtain ⟨ticket, e, he, hrenew⟩ := h
    exact ⟨⟨ticket, e⟩, AList.mem_lookup_iff.mp he, hrenew⟩

theorem Agrees.issued (h : ts.Agrees ts') (dest : Hash16) :
    (ts.issued dest).Agrees (ts'.issued dest) := by
  have hrel := h.inbound dest
  unfold TicketStore.issued
  generalize ts.inbound.lookup dest = tickets at hrel ⊢
  generalize ts'.inbound.lookup dest = tickets' at hrel ⊢
  cases hrel with
  | none => exact .refl _
  | some hagrees => exact hagrees

theorem Agrees.cleanExpired (h : ts.Agrees ts') (nowMs : Nat) :
    (ts.cleanExpired nowMs).Agrees (ts'.cleanExpired nowMs) where
  outbound := HashMap.retain_agrees h.outbound _
  inbound dest := by
    have hrel := h.inbound dest
    rw [cleanExpired_inbound, cleanExpired_inbound]
    generalize ts.inbound.lookup dest = tickets at hrel ⊢
    generalize ts'.inbound.lookup dest = tickets' at hrel ⊢
    cases hrel with
    | none => exact .none
    | some hagrees => exact .some (HashMap.retain_agrees hagrees _)
  lastDeliveries := h.lastDeliveries

/-- Stores with the same tickets decide alike. -/
theorem Agrees.decidesLike (h : ts.Agrees ts') (nowMs : Nat) :
    DecidesLike nowMs ts ts' where
  outbound dest t _ := by
    unfold getOutboundTicket
    rw [h.outbound dest]
  inbound dest t _ ticket := by
    rw [mem_getInboundTickets, mem_getInboundTickets,
      h.issued dest ticket]
  recent dest t := by
    unfold recentlyDelivered
    rw [h.lastDeliveries dest]
  reusable dest t _ := by
    rw [reusable_isSome, reusable_isSome]
    simp only [h.issued dest _]

/-- Cleaning changes no later decision. -/
theorem cleanExpired_decidesLike (nowMs : Nat) :
    DecidesLike nowMs (ts.cleanExpired nowMs) ts where
  outbound dest t ht := by
    unfold getOutboundTicket cleanExpired
    dsimp only
    rw [HashMap.lookup_retain]
    cases ts.outbound.lookup dest with
    | none => rfl
    | some entry =>
        cases hkept : (nowS nowMs).lt entry.expiresAtS with
        | true => rw [Option.filter_some, if_pos hkept]
        | false =>
            have hexpired : (nowS t).lt entry.expiresAtS = false := by
              by_contra hlt
              rw [Bool.not_eq_false] at hlt
              rw [nowS_lt_of_le ht hlt] at hkept
              cases hkept
            rw [Option.filter_some, if_neg (by simp [hkept])]
            exact (if_neg (by simp [hexpired])).symm
  inbound dest t ht ticket := by
    rw [mem_getInboundTickets, mem_getInboundTickets, issued_cleanExpired,
      unexpired]
    simp only [HashMap.lookup_retain, Option.filter_eq_some_iff]
    constructor
    · intro h
      obtain ⟨e, he, hlt⟩ := h
      exact ⟨e, he.1, hlt⟩
    · intro h
      obtain ⟨e, he, hlt⟩ := h
      exact ⟨e, ⟨he, within_grace ht hlt⟩, hlt⟩
  recent dest t := rfl
  reusable dest t ht := by
    rw [reusable_isSome, reusable_isSome, issued_cleanExpired, unexpired]
    simp only [HashMap.lookup_retain, Option.filter_eq_some_iff]
    constructor
    · intro h
      obtain ⟨ticket, e, he, hrenew⟩ := h
      exact ⟨ticket, e, he.1, hrenew⟩
    · intro h
      obtain ⟨ticket, e, he, hrenew⟩ := h
      exact ⟨ticket, e,
        ⟨he, within_grace ht (nowS_lt_of_renewable hrenew)⟩, hrenew⟩

end TicketStore

-- ============================================================= a restart

namespace LxmfRouter

section Restarting

variable {σ : Type} {P : Platform}

/-- What is in the tables, without where they are kept. -/
def remembered (r : LxmfRouter σ) : Tables :=
  { r.tables with persistenceRoot := none }

theorem cleanPropagationStore_remembered (r : LxmfRouter σ) (nowMs : Nat) :
    (r.cleanPropagationStore nowMs).2.remembered = r.remembered := by
  obtain ⟨store, root, h⟩ := cleanPropagationStore_eq r nowMs
  rw [h]
  rfl

-- ----------------------------------------------------------- cleaning

/-- The tables without their outdated costs and ids. -/
def withoutOutdated (t : Tables) (nowMs : Nat) : Tables :=
  { t with
    outboundStampCosts := HashMap.retain t.outboundStampCosts
      fun _ cost => (nowS nowMs).le (cost.1.add (.fin stampCostExpiryS))
    localDeliveries :=
      (cleanTransientCache t.localDeliveries (nowS nowMs)).2
    locallyProcessed :=
      (cleanTransientCache t.locallyProcessed (nowS nowMs)).2 }

/-- What a restart does to the costs and the ids, done by a router that
kept running. -/
def cleaned (P : Platform) (r : LxmfRouter σ) (nowMs : Nat) :
    LxmfRouter σ :=
  ((r.cleanOutboundStampCosts P nowMs).2.cleanTransientIdCaches P nowMs).2

theorem cleaned_remembered (r : LxmfRouter σ) (nowMs : Nat) :
    (r.cleaned P nowMs).remembered
      = withoutOutdated r.remembered nowMs := by
  unfold cleaned cleanTransientIdCaches cleanOutboundStampCosts
  dsimp only
  split
  case isTrue =>
    split
    case isTrue => rfl
    case isFalse => rfl
  case isFalse =>
    split
    case isTrue => rfl
    case isFalse => rfl

/-- The tables of a router as it starts: read from the files, without
what is outdated. -/
theorem withStoreAndRoot_remembered [MessageStore σ]
    (delivery : RnsOutbound) (store : σ) (disk : Disk)
    (config : RuntimeConfig) (systemNowMs nowMs : Nat) :
    (withStoreAndRoot P delivery store disk config systemNowMs
      nowMs).remembered
      = withoutOutdated
        { ticketStore := (TicketStore.restore
            (disk.loadAvailableTickets P)).cleanExpired nowMs
          outboundStampCosts := disk.loadOutboundStampCosts P
          localDeliveries := disk.loadLocalDeliveries P
          locallyProcessed := disk.loadLocallyProcessed P
          persistenceRoot := none } nowMs := by
  unfold withStoreAndRoot
  dsimp only
  generalize hr : LxmfRouter.restored P
    (withConfig (.withStore delivery store) config systemNowMs) disk = r
  have hread : (r.cleanTickets P nowMs).remembered
      = { ticketStore := (TicketStore.restore
            (disk.loadAvailableTickets P)).cleanExpired nowMs
          outboundStampCosts := disk.loadOutboundStampCosts P
          localDeliveries := disk.loadLocalDeliveries P
          locallyProcessed := disk.loadLocallyProcessed P
          persistenceRoot := none } := by
    rw [← hr]
    rfl
  have hsaved (r : LxmfRouter σ) :
      (r.saveLocalCaches P).remembered = r.remembered := rfl
  rw [← hread, ← cleaned_remembered (P := P), hsaved,
    cleanPropagationStore_remembered, cleaned]

-- --------------------------------------------------- what is remembered

/-- The two routers decide alike about duplicates and stamp costs. -/
structure RemembersLike (r r' : LxmfRouter σ) : Prop where
  delivered : ∀ message,
    r.alreadyDelivered message = r'.alreadyDelivered message
  processed : ∀ id, id ∈ r.locallyProcessed ↔ id ∈ r'.locallyProcessed
  stampCost : ∀ dest,
    r.getOutboundStampCost dest = r'.getOutboundStampCost dest

theorem RemembersLike.of_agrees {r r' : LxmfRouter σ}
    (hcosts : r.outboundStampCosts.Agrees r'.outboundStampCosts)
    (hdelivered : r.localDeliveries.Agrees r'.localDeliveries)
    (hprocessed : r.locallyProcessed.Agrees r'.locallyProcessed) :
    RemembersLike r r' where
  delivered message := by
    unfold alreadyDelivered
    cases message.messageId with
    | none => rfl
    | some id => exact decide_eq_decide.mpr hdelivered.mem_iff
  processed id := hprocessed.mem_iff
  stampCost dest := by
    unfold getOutboundStampCost
    rw [hcosts dest]

/-- A router restarted from the files of another decides as that one
would, had it cleaned what is outdated. -/
theorem StoredIn.restart [MessageStore σ] {r : LxmfRouter σ} {disk : Disk}
    (h : r.tables.StoredIn P disk) (delivery : RnsOutbound) (store : σ)
    (config : RuntimeConfig) (systemNowMs nowMs : Nat) :
    (withStoreAndRoot P delivery store disk config systemNowMs
        nowMs).ticketStore.DecidesLike nowMs r.ticketStore
      ∧ RemembersLike (withStoreAndRoot P delivery store disk config
        systemNowMs nowMs) (r.cleaned P nowMs) := by
  have hread := withStoreAndRoot_remembered (P := P) delivery store disk
    config systemNowMs nowMs
  have hcleaned := cleaned_remembered (P := P) r nowMs
  generalize withStoreAndRoot P delivery store disk config systemNowMs nowMs
    = restarted at hread ⊢
  generalize r.cleaned P nowMs = cleaned at hcleaned ⊢
  refine ⟨?_, .of_agrees ?_ ?_ ?_⟩
  · have htickets := congrArg Tables.ticketStore hread
    show restarted.remembered.ticketStore.DecidesLike nowMs r.ticketStore
    rw [htickets]
    exact ((h.tickets.cleanExpired nowMs).decidesLike nowMs).trans
      (TicketStore.cleanExpired_decidesLike nowMs)
  · show restarted.remembered.outboundStampCosts.Agrees
      cleaned.remembered.outboundStampCosts
    rw [hread, hcleaned]
    exact HashMap.retain_agrees h.costs _
  · show restarted.remembered.localDeliveries.Agrees
      cleaned.remembered.localDeliveries
    rw [hread, hcleaned]
    exact HashMap.retain_agrees h.delivered _
  · show restarted.remembered.locallyProcessed.Agrees
      cleaned.remembered.locallyProcessed
    rw [hread, hcleaned]
    exact HashMap.retain_agrees h.processed _

end Restarting

-- ============================================================ whole runs

/-- After every run of operations the files below the root decode to the
tables in memory. A router restarted from them decides about tickets as
the one that kept running does, and about duplicates and stamp costs as
that one does after the cleaning a restart begins with. -/
theorem tables_written_through {σ : Type} [MessageStore σ] {P : Platform}
    (hP : RmpvCodec P) (delivery : RnsOutbound) (store : σ) (disk : Disk)
    (config : RuntimeConfig) (systemNowMs nowMs : Nat)
    (ops : List (Operation σ)) (hvalid : ∀ op ∈ ops, op.Valid) :
    ∃ root r, r = (withStoreAndRoot P delivery store disk config
        systemNowMs nowMs).performAll P ops
      ∧ r.persistenceRoot = some root
      ∧ r.tables.StoredIn P root
      ∧ ∀ (delivery' : RnsOutbound) (store' : σ) (config' : RuntimeConfig)
          (systemNowMs' nowMs' : Nat) (restarted : LxmfRouter σ),
        restarted = withStoreAndRoot P delivery' store' root config'
            systemNowMs' nowMs' →
          restarted.ticketStore.DecidesLike nowMs' r.ticketStore
          ∧ RemembersLike restarted (r.cleaned P nowMs') := by
  have hstart := withStoreAndRoot_persisted hP delivery store disk config
    systemNowMs nowMs
  obtain ⟨_, root, hroot, hstored⟩ := perform_persisted hP hstart hvalid
  refine ⟨root, _, rfl, hroot, hstored, ?_⟩
  intro delivery' store' config' systemNowMs' nowMs' restarted hrestarted
  rw [hrestarted]
  exact StoredIn.restart hstored delivery' store' config' systemNowMs' nowMs'

section PersistenceInstance

open Reference

/-- A router over an empty directory. -/
noncomputable def docPersistent : LxmfRouter InMemoryStore :=
  withStoreAndRoot platform docOutbound ({} : InMemoryStore) ∅ {} 0 1

/-- It learns a stamp cost of eight, and a ticket. -/
def docLearning : List (Operation InMemoryStore) :=
  [.table (.setOutboundStampCost (List.Vector.replicate 16 7) (some 8)) 1,
   .table (.rememberTicket (List.Vector.replicate 16 7) (.fin 9)
     (List.replicate 16 3)) 1]

theorem docLearning_valid : ∀ op ∈ docLearning, op.Valid := by
  intro op hop
  simp only [docLearning, List.mem_cons, List.not_mem_nil, or_false] at hop
  rcases hop with rfl | rfl
  · refine ⟨Nat.one_pos, ?_⟩
    intro cost hcost
    cases hcost
    decide
  · exact ⟨Nat.one_pos, rfl⟩

/-- Both are in the files, and a restart finds the ticket. -/
theorem tables_written_through_doc :
    ∃ root, (docPersistent.performAll platform docLearning).persistenceRoot
        = some root
      ∧ (docPersistent.performAll platform docLearning).tables.StoredIn
        platform root
      ∧ (withStoreAndRoot platform docOutbound ({} : InMemoryStore) root {}
          0 2).ticketStore.getOutboundTicket (List.Vector.replicate 16 7) 2
        = some (List.replicate 16 3) := by
  obtain ⟨root, r, hr, hroot, hstored, hrestart⟩ := tables_written_through
    platform_rmpvCodec docOutbound ({} : InMemoryStore) ∅ {} 0 1
    docLearning docLearning_valid
  refine ⟨root, hr ▸ hroot, hr ▸ hstored, ?_⟩
  obtain ⟨htickets, _⟩ := hrestart docOutbound {} {} 0 2 _ rfl
  rw [htickets.outbound _ 2 (Nat.le_refl 2), hr]
  decide +kernel

/-- 46 days in milliseconds. -/
def docLater : Nat := 46 * 24 * 60 * 60 * 1000

/-- The cost is still known after 46 days, but not to a router restarted
then. -/
theorem old_stamp_cost_lost_on_restart :
    (∀ op ∈ docLearning, op.Valid)
      ∧ ∃ root, (docPersistent.performAll platform
          docLearning).persistenceRoot = some root
        ∧ (docPersistent.performAll platform
            docLearning).getOutboundStampCost (List.Vector.replicate 16 7)
          = some 8
        ∧ (withStoreAndRoot platform docOutbound ({} : InMemoryStore) root
            {} 0 docLater).getOutboundStampCost
              (List.Vector.replicate 16 7) = none := by
  obtain ⟨_, root, hroot, hstored⟩ := perform_persisted platform_rmpvCodec
    (withStoreAndRoot_persisted platform_rmpvCodec docOutbound
      ({} : InMemoryStore) ∅ {} 0 1) docLearning_valid
  refine ⟨docLearning_valid, root, hroot, by decide +kernel, ?_⟩
  obtain ⟨_, hremembers⟩ := StoredIn.restart hstored docOutbound {} {} 0
    docLater
  rw [hremembers.stampCost]
  show ((docPersistent.performAll platform docLearning).cleaned platform
    docLater).getOutboundStampCost (List.Vector.replicate 16 7) = none
  decide +kernel

end PersistenceInstance

end LxmfRouter

end Lxmf
