/-
Which ticket is used again does not depend on the order of a hash map
(lxmf-rs/src/rns/router.rs: `TicketStore`).

# Why one at most

`generate_ticket` returns the first issued ticket that is far enough from
its expiry, and the map has no order. But a ticket is issued only when no
other one can be used again, and time takes away what can be used and
never adds to it: so of each destination one ticket at most is there to
be found (`Unambiguous`). Cleaning removes tickets. A snapshot was
unambiguous when it was taken, and still is when it comes back.

# A restart

What is restored is a snapshot that was taken, or one with the same
tickets in it: a restart reads its snapshot back from a file, and may
have the entries in another order.
-/
import Lxmf.Proofs.Tickets

namespace Lxmf

namespace TicketStore

variable {ts ts' : TicketStore} {nowMs t : Nat} {dest : Hash16}

-- =========================================================== one store

/-- More than `TICKET_RENEW` is left until this expiry. -/
def Renewable (nowMs : Nat) (expiresAt : F64) : Prop :=
  (F64.fin ticketRenew).lt (expiresAt.sub (nowS nowMs)) = true

/-- What can be used again could be used before. -/
theorem Renewable.of_le {e : F64} (h : Renewable t e) (hle : nowMs ≤ t) :
    Renewable nowMs e := by
  unfold Renewable at h ⊢
  cases e with
  | nan => cases h
  | inf negative =>
      cases negative with
      | true => cases h
      | false => rfl
  | fin q =>
      have hq : ((ticketRenew : Nat) : ℚ) < q + -((t : ℚ) / 1000) :=
        of_decide_eq_true h
      have hcast : (nowMs : ℚ) ≤ t := by exact_mod_cast hle
      refine decide_eq_true ?_
      linarith

/-- Of the tickets of a destination, one at most can be used again. -/
def Unambiguous (nowMs : Nat) (ts : TicketStore) : Prop :=
  ∀ dest ticket ticket' e e',
    (ts.issued dest).lookup ticket = some e →
    (ts.issued dest).lookup ticket' = some e' →
    Renewable nowMs e → Renewable nowMs e' → ticket = ticket'

theorem Unambiguous.later (h : ts.Unambiguous nowMs) (hle : nowMs ≤ t) :
    ts.Unambiguous t :=
  fun dest ticket ticket' e e' he he' hr hr' =>
    h dest ticket ticket' e e' he he' (hr.of_le hle) (hr'.of_le hle)

/-- A store whose tickets are all in an unambiguous one. -/
theorem Unambiguous.of_issued (h : ts.Unambiguous nowMs)
    (hsub : ∀ dest ticket e, (ts'.issued dest).lookup ticket = some e →
      (ts.issued dest).lookup ticket = some e) :
    ts'.Unambiguous nowMs :=
  fun dest ticket ticket' e e' he he' =>
    h dest ticket ticket' e e' (hsub _ _ _ he) (hsub _ _ _ he')

theorem unambiguous_empty (nowMs : Nat) :
    Unambiguous nowMs ⟨∅, ∅, ∅⟩ := by
  intro dest ticket ticket' e e' he
  cases he

/-- Where no ticket is found, none can be used again. -/
theorem not_renewable_of_none (h : ts.reusable dest (nowS nowMs) = none)
    {ticket : Bytes} {e : F64}
    (he : (ts.issued dest).lookup ticket = some e) :
    ¬ Renewable nowMs e := by
  intro hr
  have hsome := reusable_isSome.mpr ⟨ticket, e, he, hr⟩
  rw [h] at hsome
  cases hsome

/-- A ticket is issued only when none can be used again. -/
theorem Unambiguous.generateTicket (h : ts.Unambiguous nowMs)
    (dest : Hash16) (expiryS : Nat) (rng : OsRng) :
    (ts.generateTicket dest nowMs expiryS rng).2.Unambiguous nowMs := by
  rcases generateTicket_cases ts dest nowMs expiryS rng with
    heq | ⟨entry, -, heq⟩ | ⟨hnone, heq⟩
  · rw [heq]
    exact h
  · rw [heq]
    exact h
  · rw [heq]
    intro other ticket ticket' e e' he he' hr hr'
    by_cases hother : other = dest
    · subst hother
      -- of this destination, only the new one has so much time left
      have hnew {found : Bytes} {x : F64}
          (hfound : (issued { ts with
            inbound := ts.inbound.insert other ((ts.issued other).insert
              (rng.fillBytes ticketLength 0).toList
              ((nowS nowMs).add (.fin expiryS))) } other).lookup found
            = some x) (hx : Renewable nowMs x) :
          found = (rng.fillBytes ticketLength 0).toList := by
        rcases lookup_issue hfound with ⟨hsame, -⟩ | hbefore
        · exact hsame
        · exact absurd hx (not_renewable_of_none hnone hbefore)
      rw [hnew he hr, hnew he' hr']
    · rw [issued_insert_of_ne hother] at he he'
      exact h other ticket ticket' e e' he he' hr hr'

theorem Unambiguous.cleanExpired (h : ts.Unambiguous nowMs) (t : Nat) :
    (ts.cleanExpired t).Unambiguous nowMs := by
  refine h.of_issued fun dest ticket e he => ?_
  rw [issued_cleanExpired, unexpired, HashMap.lookup_retain,
    Option.filter_eq_some_iff] at he
  exact he.1

theorem Unambiguous.agrees (h : ts.Unambiguous nowMs)
    (hagrees : ts'.Agrees ts) : ts'.Unambiguous nowMs := by
  refine h.of_issued fun dest ticket e he => ?_
  rwa [← hagrees.issued dest ticket]

-- --------------------------------------------------- the order of the map

theorem Unambiguous.entry (h : ts.Unambiguous nowMs)
    {a b : Sigma fun _ : Bytes => F64} (ha : a ∈ (ts.issued dest).entries)
    (hb : b ∈ (ts.issued dest).entries) (hra : Renewable nowMs a.2)
    (hrb : Renewable nowMs b.2) : a = b := by
  have hla := AList.mem_lookup_iff.mpr ha
  have hlb := AList.mem_lookup_iff.mpr hb
  have hkey := h dest a.1 b.1 a.2 b.2 hla hlb hra hrb
  obtain ⟨ticket, e⟩ := a
  obtain ⟨ticket', e'⟩ := b
  dsimp only at hkey
  subst hkey
  rw [hla] at hlb
  injection hlb with hsame
  exact congrArg (Sigma.mk ticket) hsame

/-- The ticket that is used again is the same in any order. -/
theorem Unambiguous.reusable_eq (h : ts.Unambiguous nowMs)
    (hagrees : ts'.Agrees ts) (dest : Hash16) :
    ts'.reusable dest (nowS nowMs) = ts.reusable dest (nowS nowMs) := by
  unfold reusable
  congr 1
  refine (hagrees.issued dest).find?_eq fun a ha b hb hra hrb => ?_
  exact (h.agrees hagrees).entry ha hb hra hrb

theorem Agrees.insert (h : ts'.Agrees ts) (dest : Hash16)
    (ticket : Bytes) (e : F64) :
    Agrees
      { ts' with
        inbound := ts'.inbound.insert dest
          ((ts'.issued dest).insert ticket e) }
      { ts with
        inbound := ts.inbound.insert dest
          ((ts.issued dest).insert ticket e) } where
  outbound := h.outbound
  inbound other := by
    by_cases hother : other = dest
    · subst hother
      rw [AList.lookup_insert, AList.lookup_insert]
      exact .some ((h.issued other).insert ticket e)
    · rw [AList.lookup_insert_ne hother, AList.lookup_insert_ne hother]
      exact h.inbound other
  lastDeliveries := h.lastDeliveries

/-- What is generated is the same in any order, and what is left has the
same tickets. -/
theorem Unambiguous.generateTicket_agrees (h : ts.Unambiguous nowMs)
    (hagrees : ts'.Agrees ts) (dest : Hash16) (expiryS : Nat)
    (rng : OsRng) :
    (ts'.generateTicket dest nowMs expiryS rng).1
        = (ts.generateTicket dest nowMs expiryS rng).1
      ∧ (ts'.generateTicket dest nowMs expiryS rng).2.Agrees
        (ts.generateTicket dest nowMs expiryS rng).2 := by
  have hrecent := (hagrees.decidesLike nowMs).recent dest (nowS nowMs)
  unfold TicketStore.generateTicket
  dsimp only
  rw [hrecent, h.reusable_eq hagrees dest]
  split
  case isTrue => exact ⟨rfl, hagrees⟩
  case isFalse =>
    split
    case h_1 => exact ⟨rfl, hagrees⟩
    case h_2 => exact ⟨rfl, hagrees.insert dest _ _⟩

end TicketStore

-- ============================================================ the calls

/-- What is done to the tickets of a router. -/
inductive TicketAction where
  | generateTicket (destinationHash : Hash16) (rng : OsRng)
  | handleOutbound (message : LXMessage) (mode : DeliveryMode)
      (rng : OsRng) (free : Bool)
  | markTicketDelivered (destinationHash : Hash16)
  | cleanTickets
  | snapshot
  | restore (snapshot : TicketStoreSnapshot)

/-- A router, the time of the last call, and the snapshots so far. -/
structure TicketRun (σ : Type) where
  router : LxmfRouter σ
  nowMs : Nat
  snapshots : List TicketStoreSnapshot

namespace TicketRun

variable {σ : Type}

def start (r : LxmfRouter σ) (nowMs : Nat) : TicketRun σ := ⟨r, nowMs, []⟩

/-- The clock does not go back, and what is restored has the tickets of
a snapshot that was taken. -/
def Allowed (s : TicketRun σ) (call : TicketAction × Nat) : Prop :=
  s.nowMs ≤ call.2
    ∧ ∀ snapshot, call.1 = .restore snapshot → ∃ taken ∈ s.snapshots,
      (TicketStore.restore snapshot).Agrees (TicketStore.restore taken)

variable [MessageStore σ] (P : Platform)

/-- The router after a call. -/
def routerAfter (r : LxmfRouter σ) (nowMs : Nat) :
    TicketAction → LxmfRouter σ
  | .generateTicket destinationHash rng =>
      (r.generateTicket P destinationHash nowMs rng).2
  | .handleOutbound message mode rng free =>
      (r.handleOutbound P message mode nowMs rng free).2
  | .markTicketDelivered destinationHash =>
      r.markTicketDelivered P destinationHash nowMs
  | .cleanTickets => r.cleanTickets P nowMs
  | .snapshot => r
  | .restore snapshot => { r with ticketStore := .restore snapshot }

def apply (call : TicketAction × Nat) (s : TicketRun σ) :
    Option (TicketRun σ) :=
  some {
    router := routerAfter P s.router call.2 call.1
    nowMs := call.2
    snapshots :=
      match call.1 with
      | .snapshot => s.router.ticketStore.snapshot :: s.snapshots
      | _ => s.snapshots }

end TicketRun

namespace LxmfRouter

variable {σ : Type} {P : Platform}

theorem prepareOutbound_ticketStore (r : LxmfRouter σ)
    (message : LXMessage) (nowMs : Nat) (rng : OsRng) :
    (r.prepareOutbound P message nowMs rng).2.ticketStore
      = if message.includeTicket then
          (r.ticketStore.generateTicket message.destinationHash nowMs
            ticketExpiry rng).2
        else r.ticketStore := by
  have hasks : (r.lookUpStamp message nowMs).includeTicket
      = message.includeTicket := rfl
  have hdest : (r.lookUpStamp message nowMs).destinationHash
      = message.destinationHash := rfl
  unfold prepareOutbound includeTicket
  dsimp only
  rw [hasks, hdest]
  split
  case isTrue =>
    split
    case h_1 heq =>
      rw [heq]
      rfl
    case h_2 heq => rw [heq]
  case isFalse => rfl

end LxmfRouter

namespace TicketRun

open TicketStore (Unambiguous)

variable {σ : Type} [MessageStore σ] {P : Platform} {s : TicketRun σ}

/-- Neither the store nor a snapshot of it leaves a choice. -/
structure Settled (s : TicketRun σ) : Prop where
  store : s.router.ticketStore.Unambiguous s.nowMs
  snapshots : ∀ taken ∈ s.snapshots,
    (TicketStore.restore taken).Unambiguous s.nowMs

theorem Settled.routerAfter (h : s.Settled) {call : TicketAction × Nat}
    (hcall : s.Allowed call) :
    (routerAfter P s.router call.2 call.1).ticketStore.Unambiguous
      call.2 := by
  obtain ⟨action, nowMs⟩ := call
  obtain ⟨hclock, htaken⟩ := hcall
  have hstore := h.store.later hclock
  cases action with
  | generateTicket dest rng =>
      show ((s.router.generateTicket P dest nowMs
        rng).2.ticketStore).Unambiguous nowMs
      rw [LxmfRouter.generateTicket_ticketStore]
      exact hstore.generateTicket dest ticketExpiry rng
  | handleOutbound message mode rng free =>
      show ((s.router.handleOutbound P message mode nowMs rng
        free).2.ticketStore).Unambiguous nowMs
      rw [LxmfRouter.handleOutbound_ticketStore,
        LxmfRouter.prepareOutbound_ticketStore]
      split
      case isTrue => exact hstore.generateTicket _ ticketExpiry rng
      case isFalse => exact hstore
  | markTicketDelivered dest => exact hstore
  | cleanTickets => exact hstore.cleanExpired nowMs
  | snapshot => exact hstore
  | restore snapshot =>
      obtain ⟨taken, hmem, hagrees⟩ := htaken snapshot rfl
      exact ((h.snapshots taken hmem).later hclock).agrees hagrees

theorem Settled.apply (h : s.Settled) {call : TicketAction × Nat}
    (hcall : s.Allowed call) {s' : TicketRun σ}
    (happly : TicketRun.apply P call s = some s') : s'.Settled := by
  cases happly
  refine ⟨h.routerAfter hcall, ?_⟩
  have hold : ∀ taken ∈ s.snapshots,
      (TicketStore.restore taken).Unambiguous call.2 :=
    fun taken hmem => (h.snapshots taken hmem).later hcall.1
  intro taken hmem
  dsimp only at hmem
  split at hmem
  case h_1 =>
    rcases List.mem_cons.mp hmem with rfl | hmem
    · exact h.store.later hcall.1
    · exact hold taken hmem
  case h_2 => exact hold taken hmem

theorem settled_of_reaches {r : LxmfRouter σ} {nowMs : Nat}
    (hempty : r.ticketStore = ⟨∅, ∅, ∅⟩)
    (h : Run.Reaches (TicketRun.apply P) Allowed (start r nowMs) s) :
    s.Settled := by
  refine h.invariant ⟨?_, ?_⟩ fun _ _ _ hs hcall => hs.apply hcall
  · show r.ticketStore.Unambiguous nowMs
    rw [hempty]
    exact TicketStore.unambiguous_empty nowMs
  · exact fun taken hmem => absurd hmem List.not_mem_nil

/-- From an empty store on, whatever is called and restored, of each
destination one ticket at most can be used again at any time; and what
is generated then is the same in whatever order the maps are. -/
theorem ticket_reuse_unambiguous {r : LxmfRouter σ} {nowMs : Nat}
    (hempty : r.ticketStore = ⟨∅, ∅, ∅⟩)
    (h : Run.Reaches (TicketRun.apply P) Allowed (start r nowMs) s) :
    (∀ t, s.nowMs ≤ t → ∀ dest ticket ticket' e e',
      (s.router.ticketStore.issued dest).lookup ticket = some e →
      (s.router.ticketStore.issued dest).lookup ticket' = some e' →
      (F64.fin ticketRenew).lt (e.sub (nowS t)) = true →
      (F64.fin ticketRenew).lt (e'.sub (nowS t)) = true →
      ticket = ticket')
    ∧ ∀ ts : TicketStore, ts.Agrees s.router.ticketStore →
      ∀ dest t rng, s.nowMs ≤ t →
        (ts.generateTicket dest t ticketExpiry rng).1
            = (s.router.ticketStore.generateTicket dest t ticketExpiry
              rng).1
          ∧ (ts.generateTicket dest t ticketExpiry rng).2.Agrees
            (s.router.ticketStore.generateTicket dest t ticketExpiry
              rng).2 := by
  have hstore := (settled_of_reaches hempty h).store
  refine ⟨fun t ht => hstore.later ht, fun ts hagrees dest t rng ht => ?_⟩
  exact (hstore.later ht).generateTicket_agrees hagrees dest ticketExpiry rng

section Instance

open Reference

/-- Who the ticket is for. -/
def docHolder : Hash16 := List.Vector.replicate 16 0x06

/-- The store after the ticket was issued. -/
def docTickets : TicketStore :=
  (docNode.ticketStore.generateTicket docHolder 1000 ticketExpiry
    fun _ => 0).2

/-- A ticket is issued, put aside, cleaned and taken back. -/
theorem ticket_reuse_unambiguous_doc :
    ∃ s : TicketRun InMemoryStore,
      s.nowMs = 4000
      ∧ (∀ t, s.nowMs ≤ t → ∀ dest ticket ticket' e e',
        (s.router.ticketStore.issued dest).lookup ticket = some e →
        (s.router.ticketStore.issued dest).lookup ticket' = some e' →
        (F64.fin ticketRenew).lt (e.sub (nowS t)) = true →
        (F64.fin ticketRenew).lt (e'.sub (nowS t)) = true →
        ticket = ticket')
      ∧ ∀ ts : TicketStore, ts.Agrees s.router.ticketStore →
        ∀ dest t rng, s.nowMs ≤ t →
          (ts.generateTicket dest t ticketExpiry rng).1
              = (s.router.ticketStore.generateTicket dest t ticketExpiry
                rng).1
            ∧ (ts.generateTicket dest t ticketExpiry rng).2.Agrees
              (s.router.ticketStore.generateTicket dest t ticketExpiry
                rng).2 := by
  have hissued : Run.Reaches (TicketRun.apply platform) Allowed
      (start docNode 0) _ :=
    Run.Reaches.start.step (.generateTicket docHolder fun _ => 0, 1000)
      ⟨Nat.zero_le _, fun _ h => TicketAction.noConfusion h⟩ rfl
  have htaken := hissued.step (.snapshot, 2000)
    ⟨by decide, fun _ h => TicketAction.noConfusion h⟩ rfl
  have hcleaned := htaken.step (.cleanTickets, 3000)
    ⟨by decide, fun _ h => TicketAction.noConfusion h⟩ rfl
  have hback := hcleaned.step (.restore docTickets.snapshot, 4000)
    ⟨by decide, fun snapshot h => by
      cases h
      exact ⟨docTickets.snapshot, List.mem_cons_self, .refl _⟩⟩ rfl
  exact ⟨_, rfl, ticket_reuse_unambiguous rfl hback⟩

end Instance

end TicketRun

end Lxmf
