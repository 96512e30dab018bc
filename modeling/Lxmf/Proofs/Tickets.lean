/-
Tickets, from the message that carries one to the reply it stamps.

# The way of a ticket

The issuer puts a ticket of its store into the fields of a message. The
receiver takes it out, keeps it under the issuer's hash, and stamps its
next message to the issuer with it. The issuer has kept the ticket too,
and accepts the stamp at any cost.

# What the stores keep

Between the two messages either store is cleaned, and issues further
tickets. The receiver's keeps the ticket until it expires (`Carries`).
The issuer's keeps it for longer (`Honours`): cleaning leaves it a
grace, and the same bytes drawn once more only renew it, because no
ticket outlasts those issued after it (`IssuedBy`).
-/
import Lxmf.Proofs.Inbound
import Lxmf.Proofs.Persistence

namespace Lxmf

-- ============================================================ the stores

namespace TicketStore

/-- The stores that come about by a time: an empty one, what the
functions of a store make of it, and what is read back of it. -/
inductive Built (nowMs : Nat) : TicketStore → Prop where
  | empty : Built nowMs ⟨∅, ∅, ∅⟩
  | generateTicket {ts : TicketStore} (dest : Hash16) (t : Nat)
      (rng : OsRng) : Built nowMs ts → t ≤ nowMs →
      Built nowMs (ts.generateTicket dest t ticketExpiry rng).2
  | rememberTicket {ts : TicketStore} (dest : Hash16)
      (entry : TicketEntry) : Built nowMs ts →
      Built nowMs (ts.rememberTicket dest entry)
  | markTicketDelivered {ts : TicketStore} (dest : Hash16) (t : Nat) :
      Built nowMs ts → Built nowMs (ts.markTicketDelivered dest t)
  | cleanExpired {ts : TicketStore} (t : Nat) :
      Built nowMs ts → Built nowMs (ts.cleanExpired t)
  | restore {ts ts' : TicketStore} :
      Built nowMs ts → ts'.Agrees ts → Built nowMs ts'

/-- A ticket that can have been issued by a time. -/
structure Issuable (nowMs : Nat) (ticket : Bytes) (expiresAt : F64) :
    Prop where
  length : ticket.length = ticketLength
  expiry : ∃ q : ℚ, expiresAt = .fin q ∧ q ≤ nowMs / 1000 + ticketExpiry

/-- Every ticket in the store can have been issued by the time. -/
def IssuedBy (nowMs : Nat) (ts : TicketStore) : Prop :=
  ∀ dest ticket expiresAt,
    (ts.issued dest).lookup ticket = some expiresAt →
    Issuable nowMs ticket expiresAt

section Stores

variable {ts ts' : TicketStore} {nowMs t : Nat} {dest : Hash16}
  {ticket : Bytes} {e : F64}

/-- A ticket drawn now. -/
theorem issuable_drawn (rng : OsRng) (h : t ≤ nowMs) :
    Issuable nowMs (rng.fillBytes ticketLength 0).toList
      ((nowS t).add (.fin ticketExpiry)) := by
  refine ⟨List.Vector.toList_length _, _, rfl, ?_⟩
  have hle : (t : ℚ) ≤ nowMs := by exact_mod_cast h
  linarith

theorem IssuedBy.generateTicket (h : IssuedBy nowMs ts) (dest : Hash16)
    (ht : t ≤ nowMs) (rng : OsRng) :
    IssuedBy nowMs (ts.generateTicket dest t ticketExpiry rng).2 := by
  rcases generateTicket_cases ts dest t ticketExpiry rng with
    heq | ⟨entry, _, heq⟩ | ⟨-, heq⟩
  · rw [heq]
    exact h
  · rw [heq]
    exact h
  · rw [heq]
    intro other found x hfound
    rcases lookup_issue hfound with ⟨rfl, rfl⟩ | hold
    · exact issuable_drawn rng ht
    · exact h other found x hold

theorem IssuedBy.cleanExpired (h : IssuedBy nowMs ts) (t : Nat) :
    IssuedBy nowMs (ts.cleanExpired t) := by
  intro other found x hfound
  rw [issued_cleanExpired, unexpired, HashMap.lookup_retain,
    Option.filter_eq_some_iff] at hfound
  exact h other found x hfound.1

theorem Built.issuedBy (h : Built nowMs ts) : IssuedBy nowMs ts := by
  induction h with
  | empty =>
      intro dest ticket x hfound
      cases hfound
  | generateTicket dest t rng _ ht ih => exact ih.generateTicket dest ht rng
  | rememberTicket dest entry _ ih => exact ih
  | markTicketDelivered dest t _ ih => exact ih
  | cleanExpired t _ ih => exact ih.cleanExpired t
  | restore _ hagrees ih =>
      intro dest ticket x hfound
      rw [hagrees.issued dest ticket] at hfound
      exact ih dest ticket x hfound

-- ---------------------------------------------------- the issuer's side

/-- The store takes the ticket of `dest` for valid until `e`. -/
def Honours (ts : TicketStore) (dest : Hash16) (ticket : Bytes)
    (e : F64) : Prop :=
  ∃ x, (ts.issued dest).lookup ticket = some x
    ∧ ∀ t, (nowS t).lt e = true → (nowS t).lt x = true

/-- What is generated can have been issued, and is honoured. -/
theorem honours_generateTicket (h : IssuedBy nowMs ts) {rng : OsRng}
    {entry : TicketEntry}
    (hentry : ts.generateTicket dest nowMs ticketExpiry rng
      = (some entry, ts')) :
    Issuable nowMs entry.ticket entry.expiresAtS
      ∧ ts'.Honours dest entry.ticket entry.expiresAtS := by
  rcases generateTicket_cases ts dest nowMs ticketExpiry rng with
    heq | ⟨found, hfound, heq⟩ | ⟨-, heq⟩
  · rw [heq] at hentry
    cases hentry
  · rw [heq] at hentry
    cases hentry
    obtain ⟨⟨ticket, x⟩, hfind, rfl⟩ := Option.map_eq_some_iff.mp hfound
    have hlookup := AList.mem_lookup_iff.mpr (List.mem_of_find?_eq_some hfind)
    exact ⟨h dest ticket x hlookup, x, hlookup, fun _ hlt => hlt⟩
  · rw [heq] at hentry
    cases hentry
    refine ⟨issuable_drawn rng le_rfl, _, ?_, fun _ hlt => hlt⟩
    rw [issued_insert_self, AList.lookup_insert]

theorem Honours.cleanExpired (h : ts.Honours dest ticket e)
    (ht : (nowS t).lt e = true) :
    (ts.cleanExpired t).Honours dest ticket e := by
  obtain ⟨x, hlookup, hlasts⟩ := h
  refine ⟨x, ?_, hlasts⟩
  rw [issued_cleanExpired, unexpired, HashMap.lookup_retain, hlookup]
  exact Option.filter_eq_some_iff.mpr
    ⟨rfl, within_grace le_rfl (hlasts t ht)⟩

/-- A ticket issued by now expires no later than one drawn later. -/
theorem Issuable.lt_drawn (h : Issuable nowMs ticket e) (ht : nowMs ≤ t)
    {s : Nat} (hlt : (nowS s).lt e = true) :
    (nowS s).lt ((nowS t).add (.fin ticketExpiry)) = true := by
  obtain ⟨q, rfl, hq⟩ := h.expiry
  have hle : (nowMs : ℚ) ≤ t := by exact_mod_cast ht
  have hs : (s : ℚ) / 1000 < q := of_decide_eq_true hlt
  refine decide_eq_true ?_
  linarith

theorem Honours.generateTicket (h : ts.Honours dest ticket e)
    (hissued : Issuable nowMs ticket e) (other : Hash16) (ht : nowMs ≤ t)
    (rng : OsRng) :
    (ts.generateTicket other t ticketExpiry rng).2.Honours dest ticket
      e := by
  obtain ⟨x, hlookup, hlasts⟩ := h
  rcases generateTicket_cases ts other t ticketExpiry rng with
    heq | ⟨entry, _, heq⟩ | ⟨-, heq⟩
  · rw [heq]
    exact ⟨x, hlookup, hlasts⟩
  · rw [heq]
    exact ⟨x, hlookup, hlasts⟩
  · rw [heq]
    unfold Honours
    by_cases hdest : dest = other
    · subst hdest
      rw [issued_insert_self]
      generalize (rng.fillBytes ticketLength 0).toList = drawn
      by_cases hticket : ticket = drawn
      · -- the same bytes again: the entry is renewed
        subst hticket
        exact ⟨_, AList.lookup_insert _, fun s hs =>
          hissued.lt_drawn ht hs⟩
      · rw [AList.lookup_insert_ne hticket]
        exact ⟨x, hlookup, hlasts⟩
    · rw [issued_insert_of_ne hdest]
      exact ⟨x, hlookup, hlasts⟩

-- -------------------------------------------------- the receiver's side

/-- The store has the ticket for messages to `dest`. -/
def Carries (ts : TicketStore) (dest : Hash16) (entry : TicketEntry) :
    Prop :=
  ts.outbound.lookup dest = some entry

theorem Carries.cleanExpired {entry : TicketEntry}
    (h : ts.Carries dest entry)
    (ht : (nowS t).lt entry.expiresAtS = true) :
    (ts.cleanExpired t).Carries dest entry := by
  unfold Carries TicketStore.cleanExpired
  dsimp only
  rw [HashMap.lookup_retain, h, Option.filter_some, if_pos ht]

theorem Carries.generateTicket {entry : TicketEntry}
    (h : ts.Carries dest entry) (other : Hash16) (t : Nat) (rng : OsRng) :
    (ts.generateTicket other t ticketExpiry rng).2.Carries dest entry := by
  rcases generateTicket_cases ts other t ticketExpiry rng with
    heq | ⟨found, _, heq⟩ | ⟨-, heq⟩
  · rw [heq]
    exact h
  · rw [heq]
    exact h
  · rw [heq]
    exact h

theorem Carries.getOutboundTicket {entry : TicketEntry}
    (h : ts.Carries dest entry)
    (ht : (nowS t).lt entry.expiresAtS = true) :
    ts.getOutboundTicket dest t = some entry.ticket := by
  unfold TicketStore.getOutboundTicket
  rw [h]
  exact if_pos ht

end Stores

end TicketStore

-- ============================================================ the fields

/-- The keys of the fields are `i64` integers. -/
def I64Keys : Value → Prop
  | .map entries => ∀ e ∈ entries, e.1.asI64.isSome
  | _ => True

/-- The key of the ticket field. -/
def ticketKey : Value := .ofNat fieldTicket

/-- The entries of the fields; what is no map has none. -/
def fieldEntries : Value → List (Value × Value)
  | .map entries => entries
  | _ => []

theorem keyAsU64_eq_ticket_iff {key : Value} :
    keyAsU64 key = some fieldTicket ↔ key = ticketKey := by
  constructor
  · intro h
    obtain ⟨v, hv, hcast⟩ := Option.map_eq_some_iff.mp h
    cases key with
    | integer i =>
        have hi : i.asI64 = some v := hv
        unfold Integer.asI64 at hi
        split at hi
        case isTrue hlt =>
          cases hi
          have hlo := i.lo
          rw [BitVec.toNat_ofInt] at hcast
          have hval : i.val = 12 := by
            simp only [fieldTicket] at hcast
            omega
          refine congrArg Value.integer (Integer.ext ?_)
          rw [hval]
          rfl
        case isFalse => cases hi
    | _ => cases hv
  · rintro rfl
    decide

/-- The loop comes to the ticket behind the entries that were kept if
each of their keys is an `i64`, and ends before it otherwise. -/
theorem extractTicketEntry_kept_iff {ticket : Bytes}
    (hlength : ticket.length = ticketLength) (expiresAtS : F64)
    (entries : List (Value × Value)) :
    extractTicketEntry (entries.filter
          (fun e => decide (keyAsU64 e.1 ≠ some fieldTicket))
        ++ [(ticketKey, .array [.f64 expiresAtS, .binary ticket])])
        = some (expiresAtS, ticket)
      ↔ ∀ e ∈ entries, e.1.asI64.isSome := by
  induction entries with
  | nil =>
      have hkey : keyAsU64 ticketKey = some fieldTicket :=
        keyAsU64_eq_ticket_iff.mpr rfl
      simp [extractTicketEntry, hkey, ticketOfValue, valueToF64, hlength]
  | cons entry entries ih =>
      rw [List.forall_mem_cons, ← ih]
      by_cases hticket : keyAsU64 entry.1 = some fieldTicket
      · have hkey : entry.1.asI64.isSome := by
          obtain ⟨v, hv, -⟩ := Option.map_eq_some_iff.mp hticket
          exact Option.isSome_iff_exists.mpr ⟨v, hv⟩
        rw [List.filter_cons_of_neg (by simp [hticket])]
        exact (and_iff_right hkey).symm
      · rw [List.filter_cons_of_pos (by simp [hticket]), List.cons_append,
          extractTicketEntry]
        cases hkey : entry.1.asI64 with
        | none =>
            have hnone : keyAsU64 entry.1 = none :=
              Option.map_eq_none_iff.mpr hkey
            rw [hnone]
            simp
        | some v =>
            have hsome : keyAsU64 entry.1
                = some (BitVec.ofInt 64 v).toNat := by
              unfold keyAsU64
              rw [hkey]
              rfl
            rw [hsome] at hticket ⊢
            dsimp only
            rw [if_neg fun h => hticket (congrArg some h)]
            exact (and_iff_right rfl).symm

/-- A ticket put into the fields is found there exactly when no key
before it ends the search. -/
theorem extractTicketField_insert_iff {ticket : Bytes}
    (hlength : ticket.length = ticketLength) (fields : Value)
    (expiresAtS : F64) :
    extractTicketField (insertTicketField fields expiresAtS ticket)
        = some (expiresAtS, ticket) ↔ I64Keys fields := by
  unfold insertTicketField extractTicketField
  cases fields with
  | map entries =>
      exact extractTicketEntry_kept_iff hlength expiresAtS entries
  | _ =>
      refine iff_of_true ?_ trivial
      exact (extractTicketEntry_kept_iff hlength expiresAtS []).mpr
        fun e he => absurd he List.not_mem_nil

/-- The ticket is found, under the one key of its kind, and the other
entries are as they were. -/
structure TicketRoundTrips (fields : Value) (expiresAtS : F64)
    (ticket : Bytes) : Prop where
  found : extractTicketField (insertTicketField fields expiresAtS ticket)
    = some (expiresAtS, ticket)
  single : ((fieldEntries (insertTicketField fields expiresAtS
    ticket)).filter (·.1 = ticketKey)).length = 1
  kept : (fieldEntries (insertTicketField fields expiresAtS ticket)).filter
      (·.1 ≠ ticketKey)
    = (fieldEntries fields).filter (·.1 ≠ ticketKey)

/-- The entries after an insertion: the others, then the ticket. -/
theorem fieldEntries_insert (fields : Value) (expiresAtS : F64)
    (ticket : Bytes) :
    fieldEntries (insertTicketField fields expiresAtS ticket)
      = (fieldEntries fields).filter (·.1 ≠ ticketKey)
        ++ [(ticketKey, .array [.f64 expiresAtS, .binary ticket])] := by
  have hkeys (entries : List (Value × Value)) :
      entries.filter (fun e => decide (keyAsU64 e.1 ≠ some fieldTicket))
        = entries.filter (·.1 ≠ ticketKey) := by
    refine List.filter_congr fun e _ => ?_
    rw [decide_eq_decide, ne_eq, ne_eq, keyAsU64_eq_ticket_iff]
  unfold insertTicketField
  cases fields with
  | map entries => exact congrArg (· ++ _) (hkeys entries)
  | _ => rfl

/-- Where no entry is lost and none comes in twice, the ticket is found
again exactly if every key is an `i64`. -/
theorem ticket_round_trips_iff {ticket : Bytes}
    (hlength : ticket.length = ticketLength) (fields : Value)
    (expiresAtS : F64) :
    TicketRoundTrips fields expiresAtS ticket ↔ I64Keys fields := by
  rw [← extractTicketField_insert_iff hlength fields expiresAtS]
  constructor
  · exact TicketRoundTrips.found
  · intro hfound
    refine ⟨hfound, ?_, ?_⟩
    · rw [fieldEntries_insert, List.filter_append, List.filter_filter]
      simp
    · rw [fieldEntries_insert, List.filter_append, List.filter_filter]
      simp

/-- Fields with an old ticket among them. -/
def docTicketFields : Value :=
  .map [(.ofNat 1, .str "v"),
    (ticketKey, .array [.f64 (.fin 0),
      .binary (List.replicate ticketLength 0x01)]),
    (.ofNat 2, .nil)]

/-- The new ticket is found in its place. -/
theorem ticket_round_trips_iff_doc :
    TicketRoundTrips docTicketFields (.fin 5)
      (List.replicate ticketLength 0x03) := by
  refine (ticket_round_trips_iff (List.length_replicate ..) docTicketFields
    (.fin 5)).mpr ?_
  unfold I64Keys docTicketFields
  decide

/-- A string key before the ticket ends the search for it. -/
theorem ticket_behind_string_not_found :
    ¬ TicketRoundTrips (.map [(.str "k", .str "v")]) (.fin 0)
      (List.replicate ticketLength 0x03) := by
  intro h
  have hnone : extractTicketField (insertTicketField
      (.map [(.str "k", .str "v")]) (.fin 0)
      (List.replicate ticketLength 0x03)) = none := by
    decide
  have hfound := h.found
  rw [hnone] at hfound
  cases hfound

-- ========================================================== the messages

section Messages

variable {P : Platform}

/-- What is on the wire of a message, apart from its stamp. -/
theorem LXMessage.decode_of_encodeSigned (hP : RmpvCodec P)
    {m m' d : LXMessage} {key : FixedBytes 32} {rng : OsRng}
    {bytes : Bytes} (h : m.encodeSigned P key rng = (.ok bytes, m'))
    (hd : decode P bytes = .ok d) :
    d.destinationHash = m.destinationHash ∧ d.sourceHash = m.sourceHash
      ∧ d.fields = m.fields ∧ d.stamp = m'.stamp
      ∧ ∃ payload, m.packPayload P false = .ok payload
        ∧ d.recomputedId P = .ok (computeMessageId P m.destinationHash
          m.sourceHash payload) := by
  obtain ⟨payload, found, hp, _, hre, hfound, hsame⟩ :=
    encodeSigned_decodes hP h
  rw [hd] at hfound
  cases hfound
  have hdest : d.destinationHash = m.destinationHash := by
    rw [hsame.destinationHash, hre]
  have hsource : d.sourceHash = m.sourceHash := by
    rw [hsame.sourceHash, hre]
  have hfields : d.fields = m.fields := by
    rw [hsame.fields, hre]
  refine ⟨hdest, hsource, hfields, hsame.stamp, payload, hp, ?_⟩
  have hpack : d.packPayload P false = .ok payload := by
    rw [packPayload_false_congr hsame.timestamp hsame.title hsame.content
      hsame.fields, hre]
    exact hp
  unfold recomputedId
  rw [hpack, hdest, hsource]
  rfl

/-- A message with a ticket and no stamp goes out with the stamp of the
ticket. -/
theorem LXMessage.stamped_by_ticket (hP : RmpvCodec P)
    {m m' d : LXMessage} {key : FixedBytes 32} {rng : OsRng}
    {bytes ticket : Bytes} (hstamp : m.stamp = none)
    (hticket : m.outboundTicket = some ticket)
    (hlength : ticket.length = ticketLength)
    (hdefer : m.deferStamp = false)
    (h : m.encodeSigned P key rng = (.ok bytes, m'))
    (hd : decode P bytes = .ok d) :
    ∃ id, d.recomputedId P = .ok id
      ∧ d.stamp = some (ticketStamp P ticket id).toList := by
  obtain ⟨_, _, _, hsent, payload, hp, hid⟩ :=
    decode_of_encodeSigned hP h hd
  refine ⟨_, hid, ?_⟩
  rw [hsent]
  unfold encodeSigned ensureStampUnlessDeferred ensureStamp at h
  simp only [hp, hdefer, hstamp, hticket, hlength, Bool.not_false,
    if_true, Option.isSome_none, Bool.false_eq_true, if_false] at h
  have hleft := congrArg Prod.snd h
  dsimp only at hleft
  rw [← hleft]
  rfl

/-- The stamp of a ticket is accepted with the ticket, at any cost. -/
theorem LXMessage.validateStamp_ticket {m : LXMessage} {ticket : Bytes}
    {id : Hash32} (hid : m.recomputedId P = .ok id)
    (hstamp : m.stamp = some (ticketStamp P ticket id).toList)
    (hlength : ticket.length = ticketLength) (cost : Option Nat) :
    (m.validateStamp P cost (some ticket)).1 = .ok true := by
  have hmatches : ticketMatches P (some ticket)
      (ticketStamp P ticket id).toList id = true := by
    simp [ticketMatches, hlength]
  have hchecked : LXMessage.recomputedId P { m with stampChecked := true }
      = .ok id := hid
  unfold validateStamp
  dsimp only
  split
  case h_1 hnone =>
    rw [hstamp] at hnone
    cases hnone
  case h_2 stamp hsome =>
    rw [hstamp] at hsome
    cases hsome
    rw [hchecked]
    dsimp only
    rw [if_pos hmatches]
    rfl

/-- One of several tickets is enough. -/
theorem tryTickets_ticket {ticket : Bytes} {id : Hash32}
    (hlength : ticket.length = ticketLength) (cost : Nat)
    {tickets : List Bytes} (hmem : ticket ∈ tickets) {m : LXMessage}
    (hid : m.recomputedId P = .ok id)
    (hstamp : m.stamp
      = some (LXMessage.ticketStamp P ticket id).toList) :
    (tryTickets P cost tickets m).1 = true := by
  induction tickets generalizing m with
  | nil => exact absurd hmem List.not_mem_nil
  | cons first tickets ih =>
      have hout := validateStamp_outcome (P := P) m (some cost) (some first)
      have haccepts := LXMessage.validateStamp_ticket hid hstamp hlength
        (some cost)
      cases hfirst : m.validateStamp P (some cost) (some first) with
      | mk result m' =>
          rw [hfirst] at hout
          by_cases hok : result = .ok true
          · unfold tryTickets
            rw [hfirst, hok]
          · have hne : ticket ≠ first := by
              intro heq
              rw [heq, hfirst] at haccepts
              exact hok haccepts
            have hrest := ih (List.mem_of_ne_of_mem hne hmem)
              (hout.recomputed.trans hid) (hout.stamp.trans hstamp)
            unfold tryTickets
            rw [hfirst]
            split
            case h_1 heq => exact absurd (congrArg Prod.fst heq) hok
            case h_2 heq =>
              cases heq
              exact hrest

end Messages

-- =========================================================== the routers

/-- A call of a ticket function in between. -/
inductive TicketCall where
  | cleanTickets (nowMs : Nat)
  | generateTicket (destinationHash : Hash16) (nowMs : Nat) (rng : OsRng)

def TicketCall.nowMs : TicketCall → Nat
  | .cleanTickets nowMs => nowMs
  | .generateTicket _ nowMs _ => nowMs

namespace LxmfRouter

section Routers

variable {σ : Type} {P : Platform} {t : Nat} {dest : Hash16}
  {ticket : Bytes} {e : F64} {entry : TicketEntry}

def ticketCall (P : Platform) (r : LxmfRouter σ) :
    TicketCall → LxmfRouter σ
  | .cleanTickets nowMs => r.cleanTickets P nowMs
  | .generateTicket dest nowMs rng => (r.generateTicket P dest nowMs rng).2

def ticketCalls (P : Platform) (r : LxmfRouter σ)
    (calls : List TicketCall) : LxmfRouter σ :=
  calls.foldl (ticketCall P) r

theorem generateTicket_ticketStore (r : LxmfRouter σ) (dest : Hash16)
    (nowMs : Nat) (rng : OsRng) :
    (r.generateTicket P dest nowMs rng).2.ticketStore
      = (r.ticketStore.generateTicket dest nowMs ticketExpiry rng).2 := by
  unfold generateTicket
  split
  case h_1 heq =>
    rw [heq]
    rfl
  case h_2 heq => rw [heq]

/-- The issuer honours a ticket whatever is called before it expires. -/
theorem honours_ticketCalls {r : LxmfRouter σ} {nowMs : Nat}
    (h : r.ticketStore.Honours dest ticket e)
    (hissued : TicketStore.Issuable nowMs ticket e)
    {calls : List TicketCall}
    (hcalls : ∀ call ∈ calls, nowMs ≤ call.nowMs
      ∧ (nowS call.nowMs).lt e = true) :
    (r.ticketCalls P calls).ticketStore.Honours dest ticket e := by
  unfold ticketCalls
  induction calls generalizing r with
  | nil => exact h
  | cons call calls ih =>
      obtain ⟨hafter, hbefore⟩ := hcalls call List.mem_cons_self
      refine ih (r := r.ticketCall P call) ?_ fun other hother =>
        hcalls other (List.mem_cons_of_mem call hother)
      cases call with
      | cleanTickets t => exact h.cleanExpired hbefore
      | generateTicket other t rng =>
          show (r.generateTicket P other t rng).2.ticketStore.Honours _ _ _
          rw [generateTicket_ticketStore]
          exact h.generateTicket hissued other hafter rng

/-- The receiver carries it as long. -/
theorem carries_ticketCalls {r : LxmfRouter σ}
    (h : r.ticketStore.Carries dest entry) {calls : List TicketCall}
    (hcalls : ∀ call ∈ calls,
      (nowS call.nowMs).lt entry.expiresAtS = true) :
    (r.ticketCalls P calls).ticketStore.Carries dest entry := by
  unfold ticketCalls
  induction calls generalizing r with
  | nil => exact h
  | cons call calls ih =>
      have hbefore := hcalls call List.mem_cons_self
      refine ih (r := r.ticketCall P call) ?_ fun other hother =>
        hcalls other (List.mem_cons_of_mem call hother)
      cases call with
      | cleanTickets t => exact h.cleanExpired hbefore
      | generateTicket other t rng =>
          show (r.generateTicket P other t rng).2.ticketStore.Carries _ _
          rw [generateTicket_ticketStore]
          exact h.generateTicket other t rng

-- ------------------------------------------------------ one message each

/-- A message that asks for a ticket, and gets one. -/
theorem prepareOutbound_ticket {r : LxmfRouter σ} {message : LXMessage}
    {nowMs : Nat} {rng : OsRng} {ts : TicketStore}
    (hinclude : message.includeTicket = true)
    (hentry : r.ticketStore.generateTicket message.destinationHash nowMs
      ticketExpiry rng = (some entry, ts)) :
    (r.prepareOutbound P message nowMs rng).1.destinationHash
        = message.destinationHash
      ∧ (r.prepareOutbound P message nowMs rng).1.sourceHash
        = message.sourceHash
      ∧ (r.prepareOutbound P message nowMs rng).1.fields
        = insertTicketField message.fields entry.expiresAtS entry.ticket
      ∧ (r.prepareOutbound P message nowMs rng).2.ticketStore = ts := by
  have hincluded : r.includeTicket P (r.lookUpStamp message nowMs) nowMs rng
      = ({ r.lookUpStamp message nowMs with
            fields := insertTicketField message.fields entry.expiresAtS
              entry.ticket },
          persistTicketStore P { r with ticketStore := ts }) := by
    have hasks : (r.lookUpStamp message nowMs).includeTicket = true :=
      hinclude
    have hdest : (r.lookUpStamp message nowMs).destinationHash
        = message.destinationHash := rfl
    unfold includeTicket
    rw [if_pos hasks, hdest, hentry]
    rfl
  unfold prepareOutbound
  dsimp only
  rw [hincluded]
  exact ⟨rfl, rfl, rfl, rfl⟩

/-- A message to a destination a ticket is carried for is not deferred. -/
theorem prepareOutbound_carried {r : LxmfRouter σ} {message : LXMessage}
    {nowMs : Nat} (rng : OsRng)
    (hcarries : r.ticketStore.Carries message.destinationHash entry)
    (hbefore : (nowS nowMs).lt entry.expiresAtS = true) :
    (r.prepareOutbound P message nowMs rng).1.outboundTicket
        = some entry.ticket
      ∧ (r.prepareOutbound P message nowMs rng).1.deferStamp = false
      ∧ (r.prepareOutbound P message nowMs rng).1.stamp = message.stamp
      ∧ (r.prepareOutbound P message nowMs rng).1.destinationHash
        = message.destinationHash
      ∧ (r.prepareOutbound P message nowMs rng).1.sourceHash
        = message.sourceHash := by
  have hticket := hcarries.getOutboundTicket hbefore
  have hlooked : (r.lookUpStamp message nowMs).outboundTicket
        = some entry.ticket
      ∧ (r.lookUpStamp message nowMs).deferStamp = false := by
    unfold lookUpStamp
    rw [hticket]
    exact ⟨rfl, Bool.and_false _⟩
  have hincluded (m : LXMessage) :
      ∃ fields, (r.includeTicket P m nowMs rng).1
        = { m with fields := fields } := by
    unfold includeTicket
    split
    case isTrue =>
      split
      case h_1 => exact ⟨_, rfl⟩
      case h_2 => exact ⟨_, rfl⟩
    case isFalse => exact ⟨_, rfl⟩
  obtain ⟨fields, hfields⟩ := hincluded (r.lookUpStamp message nowMs)
  unfold prepareOutbound
  dsimp only
  rw [hfields]
  refine ⟨hlooked.1, ?_, rfl, rfl, rfl⟩
  dsimp only
  rw [hlooked.2]
  rfl

theorem handleOutbound_ticketStore [MessageStore σ] (r : LxmfRouter σ)
    (message : LXMessage) (mode : DeliveryMode) (nowMs : Nat)
    (rng : OsRng) (free : Bool) :
    (r.handleOutbound P message mode nowMs rng free).2.ticketStore
      = (r.prepareOutbound P message nowMs rng).2.ticketStore := by
  unfold handleOutbound
  dsimp only
  split
  case isTrue => rfl
  case isFalse => rfl

/-- A message that is accepted leaves its ticket with the receiver. -/
theorem processInboundMessage_carries {r : LxmfRouter σ}
    {message : LXMessage} {nowMs : Nat} {noStampEnforcement : Bool}
    (hticket : extractTicketField message.fields
      = some (entry.expiresAtS, entry.ticket))
    (hbefore : (nowS nowMs).lt entry.expiresAtS = true)
    (haccepted : (r.processInboundMessage P message nowMs true
      noStampEnforcement).1.isSome = true) :
    (r.processInboundMessage P message nowMs true
      noStampEnforcement).2.ticketStore.Carries message.sourceHash
        entry := by
  have hlearned : (r.learnTicket P message nowMs).ticketStore.Carries
      message.sourceHash entry := by
    unfold learnTicket
    rw [hticket]
    dsimp only
    rw [if_pos hbefore]
    exact AList.lookup_insert _
  have hmarked (r : LxmfRouter σ) (m : LXMessage) :
      (r.markDelivered P m nowMs).ticketStore = r.ticketStore := by
    unfold markDelivered
    split
    case h_1 => rfl
    case h_2 => rfl
  unfold processInboundMessage at haccepted ⊢
  split at haccepted
  case isTrue => cases haccepted
  case isFalse hheard =>
    rw [if_neg hheard]
    split at haccepted
    case isTrue => cases haccepted
    case isFalse hnew =>
      rw [if_neg hnew]
      simp only [if_true] at haccepted ⊢
      split at haccepted
      case isTrue => cases haccepted
      case isFalse hpasses =>
        rw [if_neg hpasses]
        unfold TicketStore.Carries
        rw [hmarked]
        exact hlearned

/-- A stamp of a ticket that is honoured is accepted. -/
theorem processInboundMessage_honoured {r : LxmfRouter σ}
    {message : LXMessage} {nowMs : Nat} {id : Hash32}
    (hhonours : r.ticketStore.Honours message.sourceHash ticket e)
    (hlength : ticket.length = ticketLength)
    (hbefore : (nowS nowMs).lt e = true)
    (hid : message.recomputedId P = .ok id)
    (hstamp : message.stamp
      = some (LXMessage.ticketStamp P ticket id).toList)
    (hheard : message.sourceHash ∉ r.ignoredDestinations)
    (hnew : r.alreadyDelivered message = false)
    (signatureValidated noStampEnforcement : Bool) :
    (r.processInboundMessage P message nowMs signatureValidated
      noStampEnforcement).1.isSome = true := by
  have hvalid : (r.checkInboundStamp P message nowMs).1 = true := by
    obtain ⟨x, hlookup, hlasts⟩ := hhonours
    have hmem := TicketStore.mem_getInboundTickets.mpr
      ⟨x, hlookup, hlasts nowMs hbefore⟩
    unfold checkInboundStamp
    split
    case h_1 cost _ =>
      have htry := tryTickets_ticket (P := P) hlength cost hmem hid hstamp
      unfold validateStampWithTickets
      split
      case h_1 => rfl
      case h_2 heq =>
        rw [heq] at htry
        cases htry
    case h_2 => rfl
  have hlearned : (if signatureValidated then r.learnTicket P message nowMs
      else r).checkInboundStamp P message nowMs
        = r.checkInboundStamp P message nowMs := by
    split
    case isTrue =>
      obtain ⟨_, _, hcosts, hinbound⟩ :=
        learnTicket_frame (P := P) r message nowMs
      exact checkInboundStamp_congr hcosts hinbound message nowMs
    case isFalse => rfl
  unfold processInboundMessage
  rw [if_neg hheard, if_neg (by simp [hnew])]
  dsimp only
  rw [hlearned, hvalid]
  rfl

end Routers

-- ========================================================== end to end

section EndToEnd

variable {σ : Type} [MessageStore σ] {P : Platform}

/-- Router `A` puts a ticket into a message, and router `B` accepts the
message before the ticket expires. Then `A` accepts every fresh reply of
`B` that is sent and arrives before the ticket expires, whatever stamps
it asks for, and whatever ticket functions are called in between. -/
theorem reply_accepted (hP : RmpvCodec P) {A B : LxmfRouter σ}
    -- the message, and the ticket `A` puts into it
    {message : LXMessage} {sentMs : Nat} {rng : OsRng}
    {entry : TicketEntry} {ts : TicketStore}
    (hbuilt : A.ticketStore.Built sentMs)
    (hinclude : message.includeTicket = true)
    (hkeys : I64Keys message.fields)
    (hentry : A.ticketStore.generateTicket message.destinationHash sentMs
      ticketExpiry rng = (some entry, ts))
    -- its way to `B`
    {defer : Bool} {keyA : FixedBytes 32} {stampRng : OsRng}
    {bytes : Bytes} {left received : LXMessage}
    (hsent : LXMessage.encodeSigned P
      { (A.prepareOutbound P message sentMs rng).1 with
        deferStamp := defer } keyA stampRng = (.ok bytes, left))
    (hreceived : LXMessage.decode P bytes = .ok received)
    {receivedMs : Nat} {noStampEnforcement : Bool}
    (haccepted : (B.processInboundMessage P received receivedMs true
      noStampEnforcement).1.isSome = true)
    (hintime : (nowS receivedMs).lt entry.expiresAtS = true)
    -- what is called in between
    {callsA callsB : List TicketCall}
    (hcallsA : ∀ call ∈ callsA, sentMs ≤ call.nowMs
      ∧ (nowS call.nowMs).lt entry.expiresAtS = true)
    (hcallsB : ∀ call ∈ callsB,
      (nowS call.nowMs).lt entry.expiresAtS = true)
    -- the reply, and its way back
    {reply : LXMessage}
    (hdestination : reply.destinationHash = message.sourceHash)
    (hsource : reply.sourceHash = message.destinationHash)
    (hunstamped : reply.stamp = none)
    {replyMs : Nat} {replyRng drawRng : OsRng} {keyB : FixedBytes 32}
    (hreplied : (nowS replyMs).lt entry.expiresAtS = true)
    {replyBytes : Bytes} {replyLeft arrived : LXMessage}
    (hreply : (((B.processInboundMessage P received receivedMs true
      noStampEnforcement).2.ticketCalls P callsB).prepareOutbound P reply
        replyMs replyRng).1.encodeSigned P keyB drawRng
          = (.ok replyBytes, replyLeft))
    (harrived : LXMessage.decode P replyBytes = .ok arrived)
    -- `A` when it arrives
    {mode : DeliveryMode} {free : Bool}
    (hheard : message.destinationHash
      ∉ ((A.handleOutbound P message mode sentMs rng free).2.ticketCalls P
        callsA).ignoredDestinations)
    (hfresh : ((A.handleOutbound P message mode sentMs rng
      free).2.ticketCalls P callsA).alreadyDelivered arrived = false)
    {arrivedMs : Nat}
    (harrives : (nowS arrivedMs).lt entry.expiresAtS = true)
    (costs : HashMap Hash16 Nat) (enforce signatureValidated
      noStampEnforcement' : Bool) :
    ({ (A.handleOutbound P message mode sentMs rng free).2.ticketCalls P
        callsA with
      inboundStampCosts := costs
      enforceStamps := enforce }.processInboundMessage P arrived arrivedMs
        signatureValidated noStampEnforcement').1.isSome = true := by
  -- the issuer
  obtain ⟨hissuable, hhonours⟩ :=
    TicketStore.honours_generateTicket hbuilt.issuedBy hentry
  obtain ⟨_, hfrom, hfields, hts⟩ :=
    prepareOutbound_ticket (P := P) hinclude hentry
  rw [← hts, ← handleOutbound_ticketStore A message mode sentMs rng free]
    at hhonours
  have hstill := honours_ticketCalls (P := P) hhonours hissuable hcallsA
  -- the receiver
  obtain ⟨_, hsender, hcarried, _⟩ :=
    LXMessage.decode_of_encodeSigned hP hsent hreceived
  have hticket : extractTicketField received.fields
      = some (entry.expiresAtS, entry.ticket) := by
    refine (congrArg extractTicketField (hcarried.trans hfields)).trans ?_
    exact (extractTicketField_insert_iff hissuable.length _ _).mpr hkeys
  have hcarries := carries_ticketCalls (P := P)
    (processInboundMessage_carries hticket hintime haccepted) hcallsB
  rw [hsender.trans hfrom, ← hdestination] at hcarries
  -- the reply
  obtain ⟨houtbound, hdefer, hstamp, _, hreplier⟩ :=
    prepareOutbound_carried (P := P) replyRng hcarries hreplied
  obtain ⟨_, hback, _⟩ :=
    LXMessage.decode_of_encodeSigned hP hreply harrived
  obtain ⟨id, hid, harrivedStamp⟩ := LXMessage.stamped_by_ticket hP
    (hstamp.trans hunstamped) houtbound hissuable.length hdefer hreply
    harrived
  have hagain : arrived.sourceHash = message.destinationHash :=
    hback.trans (hreplier.trans hsource)
  rw [← hagain] at hstill hheard
  generalize (A.handleOutbound P message mode sentMs rng free).2.ticketCalls
    P callsA = issuer at hstill hheard hfresh ⊢
  exact processInboundMessage_honoured (r := { issuer with
      inboundStampCosts := costs
      enforceStamps := enforce })
    hstill hissuable.length harrives hid harrivedStamp hheard hfresh
    signatureValidated noStampEnforcement'

end EndToEnd

section TicketInstance

open Reference

/-- The documentation's message, asking for a ticket. -/
def docQuery : LXMessage := { docMessage with includeTicket := true }

/-- A reply to it. -/
def docReply : LXMessage :=
  .withBytes docMessage.sourceHash docMessage.destinationHash
    (.fin 1700000000) [] [0x6f, 0x6b] (.map [])

/-- A time at which a ticket of time zero has a day left. -/
def lateMs : Nat := 20 * 24 * 60 * 60 * 1000

/-- A fresh router accepts what it is given. -/
theorem docNode_accepts (m : LXMessage) (nowMs : Nat) :
    (docNode.processInboundMessage platform m nowMs true
      false).1.isSome = true := by
  have hnew : docNode.alreadyDelivered m = false := by
    unfold alreadyDelivered
    split
    case h_1 id _ =>
      exact decide_eq_false (AList.notMem_empty id)
    case h_2 => rfl
  have hcheck : ((docNode.learnTicket platform m
      nowMs).checkInboundStamp platform m nowMs).1 = true := by
    obtain ⟨_, _, hcosts, hinbound⟩ :=
      learnTicket_frame (P := platform) docNode m nowMs
    rw [checkInboundStamp_congr hcosts hinbound]
    rfl
  have hheard : m.sourceHash ∉ docNode.ignoredDestinations :=
    Finset.notMem_empty m.sourceHash
  unfold processInboundMessage
  rw [if_neg hheard, if_neg (by simp [hnew])]
  simp only [if_true]
  rw [hcheck]
  rfl

/-- A router that received the query and cleaned its tickets late. -/
noncomputable def docReplier (received : LXMessage) :
    LxmfRouter InMemoryStore :=
  (docNode.processInboundMessage platform received 0 true
    false).2.ticketCalls platform [.cleanTickets lateMs]

/-- The router that sent it and cleaned its tickets late. -/
noncomputable def docIssuer : LxmfRouter InMemoryStore :=
  (docNode.handleOutbound platform docQuery .direct 0 (fun _ => 7)
    true).2.ticketCalls platform [.cleanTickets lateMs]

/-- The reply of twenty days later is accepted at the highest cost,
although both routers clean their tickets in between. -/
theorem reply_accepted_doc :
    ∃ received replyBytes left arrived,
      ((docReplier received).prepareOutbound platform docReply lateMs
        (fun _ => 0)).1.encodeSigned platform docKey (fun _ => 0)
          = (.ok replyBytes, left)
      ∧ LXMessage.decode platform replyBytes = .ok arrived
      ∧ ({ docIssuer with
          inboundStampCosts :=
            (∅ : HashMap Hash16 Nat).insert docMessage.sourceHash u32Max
          enforceStamps := true }.processInboundMessage platform arrived
            lateMs true false).1.isSome = true := by
  have hP := platform_rmpvCodec
  have hbefore : (nowS 0).lt ((nowS 0).add (.fin ticketExpiry)) = true := by
    decide +kernel
  have hlate : (nowS lateMs).lt ((nowS 0).add (.fin ticketExpiry))
      = true := by decide +kernel
  have hasks : docQuery.includeTicket = true := rfl
  have hkeys : I64Keys docQuery.fields := by
    intro e he
    cases he
  have hdelivered : docIssuer.localDeliveries = ∅ := by rfl
  have hfresh (m : LXMessage) : docIssuer.alreadyDelivered m = false := by
    unfold alreadyDelivered
    split
    case h_1 id _ =>
      rw [hdelivered]
      exact decide_eq_false (AList.notMem_empty id)
    case h_2 => rfl
  have hheard : docQuery.destinationHash
      ∉ docIssuer.ignoredDestinations := Finset.notMem_empty _
  obtain ⟨bytes, left, hsent⟩ := hP.encodeSigned_ok
    { (docNode.prepareOutbound platform docQuery 0 (fun _ => 7)).1 with
      deferStamp := false } docKey (fun _ => 0)
  obtain ⟨_, received, _, _, _, hreceived, _⟩ :=
    encodeSigned_decodes hP hsent
  obtain ⟨replyBytes, replyLeft, hreply⟩ := hP.encodeSigned_ok
    ((docReplier received).prepareOutbound platform docReply lateMs
      (fun _ => 0)).1 docKey (fun _ => 0)
  obtain ⟨_, arrived, _, _, _, harrived, _⟩ :=
    encodeSigned_decodes hP hreply
  refine ⟨received, replyBytes, replyLeft, arrived, hreply, harrived, ?_⟩
  refine reply_accepted (A := docNode) (B := docNode)
    hP .empty hasks hkeys rfl hsent
    hreceived (docNode_accepts received 0) hbefore ?_ ?_ rfl rfl rfl hlate
    hreply harrived hheard (hfresh arrived) hlate _ true true false
  · intro call hcall
    rw [List.mem_singleton] at hcall
    subst hcall
    exact ⟨Nat.zero_le _, hlate⟩
  · intro call hcall
    rw [List.mem_singleton] at hcall
    subst hcall
    exact hlate

end TicketInstance

end LxmfRouter

end Lxmf
