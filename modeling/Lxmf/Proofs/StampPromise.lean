/-
The stamp a message was to carry, after it was encoded
(lxmf-rs/src/message.rs: `encode_signed`, `ensure_stamp`,
`generate_stamp`, `validate_stamp`).

`ensure_stamp` keeps a stamp that is there, whatever it was made for; it
makes one from a ticket, which cannot fail; and it draws one for a cost,
a bounded number of times. When no draw passes it returns `Ok` all the
same, and the message is encoded without a stamp. What the receiver then
says is told here from the inputs: the stamp that was there, the ticket,
the cost and the draws.
-/
import Lxmf.Proofs.PeeringKey
import Lxmf.Proofs.Tickets

namespace Lxmf

open LXMessage

variable {P : Platform}

-- ============================================================== drawing

/-- The loop finds a stamp when one of its draws passes. -/
theorem generateStampLoop_isSome_iff {rng : OsRng} {workblock : Bytes}
    {cost k left : Nat} :
    (generateStampLoop P rng workblock cost k left).1.isSome = true
      ↔ ∃ i, k ≤ i ∧ i < k + left
        ∧ stampValid P workblock (rng.fillBytes stampSize i).toList cost
          = true := by
  induction left generalizing k with
  | zero =>
      refine iff_of_false Bool.false_ne_true ?_
      rintro ⟨i, hle, hlt, _⟩
      omega
  | succ left ih =>
      unfold generateStampLoop
      dsimp only
      split
      case isTrue hvalid =>
        exact iff_of_true rfl ⟨k, Nat.le_refl k, by omega, hvalid⟩
      case isFalse hvalid =>
        rw [ih]
        constructor
        · rintro ⟨i, hle, hlt, hi⟩
          exact ⟨i, by omega, by omega, hi⟩
        · rintro ⟨i, hle, hlt, hi⟩
          have hne : i ≠ k := fun heq => hvalid (heq ▸ hi)
          exact ⟨i, by omega, by omega, hi⟩

/-- The generator yields a stamp of the cost for the id in time. -/
def Draws (P : Platform) (rng : OsRng) (id : Hash32) (cost : Nat) : Prop :=
  ∃ workblock, stampWorkblock P id.toList workblockExpandRounds
      = .ok workblock
    ∧ ∃ k < maxRounds cost,
      stampValid P workblock (rng.fillBytes stampSize k).toList cost = true

theorem generateStamp_isSome_iff {rng : OsRng} {id : Hash32} {cost : Nat} :
    (generateStamp P rng id cost workblockExpandRounds).1.isSome = true
      ↔ Draws P rng id cost := by
  unfold generateStamp Draws
  split
  case h_1 herror =>
    refine iff_of_false Bool.false_ne_true ?_
    rintro ⟨workblock, hok, _⟩
    rw [herror] at hok
    cases hok
  case h_2 workblock hok =>
    rw [generateStampLoop_isSome_iff]
    constructor
    · rintro ⟨k, _, hlt, hvalid⟩
      exact ⟨workblock, hok, k, by omega, hvalid⟩
    · rintro ⟨found, hfound, k, hlt, hvalid⟩
      rw [hok] at hfound
      cases hfound
      exact ⟨k, Nat.zero_le k, by omega, hvalid⟩

/-- What `generate_stamp` returns solves the cost. -/
theorem generateStamp_solves {rng : OsRng} {id : Hash32} {cost : Nat}
    {stamp : FixedBytes stampSize}
    (h : (generateStamp P rng id cost workblockExpandRounds).1
      = some stamp) :
    ∃ workblock, stampWorkblock P id.toList workblockExpandRounds
        = .ok workblock
      ∧ stampValid P workblock stamp.toList cost = true := by
  unfold generateStamp at h
  split at h
  case h_1 => cases h
  case h_2 workblock hok => exact ⟨workblock, hok, generateStampLoop_valid h⟩

-- ============================================================= accepting

namespace LXMessage

/-- The stamp is the one of the ticket for this id, or solves the cost. -/
def Accepts (P : Platform) (id : Hash32) (cost : Option Nat)
    (ticket : Option Bytes) (stamp : Bytes) : Prop :=
  ticketMatches P ticket stamp id = true
    ∨ ∃ c workblock, cost = some c
      ∧ stampWorkblock P id.toList workblockExpandRounds = .ok workblock
      ∧ Lxmf.stampValid P workblock stamp c = true

variable {m : LXMessage} {id : Hash32} {cost : Option Nat}
  {ticket : Option Bytes} {stamp : Bytes}

/-- The proof-of-work branch of the check. -/
theorem validateDrawnStamp_iff :
    (m.validateDrawnStamp P cost stamp id).1 = .ok true
      ↔ ∃ c workblock, cost = some c
        ∧ stampWorkblock P id.toList workblockExpandRounds = .ok workblock
        ∧ Lxmf.stampValid P workblock stamp c = true := by
  unfold validateDrawnStamp
  cases cost with
  | none =>
      refine iff_of_false (fun h => nomatch h) ?_
      rintro ⟨c, _, hnone, _⟩
      cases hnone
  | some c =>
      dsimp only
      split
      case h_1 herror =>
        refine iff_of_false (fun h => nomatch h) ?_
        rintro ⟨_, _, _, hok, _⟩
        rw [herror] at hok
        cases hok
      case h_2 workblock hok =>
        split
        case isTrue hvalid =>
          exact iff_of_true rfl ⟨c, workblock, rfl, hok, hvalid⟩
        case isFalse hvalid =>
          refine iff_of_false (fun h => nomatch h) ?_
          rintro ⟨c', found, hc, hfound, hvalid'⟩
          cases hc
          rw [hok] at hfound
          cases hfound
          exact hvalid hvalid'

/-- The check returns true for a stamp it accepts. -/
theorem validateStamp_iff (hid : m.recomputedId P = .ok id) :
    (m.validateStamp P cost ticket).1 = .ok true
      ↔ ∃ stamp, m.stamp = some stamp ∧ Accepts P id cost ticket stamp := by
  have hchecked : LXMessage.recomputedId P { m with stampChecked := true }
      = .ok id := hid
  unfold validateStamp
  dsimp only
  split
  case h_1 hnone =>
    refine iff_of_false (fun h => nomatch h) ?_
    rintro ⟨stamp, hsome, _⟩
    rw [hnone] at hsome
    cases hsome
  case h_2 stamp hsome =>
    rw [hchecked]
    dsimp only
    split
    case isTrue hmatches =>
      exact iff_of_true rfl ⟨stamp, hsome, .inl hmatches⟩
    case isFalse hmatches =>
      rw [validateDrawnStamp_iff]
      constructor
      · exact fun h => ⟨stamp, hsome, .inr h⟩
      · rintro ⟨found, hfound, haccepts⟩
        rw [hsome] at hfound
        cases hfound
        exact haccepts.resolve_left hmatches

theorem accepts_ticket {t : Bytes} (hlength : t.length = ticketLength) :
    Accepts P id cost (some t) (ticketStamp P t id).toList := by
  refine .inl ?_
  simp [ticketMatches, hlength]

-- ============================================================== encoding

/-- Every message has an id. -/
theorem recomputedId_ok (hP : RmpvCodec P) (m : LXMessage) :
    ∃ id, m.recomputedId P = .ok id := by
  obtain ⟨payload, hp⟩ := hP.packPayload_ok m false
  refine ⟨computeMessageId P m.destinationHash m.sourceHash payload, ?_⟩
  unfold recomputedId
  rw [hp]
  rfl

/-- The message has a stamp that is accepted for it, or gets one: it has
none, and a ticket to make it from or draws that find it. -/
def Stampable (P : Platform) (m : LXMessage) (rng : OsRng) (id : Hash32) :
    Prop :=
  match m.stamp with
  | some stamp => Accepts P id m.stampCost m.outboundTicket stamp
  | none =>
      (∃ ticket, m.outboundTicket = some ticket
        ∧ ticket.length = ticketLength)
      ∨ ∃ cost, m.stampCost = some cost ∧ Draws P rng id cost

/-- Drawing leaves an accepted stamp exactly when a draw passes. -/
theorem ensureDrawnStamp_accepts_iff (hstamp : m.stamp = none)
    (rng : OsRng) (ticket : Option Bytes) :
    (∃ stamp, (m.ensureDrawnStamp P rng id).stamp = some stamp
        ∧ Accepts P id m.stampCost ticket stamp)
      ↔ ∃ cost, m.stampCost = some cost ∧ Draws P rng id cost := by
  unfold ensureDrawnStamp
  cases hcost : m.stampCost with
  | none =>
      dsimp only
      refine iff_of_false ?_ (fun ⟨_, hnone, _⟩ => nomatch hnone)
      rintro ⟨stamp, hsome, _⟩
      rw [hstamp] at hsome
      cases hsome
  | some cost =>
      dsimp only
      split
      case h_1 stamp value hdrawn =>
        have hsome : (generateStamp P rng id cost workblockExpandRounds).1
            = some stamp := by rw [hdrawn]
        refine iff_of_true ⟨_, rfl, .inr ?_⟩ ⟨cost, rfl, ?_⟩
        · obtain ⟨workblock, hok, hvalid⟩ := generateStamp_solves hsome
          exact ⟨cost, workblock, rfl, hok, hvalid⟩
        · rw [← generateStamp_isSome_iff, hsome]
          rfl
      case h_2 value hdrawn =>
        refine iff_of_false ?_ ?_
        · rintro ⟨stamp, hsome, _⟩
          rw [hstamp] at hsome
          cases hsome
        · rintro ⟨c, hc, hdraws⟩
          cases hc
          rw [← generateStamp_isSome_iff, hdrawn] at hdraws
          cases hdraws

/-- What `ensure_stamp` leaves is accepted exactly then. -/
theorem ensureStamp_accepts_iff (rng : OsRng)
    (hid : m.messageId = some id) :
    (∃ stamp, (m.ensureStamp P rng).2.stamp = some stamp
        ∧ Accepts P id m.stampCost m.outboundTicket stamp)
      ↔ m.Stampable P rng id := by
  unfold ensureStamp Stampable
  cases hstamp : m.stamp with
  | some stamp =>
      have hsome : (some stamp).isSome = true := rfl
      rw [if_pos hsome]
      dsimp only
      rw [hstamp]
      constructor
      · rintro ⟨found, hfound, haccepts⟩
        cases hfound
        exact haccepts
      · exact fun haccepts => ⟨stamp, rfl, haccepts⟩
  | none =>
      have hnone : ¬(none : Option Bytes).isSome = true :=
        Bool.false_ne_true
      rw [if_neg hnone, hid]
      dsimp only
      cases hticket : m.outboundTicket with
      | none =>
          rw [ensureDrawnStamp_accepts_iff hstamp]
          refine (or_iff_right ?_).symm
          rintro ⟨_, hnone, _⟩
          cases hnone
      | some ticket =>
          dsimp only
          split
          case isTrue hlength =>
            exact iff_of_true ⟨_, rfl, accepts_ticket hlength⟩
              (.inl ⟨ticket, rfl, hlength⟩)
          case isFalse hlength =>
            rw [ensureDrawnStamp_accepts_iff hstamp]
            refine (or_iff_right ?_).symm
            rintro ⟨other, hother, hlength'⟩
            cases hother
            exact hlength hlength'

/-- What `encode_signed` leaves of the stamp when it is not deferred. -/
theorem encodeSigned_stamp {m m' : LXMessage} {key : FixedBytes 32}
    {rng : OsRng} {result : Except LXMFError Bytes}
    (hdefer : m.deferStamp = false) (hid : m.recomputedId P = .ok id)
    (h : m.encodeSigned P key rng = (result, m')) :
    m'.stamp = (LXMessage.ensureStamp P
      { m with messageId := some id } rng).2.stamp := by
  obtain ⟨payload, hp, hpure⟩ := Except.bind_eq_ok.mp hid
  cases hpure
  obtain ⟨m₁, hensure, _⟩ := ensureStamp_spec (P := P)
    { m with messageId := some (computeMessageId P m.destinationHash
        m.sourceHash payload) } rng rfl
  have hnot : (!m.deferStamp) = true := by rw [hdefer]; rfl
  unfold encodeSigned ensureStampUnlessDeferred at h
  rw [hp] at h
  dsimp only at h
  rw [if_pos hnot, hensure] at h
  rw [hensure]
  cases h
  rfl

/-- The receiver's check of one encoded message. -/
theorem decoded_accepted_iff (hP : RmpvCodec P) {m m' d : LXMessage}
    {key : FixedBytes 32} {rng : OsRng} {bytes : Bytes}
    (hdefer : m.deferStamp = false) (hid : m.recomputedId P = .ok id)
    (h : m.encodeSigned P key rng = (.ok bytes, m'))
    (hd : decode P bytes = .ok d) :
    (d.validateStamp P m.stampCost m.outboundTicket).1 = .ok true
      ↔ m.Stampable P rng id := by
  obtain ⟨_, _, _, hsent, payload, hp, hdid⟩ :=
    decode_of_encodeSigned hP h hd
  have hsame : id = computeMessageId P m.destinationHash m.sourceHash
      payload := by
    unfold recomputedId at hid
    rw [hp] at hid
    cases hid
    rfl
  rw [← hsame] at hdid
  rw [validateStamp_iff hdid, hsent, encodeSigned_stamp hdefer hid h]
  exact ensureStamp_accepts_iff rng rfl

/-- What the receiver reads of an encoded message passes for the cost and
the ticket exactly when the message had a stamp that is accepted for it,
or none and a ticket to make it from or a draw that passes. -/
theorem encoded_stamp_accepted_iff (hP : RmpvCodec P) (m : LXMessage)
    (key : FixedBytes 32) (rng : OsRng) (hdefer : m.deferStamp = false) :
    (∀ bytes m', m.encodeSigned P key rng = (.ok bytes, m') →
      ∃ d, LXMessage.decode P bytes = .ok d
        ∧ (d.validateStamp P m.stampCost m.outboundTicket).1 = .ok true)
      ↔ ∃ id, m.recomputedId P = .ok id ∧ m.Stampable P rng id := by
  constructor
  · intro h
    obtain ⟨id, hid⟩ := recomputedId_ok hP m
    obtain ⟨bytes, m', henc⟩ := hP.encodeSigned_ok m key rng
    obtain ⟨d, hd, haccepted⟩ := h bytes m' henc
    exact ⟨id, hid, (decoded_accepted_iff hP hdefer hid henc hd).mp
      haccepted⟩
  · rintro ⟨id, hid, hstampable⟩ bytes m' henc
    obtain ⟨_, d, _, _, _, hd, _⟩ := encodeSigned_decodes hP henc
    exact ⟨d, hd, (decoded_accepted_iff hP hdefer hid henc hd).mpr
      hstampable⟩

end LXMessage

section StampInstance

open Reference

/-- A message whose cost no stamp meets, as a receiver may announce
it. -/
def docCostly : LXMessage :=
  { docMessage with deferStamp := false, stampCost := some 257 }

/-- A message with a ticket and a stamp of another time. -/
def docStale : LXMessage :=
  { docMessage with
    deferStamp := false
    stamp := some [0x2a]
    outboundTicket := some (List.replicate ticketLength 0x07) }

/-- A message with a ticket and no stamp. -/
def docTicketed : LXMessage := { docStale with stamp := none }

theorem not_draws_beyond {rng : OsRng} {id : Hash32} {cost : Nat}
    (h : 256 < cost) : ¬Draws P rng id cost := by
  rintro ⟨workblock, _, k, _, hvalid⟩
  unfold stampValid at hvalid
  rw [if_neg (by omega), if_pos h] at hvalid
  cases hvalid

/-- Where the message is not stampable it is encoded all the same. -/
theorem encoded_unstamped {m : LXMessage} (hdefer : m.deferStamp = false)
    (rng : OsRng) (hnot : ∀ id, ¬m.Stampable platform rng id) :
    ∃ bytes m' d, m.encodeSigned platform docKey rng = (.ok bytes, m')
      ∧ LXMessage.decode platform bytes = .ok d
      ∧ (d.validateStamp platform m.stampCost m.outboundTicket).1
        ≠ .ok true := by
  obtain ⟨id, hid⟩ := recomputedId_ok platform_rmpvCodec m
  obtain ⟨bytes, m', henc⟩ := platform_rmpvCodec.encodeSigned_ok m docKey rng
  obtain ⟨_, d, _, _, _, hd, _⟩ :=
    encodeSigned_decodes platform_rmpvCodec henc
  refine ⟨bytes, m', d, henc, hd, fun haccepted => ?_⟩
  exact hnot id ((decoded_accepted_iff platform_rmpvCodec hdefer hid henc
    hd).mp haccepted)

/-- Both are encoded without an error, and neither is accepted. -/
theorem encoded_without_stamp :
    (∃ bytes m' d,
        docCostly.encodeSigned platform docKey (fun _ => 0) = (.ok bytes, m')
          ∧ LXMessage.decode platform bytes = .ok d
          ∧ (d.validateStamp platform (some 257) none).1 ≠ .ok true)
      ∧ ∃ bytes m' d,
        docStale.encodeSigned platform docKey (fun _ => 0) = (.ok bytes, m')
          ∧ LXMessage.decode platform bytes = .ok d
          ∧ (d.validateStamp platform none docStale.outboundTicket).1
            ≠ .ok true := by
  refine ⟨encoded_unstamped rfl _ fun id hstampable => ?_,
    encoded_unstamped rfl _ fun id hstampable => ?_⟩
  · rcases hstampable with ⟨ticket, hticket, _⟩ | ⟨cost, hcost, hdraws⟩
    · cases hticket
    · cases hcost
      exact not_draws_beyond (by decide) hdraws
  · rcases hstampable with hmatches | ⟨cost, _, hcost, _⟩
    · cases hmatches
    · cases hcost

/-- With the ticket and without the stale stamp the message is
accepted. -/
theorem encoded_stamp_accepted_iff_doc :
    ∃ bytes m' d,
      docTicketed.encodeSigned platform docKey (fun _ => 0) = (.ok bytes, m')
        ∧ LXMessage.decode platform bytes = .ok d
        ∧ (d.validateStamp platform none docTicketed.outboundTicket).1
          = .ok true := by
  obtain ⟨id, hid⟩ := recomputedId_ok platform_rmpvCodec docTicketed
  obtain ⟨bytes, m', henc⟩ := platform_rmpvCodec.encodeSigned_ok docTicketed
    docKey fun _ => 0
  have hstampable : docTicketed.Stampable platform (fun _ => 0) id :=
    .inl ⟨_, rfl, rfl⟩
  obtain ⟨d, hd, haccepted⟩ := (encoded_stamp_accepted_iff
    platform_rmpvCodec docTicketed docKey (fun _ => 0) rfl).mpr
    ⟨id, hid, hstampable⟩ bytes m' henc
  exact ⟨bytes, m', d, henc, hd, haccepted⟩

end StampInstance

end Lxmf
