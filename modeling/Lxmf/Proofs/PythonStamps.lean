/-
Both implementations judge stamps alike.

The workblocks are the same bytes, for the counters in them are written
alike (`stampWorkblock_eq`). The one compares a hash with a target byte by
byte and counts its zero bits from the front, the other compares and
shifts it as a number (`stampValid_eq`, `stampValue_eq`). A hash that is
zero is the one where they part: it has no bit for the loop to end at.
-/
import Lxmf.Proofs.PythonMessages
import Lxmf.Proofs.StampArithmetic
import Lxmf.Proofs.StampPromise

namespace Lxmf.Python

variable {P : Platform} {u : Umsgpack}

-- =========================================================== workblocks

theorem toOption_bind {ε α β : Type} (x : Except ε α)
    (f : α → Except ε β) :
    (x >>= f).toOption = x.toOption.bind fun a => (f a).toOption := by
  cases x <;> rfl

/-- A counter is written alike. -/
theorem packb_counter (hu : u.Agrees P) (n : Nat) :
    u.packb (.integer (.ofU64 n)) = (packU64Msgpack P n).toOption := by
  rw [hu.packb _ rfl]
  unfold packU64Msgpack writeMsgpack
  cases P.writeValue (.integer (.ofU64 n)) <;> rfl

theorem stampWorkblock_eq (hu : u.Agrees P) (material : Bytes)
    (expandRounds : Nat) :
    stampWorkblock P u material expandRounds
      = (Lxmf.stampWorkblock P material expandRounds).toOption := by
  unfold stampWorkblock Lxmf.stampWorkblock
  generalize List.range expandRounds = counters
  generalize ([] : Bytes) = start
  induction counters generalizing start with
  | nil => rfl
  | cons n counters ih =>
      rw [List.foldlM_cons, List.foldlM_cons, toOption_bind, toOption_bind,
        packb_counter hu]
      cases (packU64Msgpack P n).toOption with
      | none => rfl
      | some counter =>
          simp only [Option.bind_eq_bind, Option.bind_some]
          cases P.hkdf (fullHash P (material ++ counter)).toList
            material with
          | none => rfl
          | some out => exact ih (start ++ out.toList)

-- ============================================================== numbers

theorem intFromBytes_eq (b : Bytes) : intFromBytes b = bigEndian b := by
  suffices ∀ n, b.foldl (fun n x => n * 256 + x.toNat) n
      = n * 256 ^ b.length + bigEndian b by
    have h := this 0
    rw [Nat.zero_mul, Nat.zero_add] at h
    exact h
  induction b with
  | nil =>
      intro n
      show n = n * 256 ^ 0 + 0
      omega
  | cons x b ih =>
      intro n
      rw [List.foldl_cons, ih, List.length_cons, pow_succ]
      show (n * 256 + x.toNat) * 256 ^ b.length + bigEndian b
        = n * (256 ^ b.length * 256)
          + (x.toNat * 256 ^ b.length + bigEndian b)
      ring

theorem bigEndian_hash_lt (data : Bytes) :
    bigEndian (fullHash P data).toList < 2 ^ 256 := by
  have h := bigEndian_lt (fullHash P data).toList
  rw [List.Vector.toList_length] at h
  exact h

/-- Where shifting has a target, the comparisons agree. -/
theorem stampValid_eq {targetCost : Nat} (h : targetCost ≤ 256)
    (workblock stamp : Bytes) :
    stampValid P stamp targetCost workblock
      = some (Lxmf.stampValid P workblock stamp targetCost) := by
  have hlt := bigEndian_hash_lt (P := P) (workblock ++ stamp)
  unfold stampValid
  rw [if_neg (Nat.not_lt.mpr h)]
  simp only [Nat.one_shiftLeft, intFromBytes_eq]
  congr 1
  rw [Bool.eq_iff_iff]
  rcases Nat.eq_zero_or_pos targetCost with rfl | hpos
  · refine iff_of_true ?_ rfl
    simp only [Bool.not_eq_true', decide_eq_false_iff_not]
    omega
  · rw [stampValid_iff hpos h]
    unfold stampNumber
    simp only [Bool.not_eq_true', decide_eq_false_iff_not, Nat.not_lt]

theorem stampValueLoop_zero (left value : Nat) :
    stampValueLoop left 0 value = none := by
  induction left generalizing value with
  | zero => rfl
  | succ left ih =>
      unfold stampValueLoop
      rw [if_neg (by simp)]
      exact ih _

/-- The loop shifts the first bit that is set to the front. -/
theorem stampValueLoop_eq {left i : Nat} (value : Nat) (hpos : 0 < i)
    (hlt : i < 2 ^ 256) (hleft : 256 < left + i.size) :
    stampValueLoop left i value = some (value + (256 - i.size)) := by
  have hsize : i.size ≤ 256 := Nat.size_le.mpr hlt
  induction left generalizing i value with
  | zero => omega
  | succ left ih =>
      unfold stampValueLoop
      by_cases hbit : 2 ^ 255 ≤ i
      · have hfull : 255 < i.size := Nat.lt_size.mpr hbit
        rw [if_pos (Nat.testBit_of_two_pow_le_and_two_pow_add_one_gt hbit
          hlt)]
        congr 1
        omega
      · have hsmall : i.size ≤ 255 := Nat.size_le.mpr (Nat.not_le.mp hbit)
        have hdouble : (2 * i).size = i.size + 1 := by
          have hshift : 2 * i = i <<< 1 := by
            rw [Nat.shiftLeft_eq]
            omega
          rw [hshift, Nat.size_shiftLeft (Nat.pos_iff_ne_zero.mp hpos)]
        rw [if_neg (by
          rw [Nat.testBit_lt_two_pow (Nat.not_le.mp hbit)]
          exact Bool.false_ne_true)]
        rw [ih _ (by omega) (by omega) (by omega) (by omega), hdouble]
        congr 1
        omega

/-- The values agree, but for a hash of no bit that is set. -/
theorem stampValue_eq (workblock stamp : Bytes) :
    stampValue P workblock stamp
      = if Lxmf.stampValue P workblock stamp = 256 then none
        else some (Lxmf.stampValue P workblock stamp) := by
  have hlt := bigEndian_hash_lt (P := P) (workblock ++ stamp)
  have hvalue : Lxmf.stampValue P workblock stamp
      = 256 - (bigEndian (fullHash P (workblock ++ stamp)).toList).size := by
    unfold Lxmf.stampValue
    rw [countZeroBits_eq_size, List.Vector.toList_length]
    rfl
  unfold stampValue
  rw [hvalue, intFromBytes_eq]
  generalize bigEndian (fullHash P (workblock ++ stamp)).toList = n at *
  rcases Nat.eq_zero_or_pos n with rfl | hpos
  · rw [stampValueLoop_zero, Nat.size_zero, if_pos rfl]
  · have hsize : 0 < n.size := Nat.size_pos.mpr hpos
    rw [stampValueLoop_eq 0 hpos hlt (by omega), if_neg (by omega),
      Nat.zero_add]

-- =========================================================== validation

/-- HKDF gives 256 bytes, whatever the salt and the key material. -/
def DerivesBlocks (P : Platform) : Prop :=
  ∀ salt ikm, (P.hkdf salt ikm).isSome

theorem stampWorkblock_ok (hP : RmpvCodec P) (hD : DerivesBlocks P)
    (material : Bytes) (expandRounds : Nat) :
    ∃ workblock, Lxmf.stampWorkblock P material expandRounds
      = .ok workblock := by
  unfold Lxmf.stampWorkblock
  generalize List.range expandRounds = counters
  generalize ([] : Bytes) = start
  induction counters generalizing start with
  | nil => exact ⟨start, rfl⟩
  | cons n counters ih =>
      obtain ⟨counter, hcounter⟩ := hP.write_ok (.integer (.ofU64 n))
      have hpack : packU64Msgpack P n = .ok counter := by
        unfold packU64Msgpack writeMsgpack
        rw [hcounter]
        rfl
      obtain ⟨out, hout⟩ := Option.isSome_iff_exists.mp
        (hD (fullHash P (material ++ counter)).toList material)
      rw [List.foldlM_cons, hpack]
      simp only [Except.ok_bind, hout, Except.pure_eq_ok]
      exact ih _

/-- What the one implementation accepts as the key of a peer or the stamp
of a propagated message the other does, and finds the same id, data and
value in it. At a hash that is zero, whose value is 256, the one never
ends. -/
theorem stamps_judged_alike (hu : u.Agrees P) (hP : RmpvCodec P)
    (hD : DerivesBlocks P) {targetCost : Nat} (h : targetCost ≤ 256) :
    (∀ peeringId peeringKey,
        validatePeeringKey P u peeringId peeringKey targetCost
          = some (Lxmf.validatePeeringKey P peeringId peeringKey targetCost))
      ∧ ∀ transientData,
        validatePnStamp P u transientData targetCost
          = if (Lxmf.validatePnStamp P transientData targetCost).any
              (fun found => found.2.2.1 = 256) then none
            else some (Lxmf.validatePnStamp P transientData
              targetCost) := by
  constructor
  · intro peeringId peeringKey
    obtain ⟨workblock, hworkblock⟩ := stampWorkblock_ok hP hD peeringId
      workblockExpandRoundsPeering
    unfold validatePeeringKey Lxmf.validatePeeringKey
    rw [stampWorkblock_eq hu, hworkblock]
    exact stampValid_eq h workblock peeringKey
  · intro transientData
    by_cases hlong : transientData.length ≤ lxmfOverhead + stampSize
    · have hrust : Lxmf.validatePnStamp P transientData targetCost
          = none := by
        unfold Lxmf.validatePnStamp
        exact if_pos hlong
      rw [hrust]
      exact if_pos hlong
    · obtain ⟨lxmData, hdata⟩ : ∃ data, transientData.take
          (transientData.length - stampSize) = data := ⟨_, rfl⟩
      obtain ⟨stamp, hstamp⟩ : ∃ stamp, transientData.drop
          (transientData.length - stampSize) = stamp := ⟨_, rfl⟩
      obtain ⟨workblock, hworkblock⟩ := stampWorkblock_ok hP hD
        (fullHash P lxmData).toList workblockExpandRoundsPn
      have hrust : Lxmf.validatePnStamp P transientData targetCost
          = if Lxmf.stampValid P workblock stamp targetCost then
              some (fullHash P lxmData, lxmData,
                Lxmf.stampValue P workblock stamp, stamp)
            else none := by
        unfold Lxmf.validatePnStamp
        rw [if_neg hlong]
        simp only [hdata, hstamp, hworkblock]
      rw [hrust]
      unfold validatePnStamp
      rw [if_neg hlong]
      simp only [hdata, hstamp, stampWorkblock_eq hu, hworkblock,
        Except.toOption, Option.bind_eq_bind, Option.bind_some,
        stampValid_eq h, stampValue_eq]
      cases Lxmf.stampValid P workblock stamp targetCost with
      | false => simp
      | true =>
          by_cases hvalue : Lxmf.stampValue P workblock stamp = 256
          · simp [hvalue]
          · simp [hvalue]

section StampsInstance

open Reference

theorem platform_derivesBlocks : DerivesBlocks platform :=
  fun _ _ => rfl

/-- A propagated message of zeros. -/
def docPropagated : Bytes := List.replicate 200 0

theorem stamps_judged_alike_doc :
    validatePeeringKey platform docUmsgpack docPublic.toList
        docSignature.toList 8
      = some (Lxmf.validatePeeringKey platform docPublic.toList
        docSignature.toList 8)
      ∧ validatePnStamp platform docUmsgpack docPropagated 8
        = if (Lxmf.validatePnStamp platform docPropagated 8).any
            (fun found => found.2.2.1 = 256) then none
          else some (Lxmf.validatePnStamp platform docPropagated 8) := by
  obtain ⟨hkey, hstamp⟩ := stamps_judged_alike docUmsgpack_agrees
    platform_rmpvCodec platform_derivesBlocks
    (show 8 ≤ 256 from by decide)
  exact ⟨hkey docPublic.toList docSignature.toList, hstamp docPropagated⟩

end StampsInstance

-- ===================================================== stamps of messages

section Verdicts

variable {d : Lxmf.LXMessage} {id : Hash32} {cost : Nat}

/-- One of several tickets is accepted, or the stamp is. -/
theorem tryTickets_iff (hid : d.recomputedId P = .ok id) (cost : Nat)
    (tickets : List Bytes) :
    (tryTickets P cost tickets d).1 = true
      ↔ ∃ ticket ∈ tickets, ∃ stamp, d.stamp = some stamp
        ∧ Lxmf.LXMessage.Accepts P id (some cost) (some ticket) stamp := by
  induction tickets generalizing d with
  | nil => simp [tryTickets]
  | cons ticket tickets ih =>
      have hfirst : (d.validateStamp P (some cost) (some ticket)).1
          = .ok true ↔ ∃ stamp, d.stamp = some stamp
            ∧ Lxmf.LXMessage.Accepts P id (some cost) (some ticket) stamp :=
        Lxmf.LXMessage.validateStamp_iff hid
      have hout := validateStamp_outcome (P := P) d (some cost)
        (some ticket)
      unfold tryTickets
      simp only [List.mem_cons, exists_eq_or_imp, ← hfirst]
      rcases hstep : d.validateStamp P (some cost) (some ticket)
        with ⟨result, d'⟩
      rw [hstep] at hout
      have hrest := ih (d := d') (hout.recomputed.trans hid)
      rw [hout.stamp] at hrest
      cases result with
      | error e => simpa using hrest
      | ok valid =>
          cases valid with
          | true => simp
          | false => simpa using hrest

/-- The check of a message asks for a ticket that fits, or for work. -/
theorem validateStampWithTickets_iff (hid : d.recomputedId P = .ok id)
    (cost : Nat) (tickets : List Bytes) :
    (validateStampWithTickets P d cost (some tickets)).1 = true
      ↔ ∃ stamp, d.stamp = some stamp
        ∧ ((∃ ticket ∈ tickets, Lxmf.LXMessage.ticketMatches P
            (some ticket) stamp id = true)
          ∨ ∃ workblock, Lxmf.stampWorkblock P id.toList
              workblockExpandRounds = .ok workblock
            ∧ Lxmf.stampValid P workblock stamp cost = true) := by
  have htickets := tryTickets_iff hid cost tickets
  have hout := tryTickets_outcome (P := P) cost tickets d
  unfold validateStampWithTickets
  rw [Option.getD_some]
  rcases htry : tryTickets P cost tickets d with ⟨found, d'⟩
  rw [htry] at htickets hout
  cases found with
  | true =>
      refine iff_of_true rfl ?_
      obtain ⟨ticket, hmem, stamp, hstamp, haccepts⟩ := htickets.mp rfl
      refine ⟨stamp, hstamp, ?_⟩
      rcases haccepts with hmatches | ⟨c, workblock, hc, hwork, hvalid⟩
      · exact .inl ⟨ticket, hmem, hmatches⟩
      · cases hc
        exact .inr ⟨workblock, hwork, hvalid⟩
  | false =>
      have hlast : (d'.validateStamp P (some cost) none).1 = .ok true
          ↔ ∃ stamp, d'.stamp = some stamp
            ∧ Lxmf.LXMessage.Accepts P id (some cost) none stamp :=
        Lxmf.LXMessage.validateStamp_iff (hout.recomputed.trans hid)
      rw [hout.stamp] at hlast
      have hiff : ((d'.validateStamp P (some cost) none).1 = .ok true)
          ↔ ∃ stamp, d.stamp = some stamp
            ∧ ((∃ ticket ∈ tickets, Lxmf.LXMessage.ticketMatches P
                (some ticket) stamp id = true)
              ∨ ∃ workblock, Lxmf.stampWorkblock P id.toList
                  workblockExpandRounds = .ok workblock
                ∧ Lxmf.stampValid P workblock stamp cost = true) := by
        rw [hlast]
        constructor
        · rintro ⟨stamp, hstamp, hnone | ⟨c, workblock, hc, hwork, hvalid⟩⟩
          · cases hnone
          · cases hc
            exact ⟨stamp, hstamp, .inr ⟨workblock, hwork, hvalid⟩⟩
        · rintro ⟨stamp, hstamp, ⟨ticket, hmem, hmatches⟩
            | ⟨workblock, hwork, hvalid⟩⟩
          · exact absurd (htickets.mpr
              ⟨ticket, hmem, stamp, hstamp, .inl hmatches⟩) (by simp)
          · exact ⟨stamp, hstamp, .inr ⟨cost, workblock, rfl, hwork,
              hvalid⟩⟩
      rw [← hiff]
      dsimp only
      rcases d'.validateStamp P (some cost) none with ⟨result, d''⟩
      cases result with
      | error e => simp
      | ok valid => simp

/-- Tickets of the right length are matched alike. -/
theorem ticketMatches_eq (P : Platform) {q : LXMessage}
    (hq : q.stamp = object d.stamp) (hid : q.messageId = some id)
    {tickets : List Bytes}
    (hlength : ∀ t ∈ tickets, t.length = ticketLength) :
    q.ticketMatches P tickets = true
      ↔ ∃ stamp, d.stamp = some stamp ∧ ∃ ticket ∈ tickets,
        Lxmf.LXMessage.ticketMatches P (some ticket) stamp id = true := by
  unfold LXMessage.ticketMatches Lxmf.LXMessage.ticketMatches
  rw [hq, hid, List.any_eq_true]
  constructor
  · rintro ⟨ticket, hmem, h⟩
    have heq := of_decide_eq_true h
    cases hstamp : d.stamp with
    | none =>
        rw [hstamp] at heq
        cases heq
    | some stamp =>
        rw [hstamp] at heq
        injection heq with heq
        refine ⟨stamp, rfl, ticket, hmem, ?_⟩
        rw [heq]
        simp [hlength ticket hmem, Lxmf.LXMessage.ticketStamp]
  · rintro ⟨stamp, hstamp, ticket, hmem, h⟩
    simp only [Bool.and_eq_true, decide_eq_true_eq] at h
    refine ⟨ticket, hmem, ?_⟩
    rw [hstamp, ← h.2]
    exact decide_eq_true rfl

/-- The two verdicts on the stamp of a message that both have read, where
the id it was read under is the one that this one computes again. -/
theorem received_stamp_judged (hu : u.Agrees P) (hP : RmpvCodec P)
    (hD : DerivesBlocks P) (h : cost ≤ 256) {q : LXMessage}
    (hreceived : Received q d) (hid : d.recomputedId P = .ok id)
    (hsame : d.messageId = some id) {tickets : List Bytes}
    (hlength : ∀ t ∈ tickets, t.length = ticketLength) :
    (∀ verdict q', q.validateStamp P u cost tickets = some (verdict, q') →
        verdict
          = (validateStampWithTickets P d cost (some tickets)).1)
      ∧ (q.validateStamp P u cost tickets = none →
        ∃ stamp workblock, d.stamp = some stamp
          ∧ Lxmf.stampWorkblock P id.toList workblockExpandRounds
            = .ok workblock
          ∧ Lxmf.stampValue P workblock stamp = 256) := by
  have hqid : q.messageId = some id := hreceived.messageId.trans hsame
  have hrust := validateStampWithTickets_iff hid cost tickets
  have hmatch := ticketMatches_eq P hreceived.stamp hqid hlength
  obtain ⟨workblock, hwork⟩ := stampWorkblock_ok hP hD id.toList
    workblockExpandRounds
  unfold LXMessage.validateStamp
  by_cases hticket : q.ticketMatches P tickets = true
  · rw [if_pos hticket]
    constructor
    · intro verdict q' hsome
      obtain ⟨stamp, hstamp, hex⟩ := hmatch.mp hticket
      rw [hrust.mpr ⟨stamp, hstamp, .inl hex⟩]
      exact (Prod.mk.inj (Option.some.inj hsome)).1.symm
    · intro hnone
      cases hnone
  · rw [if_neg hticket, hreceived.stamp]
    -- without a ticket it is the work that decides
    have hnone : ¬ ∃ stamp, d.stamp = some stamp ∧ ∃ ticket ∈ tickets,
        Lxmf.LXMessage.ticketMatches P (some ticket) stamp id = true :=
      fun h => hticket (hmatch.mpr h)
    have hwork_iff : (validateStampWithTickets P d cost (some tickets)).1
        = true ↔ ∃ stamp, d.stamp = some stamp
          ∧ Lxmf.stampValid P workblock stamp cost = true := by
      rw [hrust]
      constructor
      · rintro ⟨stamp, hstamp, hex | ⟨found, hfound, hvalid⟩⟩
        · exact absurd ⟨stamp, hstamp, hex⟩ hnone
        · rw [hwork] at hfound
          cases hfound
          exact ⟨stamp, hstamp, hvalid⟩
      · rintro ⟨stamp, hstamp, hvalid⟩
        exact ⟨stamp, hstamp, .inr ⟨workblock, hwork, hvalid⟩⟩
    cases hstamp : d.stamp with
    | none =>
        rw [hstamp] at hwork_iff
        constructor
        · intro verdict q' hsome
          rw [← (Prod.mk.inj (Option.some.inj hsome)).1, eq_comm,
            ← Bool.not_eq_true, hwork_iff]
          simp
        · intro hraises
          cases hraises
    | some stamp =>
        rw [hstamp] at hwork_iff
        simp only [Option.some.injEq, exists_eq_left'] at hwork_iff
        have hverdict := Bool.eq_iff_iff.mpr hwork_iff
        rw [hverdict]
        simp only [object, hqid, stampWorkblock_eq hu, hwork,
          Except.toOption, Option.bind_eq_bind, Option.bind_some,
          stampValid_eq h, stampValue_eq]
        cases Lxmf.stampValid P workblock stamp cost with
        | false => simp
        | true =>
            by_cases hvalue : Lxmf.stampValue P workblock stamp = 256
            · simp [hvalue]
            · simp [hvalue]

/-- The id of a frame is computed again as it was read. -/
theorem recomputedId_framed (d s : Hash16)
    (g : FixedBytes signatureLength) {timestamp : F64}
    {title content payload : Bytes} {fields : Value}
    (stamp : Option Bytes) (id : Hash32)
    (hpayload : P.writeValue (.array (elements timestamp title content
      fields none)) = .ok payload) :
    (framed d s g timestamp title content fields stamp id).recomputedId P
      = .ok (computeMessageId P d s payload) := by
  have hpacked := packPayload_framed d s g stamp id hpayload
  unfold Lxmf.LXMessage.recomputedId
  simp only [hpacked, Except.ok_bind]
  rfl

/-- Whatever either implementation packs of a message, either accepts its
stamp when the other does, at any cost of at most 256 and with the same
tickets: each checks it against the id that it read the message under. At
a hash that is zero the one never ends. -/
theorem message_stamps_judged_alike (hu : u.Agrees P) (hP : RmpvCodec P)
    (hD : DerivesBlocks P) {m : Lxmf.LXMessage}
    {es : List (Value × Value)} (hm : m.fields = .map es)
    (hfields : plain (.map es) = true) (key : FixedBytes 32) (rng : OsRng)
    (gen : Hash32 → Nat → Option Bytes × Nat) (now : F64)
    (identityRecall : Bytes → Option RecalledIdentity)
    (hdest : Recalls identityRecall m.destinationHash.toList)
    (hsource : Recalls identityRecall m.sourceHash.toList) {b : Bytes}
    (h : (m.encodeSigned P key rng).1 = .ok b
      ∨ ∃ p, PacksAs P u m key gen now b p) :
    ∃ d q id, Lxmf.LXMessage.decode P b = .ok d
      ∧ LXMessage.unpackFromBytes P u identityRecall b = some q
      ∧ d.messageId = some id ∧ q.messageId = some id
      ∧ ∀ (cost : Nat) (tickets : List Bytes), cost ≤ 256 →
        (∀ t ∈ tickets, t.length = ticketLength) →
        (∀ verdict q',
          q.validateStamp P u cost tickets = some (verdict, q') →
          verdict = (validateStampWithTickets P d cost (some tickets)).1)
        ∧ (q.validateStamp P u cost tickets = none →
          ∃ stamp workblock, d.stamp = some stamp
            ∧ Lxmf.stampWorkblock P id.toList workblockExpandRounds
              = .ok workblock
            ∧ Lxmf.stampValue P workblock stamp = 256) := by
  obtain ⟨payload, body, stamp, id, g, hpayload, hbody, hid, -, rfl, -⟩ :=
    sent_frame hu hP (hm ▸ hfields) h
  have hdecode := decode_packed hP m.destinationHash m.sourceHash g hpayload
    hbody
  have hrecomputed := recomputedId_framed m.destinationHash m.sourceHash g
    stamp id hpayload
  rw [hm] at hpayload hbody
  obtain ⟨q, hunpack, hreceived, -⟩ := unpack_packed hu m.destinationHash
    m.sourceHash g hfields hpayload hbody hdest hsource
  rw [← hid] at hdecode hrecomputed hreceived
  rw [← hm] at hreceived
  exact ⟨_, q, id, hdecode, hunpack, rfl, hreceived.messageId,
    fun cost tickets hcost hlength =>
      received_stamp_judged hu hP hD hcost hreceived hrecomputed rfl
        hlength⟩

section VerdictsInstance

open Reference

/-- The example, to be stamped with a ticket of zeros. -/
def docTicketed : Lxmf.LXMessage :=
  { docMessage with
    deferStamp := false
    outboundTicket := some (List.replicate 16 0) }

/-- The other implementation reads it as it is sent, and accepts its
stamp. -/
theorem docTicketed_accepted :
    ((docTicketed.encodeSigned platform docKey fun _ => 0).1.toOption.bind
      fun b => (LXMessage.unpackFromBytes platform docUmsgpack docRecall
        b).bind fun q =>
          (q.validateStamp platform docUmsgpack 8
            [List.replicate 16 0]).map (·.1)) = some true := by
  decide +kernel

/-- So does this one. -/
theorem message_stamps_judged_alike_doc :
    ∃ b d q q', (docTicketed.encodeSigned platform docKey fun _ => 0).1
        = .ok b
      ∧ Lxmf.LXMessage.decode platform b = .ok d
      ∧ LXMessage.unpackFromBytes platform docUmsgpack docRecall b = some q
      ∧ q.messageId = d.messageId
      ∧ q.validateStamp platform docUmsgpack 8 [List.replicate 16 0]
        = some (true, q')
      ∧ (validateStampWithTickets platform d 8
          (some [List.replicate 16 0])).1 = true := by
  obtain ⟨payload, body, m', id, -, -, -, hencode, -⟩ :=
    encodeSigned_frame platform_rmpvCodec docTicketed docKey fun _ => 0
  have hsent := congrArg Prod.fst hencode
  obtain ⟨d, q, id, hdecode, hunpack, hd, hq, hjudged⟩ :=
    message_stamps_judged_alike docUmsgpack_agrees platform_rmpvCodec
      platform_derivesBlocks (m := docTicketed) rfl (by decide) docKey
      (fun _ => 0) (fun _ _ => (none, 0)) (.fin 0) docRecall
      (docRecall_recalls _) (docRecall_recalls _) (.inl hsent)
  have haccepted := docTicketed_accepted
  rw [hsent] at haccepted
  simp only [Except.toOption, Option.bind_some, hunpack,
    Option.map_eq_some_iff] at haccepted
  obtain ⟨⟨verdict, q'⟩, hverdict, rfl⟩ := haccepted
  exact ⟨_, d, q, q', hsent, hdecode, hunpack, hq.trans hd.symm, hverdict,
    ((hjudged 8 [List.replicate 16 0] (by decide) (by simp)).1 _ _
      hverdict).symm⟩

end VerdictsInstance

end Verdicts

end Lxmf.Python
