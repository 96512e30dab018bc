/-
What a peer is sent of the messages it asks for
(lxmf-rs/src/rns/router.rs: `handle_peer_sync_message_get`;
lxmf-rs/src/rns/storage.rs: `propagation_entry_to_bytes`,
`propagation_entry_from_bytes`).

The loop is one pass of `Packing` over the wants, an id that is not
stored being an absent candidate. So each occurrence of an id in the
wants is answered on its own, with the entry or with nothing, and with
nothing only where the entry would exceed the limit. The count of bytes
is a `usize` that saturates. The items are in memory at the same time,
so that together they hold no more bytes than a `usize` counts.
-/
import Lxmf.Library.Packing
import Lxmf.Proofs.PeerSyncWire
import Lxmf.Proofs.PeerTable

namespace Lxmf

variable {P : Platform}

-- ============================================================ the codec

/-- An entry that was written is read, with what it says. -/
theorem RmpvCodec.fromBytes_of_toBytes (hP : RmpvCodec P)
    {entry : PropagationEntry} {bytes : Bytes}
    (h : entry.toBytes P = .ok bytes) :
    ∃ sent, PropagationEntry.fromBytes P bytes = .ok sent
      ∧ sent.transientId = entry.transientId
      ∧ sent.lxmData = entry.lxmData ∧ sent.timestamp = entry.timestamp := by
  have hread : P.readValue bytes = .ok entry.toValue :=
    hP.read_write _ _ (Except.mapError_eq_ok.mp h)
  unfold PropagationEntry.toValue at hread
  unfold PropagationEntry.fromBytes
  rw [readFields_of_read hread, if_neg (by simp), Except.ok_bind]
  simp only [List.getD_cons_zero, List.getD_cons_succ,
    valueToFixedBytes_binary]
  exact ⟨_, rfl, rfl, rfl, rfl⟩

-- ========================================================= the selection

/-- The bytes of the entry of an id, if it is stored. -/
def encodingOf (P : Platform) (store : PropagationStore) (id : Hash32) :
    Option Bytes :=
  (store.get id).bind fun entry => (entry.toBytes P).toOption

/-- The entry of each want that is sent, or nothing. -/
def answers (P : Platform) (store : PropagationStore)
    (limitBytes : Option Nat) (wants : List Hash32) :
    List (Option Bytes) :=
  Packing.pack u64Max limitBytes List.length
    (wants.map (encodingOf P store)) 0

theorem encodingOf_eq_some {store : PropagationStore} {id : Hash32}
    {bytes : Bytes} :
    encodingOf P store id = some bytes
      ↔ ∃ entry, store.get id = some entry
        ∧ entry.toBytes P = .ok bytes := by
  unfold encodingOf
  rw [Option.bind_eq_some_iff]
  refine exists_congr fun entry => and_congr_right fun _ => ?_
  cases entry.toBytes P with
  | ok found => simp [Except.toOption]
  | error e => simp [Except.toOption]

/-- The loop, from what it has so far. -/
theorem selectItems_eq_pack (store : PropagationStore)
    (limitBytes : Option Nat) (wants : List Hash32) (items : List Bytes)
    {used : Nat} (hused : used ≤ u64Max) :
    LxmfRouter.selectItems P store limitBytes wants (items, used)
      = (items ++ (Packing.pack u64Max limitBytes List.length
            (wants.map (encodingOf P store)) used).reduceOption,
          min (used + Packing.total List.length
            (Packing.pack u64Max limitBytes List.length
              (wants.map (encodingOf P store)) used)) u64Max) := by
  induction wants generalizing items used with
  | nil =>
      have hmin : used = min used u64Max := (Nat.min_eq_left hused).symm
      exact Prod.ext (List.append_nil items).symm hmin
  | cons id wants ih =>
      rw [LxmfRouter.selectItems, List.map_cons]
      cases hencoding : encodingOf P store id with
      | none =>
          have hskip : ∀ bytes,
              (store.get id).map (·.toBytes P) ≠ some (.ok bytes) := by
            intro bytes h
            obtain ⟨entry, hget, hto⟩ := Option.map_eq_some_iff.mp h
            have hsome := encodingOf_eq_some.mpr ⟨entry, hget, hto⟩
            rw [hencoding] at hsome
            cases hsome
          split
          case h_1 bytes hbytes => exact absurd hbytes (hskip bytes)
          case h_2 =>
            rw [ih items hused, Packing.pack, Packing.total_none,
              List.reduceOption_cons_of_none]
      | some bytes =>
          obtain ⟨entry, hget, hto⟩ := encodingOf_eq_some.mp hencoding
          have hfound : (store.get id).map (·.toBytes P)
              = some (.ok bytes) := by
            rw [hget, ← hto]
            rfl
          rw [hfound, Packing.pack]
          show LxmfRouter.selectItems P store limitBytes wants
            (if Packing.exceeds u64Max limitBytes used bytes.length
              then _ else _) = _
          split
          case isTrue hexceeds =>
            rw [ih items hused, Packing.total_none,
              List.reduceOption_cons_of_none]
          case isFalse hfits =>
            show LxmfRouter.selectItems P store limitBytes wants
              (items ++ [bytes], min (used + bytes.length) u64Max) = _
            rw [ih _ (Nat.min_le_right ..), Packing.total_some,
              List.reduceOption_cons_of_some, List.append_assoc]
            refine Prod.ext rfl ?_
            show min (min (used + bytes.length) u64Max + _) u64Max = _
            omega

/-- What is sent, the wants one by one. -/
structure MessageTransfer (P : Platform) (store : PropagationStore)
    (limitBytes : Option Nat) (wants : List Hash32)
    (answers : List (Option Bytes)) : Prop where
  length : answers.length = wants.length
  sent : ∀ (i : Nat) id bytes, wants[i]? = some id →
    answers[i]? = some (some bytes) →
    ∃ entry read, store.get id = some entry
      ∧ entry.toBytes P = .ok bytes
      ∧ PropagationEntry.fromBytes P bytes = .ok read
      ∧ read.transientId = entry.transientId
      ∧ read.lxmData = entry.lxmData ∧ read.timestamp = entry.timestamp
  left : ∀ (i : Nat) id entry, wants[i]? = some id →
    answers[i]? = some none → store.get id = some entry →
    ∃ bytes limit, entry.toBytes P = .ok bytes ∧ limit ∈ limitBytes
      ∧ limit < Packing.total List.length (answers.take i) + bytes.length
  within : ∀ limit ∈ limitBytes,
    limit < u64Max ∨ Packing.total List.length answers ≤ u64Max →
    Packing.total List.length answers ≤ limit

theorem messageTransfer_answers (hP : RmpvCodec P) (store : PropagationStore)
    (limitBytes : Option Nat) (wants : List Hash32) :
    MessageTransfer P store limitBytes wants
      (answers P store limitBytes wants) := by
  have hcandidate {i : Nat} {id : Hash32} (hid : wants[i]? = some id) :
      (wants.map (encodingOf P store))[i]?
        = some (encodingOf P store id) := by
    rw [List.getElem?_map, hid]
    rfl
  refine ⟨?_, ?_, ?_, ?_⟩
  · exact Packing.length_pack.trans (List.length_map ..)
  · intro i id bytes hid hanswer
    have hplace := Packing.pack_some hanswer
    rw [hcandidate hid] at hplace
    obtain ⟨entry, hget, hto⟩ :=
      encodingOf_eq_some.mp (Option.some.inj hplace)
    obtain ⟨read, hread⟩ := hP.fromBytes_of_toBytes hto
    exact ⟨entry, read, hget, hto, hread⟩
  · intro i id entry hid hanswer hget
    obtain ⟨bytes, hwrite⟩ := hP.write_ok entry.toValue
    have hto : entry.toBytes P = .ok bytes :=
      Except.mapError_eq_ok.mpr hwrite
    have hencoding := encodingOf_eq_some.mpr ⟨entry, hget, hto⟩
    have hplace := hcandidate hid
    rw [hencoding] at hplace
    obtain ⟨limit, hlimit, hlt⟩ := Packing.pack_none hplace hanswer
    refine ⟨bytes, limit, hto, hlimit, ?_⟩
    rw [Nat.zero_add, Nat.add_comm] at hlt
    exact hlt
  · rintro limit hlimit hbelow
    cases hlimit
    have hle := @Packing.total_pack_le _ u64Max 0 List.length
      (wants.map (encodingOf P store)) limit (Nat.zero_le _)
    rw [Nat.zero_add] at hle
    show Packing.total List.length (answers P store (some limit) wants)
      ≤ limit
    change _ ∨ Packing.total List.length
      (answers P store (some limit) wants) ≤ u64Max at hbelow
    unfold answers at hbelow ⊢
    omega

-- =========================================================== the handler

namespace LxmfRouter

variable {σ : Type}

/-- A request for messages is answered with one transfer. What is sent is
counted for the peer, and the store stays as it is. -/
theorem message_get_transfers (hP : RmpvCodec P) (r : LxmfRouter σ)
    (peerId : Hash16) (wants haves : List Hash32)
    (transferLimitKb : Option F64) (nowMs : Nat) :
    ∃ answers items r',
      r.handlePeerSyncMessageGet P peerId
          (.messageGet wants haves transferLimitKb) nowMs
        = (.payload items, r')
      ∧ items = answers.reduceOption
      ∧ MessageTransfer P r.propagationStore
          (transferLimitKb.map fun kb => (kb.mul (.fin 1000)).toU64)
          wants answers
      ∧ r'.peers.lookup peerId
        = (r.peers.lookup peerId).map (fun peer =>
          { peer with
            messagesOutgoing := satAdd64 peer.messagesOutgoing items.length
            txBytes := satAdd64 peer.txBytes
              (items.map List.length).sum })
      ∧ (∀ other, other ≠ peerId →
          r'.peers.lookup other = r.peers.lookup other)
      ∧ r'.propagationStore = r.propagationStore := by
  have hselect := selectItems_eq_pack (P := P) r.propagationStore
    (transferLimitKb.map fun kb => (kb.mul (.fin 1000)).toU64) wants []
    (Nat.zero_le u64Max)
  rw [List.nil_append, Nat.zero_add] at hselect
  refine ⟨_, _, _, rfl, ?_,
    messageTransfer_answers hP r.propagationStore _ wants, ?_, ?_, rfl⟩
  · rw [hselect]
    rfl
  · rw [hselect]
    show (PeerTable.modify _ _ _).lookup _ = _
    rw [PeerTable.lookup_modify_self]
    refine congrArg (Option.map · _) (funext fun peer => ?_)
    have hsat (a b : Nat) : satAdd64 a (min b u64Max) = satAdd64 a b := by
      unfold satAdd64
      omega
    rw [hsat]
    rfl
  · intro other hother
    exact PeerTable.lookup_modify_of_ne hother

section Instance

open Reference

/-- The router with one message, asked for it twice and once for another,
within a thousand bytes. -/
theorem message_get_transfers_doc :
    ∃ answers items r',
      storingNode.handlePeerSyncMessageGet platform
          docOutbound.sourceIdentity
          (.messageGet [fullHash platform docData,
            List.Vector.replicate 32 0x07, fullHash platform docData] []
            (some (.fin 1))) 0
        = (.payload items, r')
      ∧ items = answers.reduceOption
      ∧ MessageTransfer platform storingNode.propagationStore
          ((some (F64.fin 1)).map fun kb => (kb.mul (.fin 1000)).toU64)
          [fullHash platform docData, List.Vector.replicate 32 0x07,
            fullHash platform docData] answers
      ∧ r'.peers.lookup docOutbound.sourceIdentity
        = (storingNode.peers.lookup docOutbound.sourceIdentity).map
          (fun peer =>
            { peer with
              messagesOutgoing :=
                satAdd64 peer.messagesOutgoing items.length
              txBytes := satAdd64 peer.txBytes
                (items.map List.length).sum })
      ∧ (∀ other, other ≠ docOutbound.sourceIdentity →
          r'.peers.lookup other = storingNode.peers.lookup other)
      ∧ r'.propagationStore = storingNode.propagationStore :=
  message_get_transfers platform_rmpvCodec storingNode
    docOutbound.sourceIdentity _ [] (some (.fin 1)) 0

/-- A limit is rounded before it is cut: 0.086 kB are 86 bytes. -/
example : ((F64.fin (F64.nearest (86 / 1000))).mul (.fin 1000)).toU64
    = 86 := by
  decide +kernel

end Instance

end LxmfRouter

end Lxmf
