/-
Announces: what is announced, what is believed, and what stays.

# Which announces are valid

`validateAnnounce_eq_ok` says which bytes a valid announce has: two keys,
a name, a random hash, a signature under the second key, and whatever
follows as application data. The address the packet is sent to is signed,
but nothing ties it to the keys and the name.

# Which announce stays

A node keeps the first valid announce of each address
(`announced_first`), for as long as it runs.
-/
import Lxmf.Library.Run
import Lxmf.Proofs.Link
import Lxmf.Proofs.Node
import Lxmf.ReferenceCrypto

namespace Lxmf.Reticulum

variable {C : Crypto}

-- ============================================================= buffers

theorem writeData_of_fits (buffer : PacketDataBuffer) (data : Bytes)
    (h : buffer.bytes.length + data.length ≤ packetMdu) :
    ∃ written, writeData buffer data = .ok written
      ∧ written.bytes = buffer.bytes ++ data := by
  unfold writeData
  by_cases hnil : data.length = 0
  · rw [if_pos hnil, List.eq_nil_of_length_eq_zero hnil]
    exact ⟨buffer, rfl, (List.append_nil _).symm⟩
  · rw [if_neg hnil, dif_pos h]
    exact ⟨_, rfl, rfl⟩

theorem writeData_of_lt {buffer : PacketDataBuffer} {data : Bytes}
    (h : packetMdu < buffer.bytes.length + data.length) :
    writeData buffer data = .error (.error .outOfMemory) := by
  have hfits := buffer.fits
  unfold writeData
  rw [if_neg (by omega), dif_neg (by omega)]

/-- Two writes are one. -/
theorem writeData_append (buffer : PacketDataBuffer)
    (first second : Bytes) :
    writeData buffer (first ++ second)
      = writeData buffer first >>= fun buffer =>
          writeData buffer second := by
  have hlength : (first ++ second).length = first.length + second.length :=
    List.length_append
  by_cases hfirst : buffer.bytes.length + first.length ≤ packetMdu
  · obtain ⟨written, hwritten, hbytes⟩ := writeData_of_fits _ _ hfirst
    rw [hwritten, Except.ok_bind]
    by_cases hboth : buffer.bytes.length + (first ++ second).length
        ≤ packetMdu
    · obtain ⟨all, hall, hallBytes⟩ := writeData_of_fits _ _ hboth
      obtain ⟨rest, hrest, hrestBytes⟩ := writeData_of_fits
        written second (by
          rw [hbytes, List.length_append]
          omega)
      rw [hall, hrest]
      congr 1
      have hsame : all.bytes = rest.bytes := by
        rw [hallBytes, hrestBytes, hbytes, List.append_assoc]
      cases all
      cases rest
      cases hsame
      rfl
    · rw [writeData_of_lt (Nat.not_le.mp hboth), writeData_of_lt (by
        rw [hbytes, List.length_append]
        omega)]
  · rw [writeData_of_lt (Nat.not_le.mp hfirst), writeData_of_lt (by omega)]
    rfl

-- ========================================================== valid bytes

/-- The fields of an announce. -/
structure AnnounceFields where
  publicKey : PublicKey
  verifyingKey : PublicKey
  nameHash : FixedBytes nameHashLength
  randHash : FixedBytes randHashLength
  signature : Signature
  appData : Bytes

namespace AnnounceFields

/-- The fields as the data of a packet. -/
def data (f : AnnounceFields) : Bytes :=
  f.publicKey.toList ++ (f.verifyingKey.toList ++ (f.nameHash.toList
    ++ (f.randHash.toList ++ (f.signature.toList ++ f.appData))))

/-- What the signature is over, for the address of a packet. -/
def signed (f : AnnounceFields) (destination : Hash16) : Bytes :=
  destination.toList ++ f.publicKey.toList ++ f.verifyingKey.toList
    ++ f.nameHash.toList ++ f.randHash.toList ++ f.appData

/-- The destination that is announced. -/
def desc (C : Crypto) (f : AnnounceFields) : DestinationDesc :=
  .new C (.new C f.publicKey f.verifyingKey) (.newFromHashSlice f.nameHash)

theorem length_data (f : AnnounceFields) :
    f.data.length = minAnnounceDataLength + f.appData.length := by
  unfold data
  simp only [List.length_append, List.Vector.toList_length]
  show 32 + (32 + (10 + (10 + (64 + f.appData.length)))) = 148 + _
  omega

theorem length_signed (f : AnnounceFields) (destination : Hash16) :
    (f.signed destination).length = 100 + f.appData.length := by
  unfold signed
  simp only [List.length_append, List.Vector.toList_length]
  rfl

/-- The fields are valid in a packet to an address. -/
structure Valid (C : Crypto) (f : AnnounceFields) (packet : Packet) :
    Prop where
  packetType : packet.header.packetType = .announce
  data : packet.data.bytes = f.data
  validKey : C.validKey f.verifyingKey = true
  verified : C.verifyStrict f.verifyingKey (f.signed packet.destination)
    f.signature = true

end AnnounceFields

/-- The signed bytes, written field by field, always fit: they are
shorter than the data they come from. -/
theorem signedData_eq (destination : Hash16) (f : AnnounceFields)
    (h : f.data.length ≤ packetMdu) :
    ∃ signed, signedData destination f.publicKey f.verifyingKey f.nameHash
        f.randHash f.appData = .ok signed
      ∧ signed.bytes = f.signed destination := by
  have hlength := f.length_data
  have hsigned := f.length_signed destination
  have hleast : minAnnounceDataLength = 148 := rfl
  obtain ⟨signed, hwritten, hbytes⟩ := writeData_of_fits emptyData
    (f.signed destination) (by
      show 0 + _ ≤ _
      omega)
  refine ⟨signed, ?_, hbytes⟩
  rw [← hwritten]
  unfold signedData AnnounceFields.signed
  simp only [writeData_append, bind_assoc]

/-- An announce is valid exactly when its data are fields that are. -/
theorem validateAnnounce_eq_ok {packet : Packet} {desc : DestinationDesc}
    {appData : Bytes} :
    validateAnnounce C packet = .ok (desc, appData)
      ↔ ∃ f : AnnounceFields, f.Valid C packet ∧ desc = f.desc C
          ∧ appData = f.appData := by
  constructor
  · intro h
    unfold validateAnnounce at h
    split at h
    case isTrue => cases h
    case isFalse htype =>
      rw [not_not] at htype
      split at h
      case isTrue => cases h
      case isFalse hlength =>
        obtain ⟨⟨publicKey, rest⟩, hpublic, h⟩ := Except.bind_eq_ok.mp h
        obtain ⟨⟨verifyingKey, rest'⟩, hverifying, h⟩ :=
          Except.bind_eq_ok.mp h
        dsimp only at h
        split at h
        case isFalse => cases h
        case isTrue hvalid =>
          obtain ⟨⟨nameHash, rest₁⟩, hname, h⟩ := Except.bind_eq_ok.mp h
          obtain ⟨⟨randHash, rest₂⟩, hrand, h⟩ := Except.bind_eq_ok.mp h
          obtain ⟨⟨signature, rest₃⟩, hsignature, h⟩ :=
            Except.bind_eq_ok.mp h
          obtain ⟨signed, hsigned, h⟩ := Except.bind_eq_ok.mp h
          have hdata : packet.data.bytes = AnnounceFields.data
              ⟨publicKey, verifyingKey, nameHash, randHash, signature,
                rest₃⟩ := by
            unfold AnnounceFields.data
            rw [readFixed_eq_ok.mp hpublic, readFixed_eq_ok.mp hverifying,
              readFixed_eq_ok.mp hname, readFixed_eq_ok.mp hrand,
              readFixed_eq_ok.mp hsignature]
          obtain ⟨signed', hsigned', hbytes⟩ := signedData_eq
            packet.destination _ (hdata ▸ packet.data.fits)
          rw [hsigned] at hsigned'
          injection hsigned' with hsigned'
          split at h
          case isFalse => cases h
          case isTrue hverify =>
            injection h with h
            obtain ⟨rfl, rfl⟩ := Prod.mk.inj h
            refine ⟨_, ⟨htype, hdata, hvalid, ?_⟩, rfl, rfl⟩
            rw [← hbytes, ← hsigned']
            exact hverify
  · rintro ⟨f, hf, rfl, rfl⟩
    have hlength := f.length_data
    obtain ⟨signed, hsigned, hbytes⟩ := signedData_eq
      packet.destination f (hf.data ▸ packet.data.fits)
    unfold validateAnnounce
    rw [if_neg (by rw [hf.packetType]; exact fun h => h rfl),
      if_neg (by rw [hf.data, hlength]; omega), hf.data]
    unfold AnnounceFields.data
    rw [readFixed_append, Except.ok_bind]
    simp only
    rw [readFixed_append, Except.ok_bind]
    simp only
    rw [if_pos hf.validKey]
    unfold validateFields
    simp only
    rw [readFixed_append, Except.ok_bind]
    simp only
    rw [readFixed_append, Except.ok_bind]
    simp only
    rw [readFixed_append, Except.ok_bind]
    simp only
    rw [hsigned, Except.ok_bind, hbytes, if_pos hf.verified]
    rfl

-- ========================================================== round trip

/-- What an announce can carry. -/
abbrev announceDataMax : Nat := packetMdu - minAnnounceDataLength

namespace SingleInputDestination

/-- The fields of an announce of the destination. -/
def fields (C : Crypto) (d : SingleInputDestination)
    (randHash : FixedBytes randHashLength) (appData : Bytes) :
    AnnounceFields where
  publicKey := (d.identity.asIdentity C).publicKey
  verifyingKey := (d.identity.asIdentity C).verifyingKey
  nameHash := d.name.asNameHashSlice
  randHash
  signature := C.sign d.identity.signKey
    (d.announceSigned C randHash appData)
  appData

theorem fields_signed (d : SingleInputDestination)
    (randHash : FixedBytes randHashLength) (appData : Bytes) :
    (d.fields C randHash appData).signed (d.desc C).addressHash
      = d.announceSigned C randHash appData := rfl

/-- Written with `safe_write`, the fixed fields are not cut. -/
theorem bytes_writeKeys (d : SingleInputDestination)
    (randHash : FixedBytes randHashLength) {buffer : PacketDataBuffer}
    (h : buffer.bytes.length ≤ 64) :
    (d.writeKeys C randHash buffer).bytes
      = buffer.bytes ++ (d.identity.asIdentity C).publicKey.toList
        ++ (d.identity.asIdentity C).verifyingKey.toList
        ++ d.name.asNameHashSlice.toList ++ randHash.toList := by
  have hpublic := (d.identity.asIdentity C).publicKey.toList_length
  have hverifying := (d.identity.asIdentity C).verifyingKey.toList_length
  have hname : d.name.asNameHashSlice.toList.length = 10 :=
    d.name.asNameHashSlice.toList_length
  have hrand : randHash.toList.length = 10 := randHash.toList_length
  have hmdu : packetMdu = 2048 := rfl
  have h₁ := bytes_safeWrite_of_fits buffer
    (d.identity.asIdentity C).publicKey.toList (by omega)
  have h₂ := bytes_safeWrite_of_fits (safeWrite buffer
      (d.identity.asIdentity C).publicKey.toList)
    (d.identity.asIdentity C).verifyingKey.toList (by
      rw [h₁, List.length_append]
      omega)
  have h₃ := bytes_safeWrite_of_fits (safeWrite (safeWrite buffer
      (d.identity.asIdentity C).publicKey.toList)
      (d.identity.asIdentity C).verifyingKey.toList)
    d.name.asNameHashSlice.toList (by
      rw [h₂, h₁, List.length_append, List.length_append]
      omega)
  unfold writeKeys
  rw [bytes_safeWrite_of_fits _ _ (by
    rw [h₃, h₂, h₁, List.length_append, List.length_append,
      List.length_append]
    omega), h₃, h₂, h₁]

/-- The packet of an announce with these data. -/
def announcePacket (C : Crypto) (d : SingleInputDestination)
    (data : PacketDataBuffer) : Packet where
  header := { packetType := .announce }
  ifac := none
  destination := (d.desc C).addressHash
  transport := none
  context := .none
  data

theorem writeAppData_eq (appData : Option Bytes)
    (data : PacketDataBuffer) :
    writeAppData appData data = writeData data (appData.getD []) := by
  cases appData with
  | some appData => rfl
  | none => rfl

/-- What is signed, before the application data. -/
theorem bytes_signedKeys (d : SingleInputDestination)
    (randHash : FixedBytes randHashLength) (appData : Bytes) :
    (d.writeKeys C randHash
        (safeWrite emptyData (d.desc C).addressHash.toList)).bytes ++ appData
      = d.announceSigned C randHash appData := by
  have haddress := (d.desc C).addressHash.toList_length
  have hsmall : (d.desc C).addressHash.toList.length ≤ 64 := by
    rw [haddress]
    decide
  have hfirst := bytes_safeWrite_emptyData (d.desc C).addressHash.toList
    (Nat.le_trans hsmall (by decide))
  rw [bytes_writeKeys d randHash (by rw [hfirst]; exact hsmall), hfirst]
  rfl

/-- What is sent, before the application data. -/
theorem bytes_sentKeys (d : SingleInputDestination)
    (randHash : FixedBytes randHashLength) (appData : Bytes) :
    (safeWrite (d.writeKeys C randHash emptyData)
        (d.fields C randHash appData).signature.toList).bytes ++ appData
      = (d.fields C randHash appData).data := by
  have hkeys := bytes_writeKeys (C := C) d randHash
    (show emptyData.bytes.length ≤ 64 from Nat.zero_le 64)
  have hsignature :=
    (d.fields C randHash appData).signature.toList_length
  rw [bytes_safeWrite_of_fits _ _ (by
    rw [hkeys, hsignature]
    simp only [List.length_append, List.Vector.toList_length]
    decide), hkeys]
  unfold AnnounceFields.data
  simp only [List.append_assoc]
  rfl

/-- An announce is made exactly when the application data fit. -/
theorem announce_eq (d : SingleInputDestination)
    (randHash : FixedBytes randHashLength) (appData : Option Bytes) :
    if (appData.getD []).length ≤ announceDataMax then
      ∃ data, d.announce C randHash appData
          = .ok (d.announcePacket C data)
        ∧ data.bytes = (d.fields C randHash (appData.getD [])).data
    else d.announce C randHash appData
      = .error (.error .outOfMemory) := by
  have hmax : announceDataMax = 1900 := rfl
  have hleast : minAnnounceDataLength = 148 := rfl
  have hmdu : packetMdu = 2048 := rfl
  have hsignedKeys := bytes_signedKeys (C := C) d randHash
    (appData.getD [])
  have hsentKeys := bytes_sentKeys (C := C) d randHash (appData.getD [])
  have hsignedLength := congrArg List.length hsignedKeys
  rw [← fields_signed, AnnounceFields.length_signed, List.length_append]
    at hsignedLength
  have hsentLength := congrArg List.length hsentKeys
  rw [AnnounceFields.length_data, List.length_append] at hsentLength
  replace hsentLength : _ + (appData.getD []).length
    = minAnnounceDataLength + (appData.getD []).length := hsentLength
  replace hsignedLength : _ + (appData.getD []).length
    = 100 + (appData.getD []).length := hsignedLength
  unfold announce
  rw [writeAppData_eq]
  by_cases hsigned : (appData.getD []).length ≤ packetMdu - 100
  · obtain ⟨signed, hwritten, hbytes⟩ := writeData_of_fits
      (d.writeKeys C randHash
        (safeWrite emptyData (d.desc C).addressHash.toList))
      (appData.getD []) (by omega)
    rw [hwritten, Except.ok_bind, hbytes, hsignedKeys]
    show (if _ then ∃ data, (writeAppData appData
        (safeWrite (d.writeKeys C randHash emptyData)
          (d.fields C randHash (appData.getD [])).signature.toList) >>=
        fun data => Except.ok (d.announcePacket C data)) = _ ∧ _
      else (writeAppData appData
        (safeWrite (d.writeKeys C randHash emptyData)
          (d.fields C randHash (appData.getD [])).signature.toList) >>=
        fun data => Except.ok (d.announcePacket C data)) = _)
    rw [writeAppData_eq]
    by_cases hfits : (appData.getD []).length ≤ announceDataMax
    · obtain ⟨data, hdata, hdataBytes⟩ := writeData_of_fits
        (safeWrite (d.writeKeys C randHash emptyData)
          (d.fields C randHash (appData.getD [])).signature.toList)
        (appData.getD []) (by omega)
      rw [if_pos hfits]
      exact ⟨data, by rw [hdata, Except.ok_bind],
        hdataBytes.trans hsentKeys⟩
    · rw [if_neg hfits, writeData_of_lt (by omega), Except.error_bind]
  · rw [writeData_of_lt (by omega), if_neg (by omega)]
    rfl

end SingleInputDestination

-- ============================================================ round trip

theorem asNameHashSlice_newFromHashSlice
    (slice : FixedBytes nameHashLength) :
    (DestinationName.newFromHashSlice slice).asNameHashSlice = slice := by
  apply Subtype.ext
  exact List.take_left' slice.toList_length

/-- The destination that an announce of `d` announces. -/
theorem desc_fields (d : SingleInputDestination)
    (randHash : FixedBytes randHashLength) (appData : Bytes) :
    (d.fields C randHash appData).desc C = { d.desc C with
      name := .newFromHashSlice d.name.asNameHashSlice } := by
  unfold AnnounceFields.desc DestinationDesc.new
  have haddress : createAddressHash C (d.identity.asIdentity C)
      (.newFromHashSlice d.name.asNameHashSlice)
      = (d.desc C).addressHash := by
    unfold createAddressHash
    rw [asNameHashSlice_newFromHashSlice]
    rfl
  show DestinationDesc.mk (d.identity.asIdentity C) (createAddressHash C
    (d.identity.asIdentity C) (.newFromHashSlice d.name.asNameHashSlice)) _
      = _
  rw [haddress]
  rfl

/-- A destination announces itself with up to 1900 bytes of application
data, and with more not at all. What is read from the announce has its
identity, its address and its data; of the name, what the address
needs. -/
theorem announce_round_trip (hsigns : SignsStrictly C)
    (hvalid : MakesValidKeys C) (d : SingleInputDestination)
    (randHash : FixedBytes randHashLength) (appData : Option Bytes) :
    if (appData.getD []).length ≤ 1900 then
      ∃ packet, d.announce C randHash appData = .ok packet
        ∧ ∀ packet', Carried packet packet' →
          validateAnnounce C packet' = .ok ({ d.desc C with
            name := .newFromHashSlice d.name.asNameHashSlice },
            appData.getD [])
    else d.announce C randHash appData = .error (.error .outOfMemory) := by
  have hannounce := d.announce_eq (C := C) randHash appData
  by_cases hfits : (appData.getD []).length ≤ 1900
  · rw [if_pos (show _ ≤ announceDataMax from hfits)] at hannounce
    obtain ⟨data, hpacket, hbytes⟩ := hannounce
    rw [if_pos hfits]
    refine ⟨_, hpacket, fun packet' hcarried => ?_⟩
    rw [hcarried.eq rfl rfl rfl]
    refine validateAnnounce_eq_ok.mpr ⟨d.fields C randHash (appData.getD []),
      ⟨rfl, hbytes, hvalid _, hsigns _ _⟩, ?_, rfl⟩
    exact (desc_fields d randHash (appData.getD [])).symm
  · rw [if_neg (show ¬ _ ≤ announceDataMax from hfits)] at hannounce
    rw [if_neg hfits]
    exact hannounce

open Reference in
theorem announce_round_trip_doc :
    ∃ packet, server.announce crypto drawnHash (some [0x68, 0x69])
        = .ok packet
      ∧ ∀ packet', Carried packet packet' →
        validateAnnounce crypto packet' = .ok ({ server.desc crypto with
          name := .newFromHashSlice server.name.asNameHashSlice },
          [0x68, 0x69]) :=
  announce_round_trip crypto_signsStrictly crypto_makesValidKeys server
    drawnHash (some [0x68, 0x69])

-- ============================================================== forgery

/-- The fields of an announce of `d`, signed for an address that need not
be its own. -/
def forgedFields (C : Crypto) (d : SingleInputDestination)
    (randHash : FixedBytes randHashLength) (appData : Bytes)
    (address : Hash16) : AnnounceFields :=
  let fields := d.fields C randHash appData
  { fields with
    signature := C.sign d.identity.signKey (fields.signed address) }

theorem forgedFields_valid (hsigns : SignsStrictly C)
    (hvalid : MakesValidKeys C) (d : SingleInputDestination)
    (randHash : FixedBytes randHashLength) (appData : Bytes)
    {packet : Packet} (htype : packet.header.packetType = .announce)
    (hdata : packet.data.bytes
      = (forgedFields C d randHash appData packet.destination).data) :
    (forgedFields C d randHash appData packet.destination).Valid C packet
    where
  packetType := htype
  data := hdata
  validKey := hvalid _
  verified := hsigns _ _

-- ============================================================= the table

/-- The destination that a step learns for an address. -/
def announcedAt (C : Crypto) (address : Hash16) :
    Event → Option DestinationDesc
  | .receive message _ =>
      if message.packet.destination = address then
        match validateAnnounce C message.packet with
        | .ok (desc, _) => some desc
        | .error _ => none
      else none
  | _ => none

/-- From a forged announce as well. -/
theorem announcedAt_forged (hsigns : SignsStrictly C)
    (hvalid : MakesValidKeys C) (d : SingleInputDestination)
    (randHash : FixedBytes randHashLength) (appData : Bytes)
    (address : Hash16) (message : RxMessage) (draws : Draws)
    (hdestination : message.packet.destination = address)
    (htype : message.packet.header.packetType = .announce)
    (hdata : message.packet.data.bytes
      = (forgedFields C d randHash appData address).data) :
    announcedAt C address (.receive message draws)
      = some ((forgedFields C d randHash appData address).desc C) := by
  subst hdestination
  have hok := validateAnnounce_eq_ok.mpr ⟨_, forgedFields_valid hsigns
    hvalid d randHash appData htype hdata, rfl, rfl⟩
  simp only [announcedAt, if_true, hok]

namespace Node

open TransportHandler

theorem receive_singleOut (node : Node) (message : RxMessage)
    (draws : Draws) (now : Nat) (address : Hash16) :
    (node.handler.receive C message draws
        now).1.singleOutDestinations.lookup address
      = (node.handler.singleOutDestinations.lookup address).or
          (announcedAt C address (.receive message draws)) := by
  show (node.handler.handlePacket C message.packet draws
    now).1.singleOutDestinations.lookup address = _
  by_cases htype : message.packet.header.packetType = .announce
  · unfold TransportHandler.handlePacket announcedAt
    rw [htype]
    simp only [handleAnnounce]
    cases hvalid : validateAnnounce C message.packet with
    | error e => simp
    | ok announced =>
        obtain ⟨desc, appData⟩ := announced
        simp only
        by_cases hknown : message.packet.destination
            ∈ node.handler.singleOutDestinations
        · rw [if_pos hknown]
          by_cases haddress : message.packet.destination = address
          · subst haddress
            obtain ⟨old, hold⟩ := HashMap.mem_iff_lookup.mp hknown
            rw [hold]
            rfl
          · rw [if_neg haddress, Option.or_none]
        · rw [if_neg hknown]
          by_cases haddress : message.packet.destination = address
          · subst haddress
            rw [if_pos rfl, AList.lookup_eq_none.mpr hknown]
            exact AList.lookup_insert _
          · rw [if_neg haddress, Option.or_none]
            exact AList.lookup_insert_ne (Ne.symm haddress)
  · have hinvalid : announcedAt C address (.receive message draws)
        = none := by
      have herror : validateAnnounce C message.packet
          = .error (.error .packetError) := by
        unfold validateAnnounce
        exact if_pos htype
      simp only [announcedAt, herror]
      split <;> rfl
    rw [hinvalid, Option.or_none]
    unfold TransportHandler.handlePacket
    split
    case h_1 h => exact absurd h htype
    case h_2 =>
      unfold handleLinkRequest
      split <;> rfl
    case h_3 => rfl
    case h_4 =>
      unfold handleData
      split <;> rfl

/-- A step learns the destination of an address it knows nothing of. -/
theorem step_singleOut {node node' : Node} {now : Nat} {event : Event}
    {effects : List Effect}
    (hstep : node.step C now event = .ok (node', effects))
    (address : Hash16) :
    node'.handler.singleOutDestinations.lookup address
      = (node.handler.singleOutDestinations.lookup address).or
          (announcedAt C address event) := by
  cases step_cases hstep with
  | receive message draws => exact receive_singleOut ..
  | checkLinks => exact Option.or_none.symm
  | link destination =>
      rw [lookUp_handler]
      exact Option.or_none.symm
  | request call identity =>
      unfold request
      split <;> exact Option.or_none.symm
  | insert call =>
      unfold insert
      split <;> exact Option.or_none.symm
  | closeLink key =>
      unfold closeLink
      split <;> exact Option.or_none.symm
  | other _ _ hevent hsame =>
      have hnone : announcedAt C address event = none := by
        unfold announcedAt
        split
        case h_1 message draws => exact absurd rfl (hevent message draws)
        case h_2 => rfl
      rw [hsame.singleOut, hnone, Option.or_none]

/-- A step with the time it happens at. -/
def apply (C : Crypto) (timed : Nat × Event) (node : Node) : Option Node :=
  match node.step C timed.1 timed.2 with
  | .ok (node', _) => some node'
  | .error _ => none

/-- A run adds the first destination of each address. -/
theorem run_singleOut {events : List (Nat × Event)} {node node' : Node}
    (hrun : Run.run (apply C) events node = some node')
    (address : Hash16) :
    node'.handler.singleOutDestinations.lookup address
      = (node.handler.singleOutDestinations.lookup address).or
          (events.findSome? fun timed => announcedAt C address timed.2) := by
  induction events generalizing node with
  | nil =>
      injection hrun with hrun
      rw [← hrun]
      exact Option.or_none.symm
  | cons timed events ih =>
      unfold Run.run apply at hrun
      cases hstep : node.step C timed.1 timed.2 with
      | error e =>
          rw [hstep] at hrun
          cases hrun
      | ok stepped =>
          obtain ⟨next, effects⟩ := stepped
          rw [hstep] at hrun
          rw [ih hrun, step_singleOut hstep, List.findSome?_cons]
          cases node.handler.singleOutDestinations.lookup address with
          | some desc => rfl
          | none =>
              cases announcedAt C address timed.2 with
              | some desc => rfl
              | none => rfl

/-- Whatever happens to a node, under an address it knows the destination
of the first valid announce that came for it. -/
theorem announced_first (broadcast : Bool) (events : List (Nat × Event))
    (node : Node)
    (hrun : Run.run (apply C) events (.new broadcast) = some node)
    (address : Hash16) :
    node.handler.singleOutDestinations.lookup address
      = events.findSome? fun timed => announcedAt C address timed.2 := by
  have hlookup := run_singleOut hrun address
  have hempty : (Node.new broadcast).handler.singleOutDestinations.lookup
      address = none := rfl
  rw [hlookup, hempty]
  rfl

section Instance

open Reference

/-- An announce of `d` for the address of the server. -/
noncomputable def docAnnounce (d : SingleInputDestination) : RxMessage where
  address := iface
  packet := { d.announcePacket crypto (safeWrite emptyData
      (forgedFields crypto d drawnHash [0x68, 0x69]
        (server.desc crypto).addressHash).data) with
    destination := (server.desc crypto).addressHash }

theorem docAnnounce_data (d : SingleInputDestination) :
    (docAnnounce d).packet.data.bytes
      = (forgedFields crypto d drawnHash [0x68, 0x69]
        (server.desc crypto).addressHash).data := by
  refine bytes_safeWrite_emptyData _ ?_
  rw [AnnounceFields.length_data]
  show 148 + 2 ≤ 2048
  decide

/-- The announce of an intruder, and then that of the server itself. -/
noncomputable def docAnnounces : List (Nat × Event) :=
  [(0, .checkLinks), (1, .receive (docAnnounce intruder) drawn),
    (2, .receive (docAnnounce server) drawn)]

/-- The node knows the one that came first. -/
theorem announced_first_doc :
    ∃ node, Run.run (apply crypto) docAnnounces (.new false) = some node
      ∧ (node.handler.singleOutDestinations.lookup
          (server.desc crypto).addressHash).map (·.identity)
        = some (intruder.identity.asIdentity crypto) := by
  obtain ⟨node, hrun⟩ : ∃ node, Run.run (apply crypto) docAnnounces
      (.new false) = some node := ⟨_, rfl⟩
  have hfirst := announcedAt_forged crypto_signsStrictly
    crypto_makesValidKeys intruder drawnHash [0x68, 0x69]
    (server.desc crypto).addressHash (docAnnounce intruder) drawn rfl rfl
    (docAnnounce_data intruder)
  have hfound : (docAnnounces.findSome? fun timed => announcedAt crypto
      (server.desc crypto).addressHash timed.2) = some _ :=
    List.findSome?_eq_some_iff.mpr ⟨[(0, .checkLinks)], _,
      [(2, .receive (docAnnounce server) drawn)], rfl, hfirst,
      List.forall_mem_singleton.mpr rfl⟩
  refine ⟨node, hrun, ?_⟩
  rw [announced_first false docAnnounces node hrun
    (server.desc crypto).addressHash, hfound]
  rfl

end Instance

/-- Whoever announces an address first has it, though it is not its own:
once a node has received such an announce, of any data and signed with any
key, and no valid one for the address before it, it knows the identity the
announce came from under the address, whatever the owner announces
afterwards. -/
theorem address_is_taken (hsigns : SignsStrictly C)
    (hvalid : MakesValidKeys C) (d : SingleInputDestination)
    (randHash : FixedBytes randHashLength) (appData : Bytes)
    (before after : List (Nat × Event)) (message : RxMessage)
    {broadcast : Bool} {draws : Draws} {now : Nat} {node : Node}
    (htype : message.packet.header.packetType = .announce)
    (hdata : message.packet.data.bytes = (forgedFields C d randHash appData
      message.packet.destination).data)
    (hfirst : ∀ timed ∈ before,
      announcedAt C message.packet.destination timed.2 = none)
    (hrun : Run.run (apply C)
      (before ++ (now, .receive message draws) :: after) (.new broadcast)
        = some node) :
    ∃ desc, node.handler.singleOutDestinations.lookup
        message.packet.destination = some desc
      ∧ desc.identity = d.identity.asIdentity C := by
  have hannounced := announcedAt_forged hsigns hvalid d randHash appData _
    message draws rfl htype hdata
  have hfound := List.findSome?_eq_some_iff.mpr
    ⟨before, (now, .receive message draws), after, rfl, hannounced, hfirst⟩
  have hlookup := run_singleOut hrun message.packet.destination
  rw [hfound] at hlookup
  exact ⟨_, hlookup, rfl⟩

open Reference in
theorem address_is_taken_doc :
    ∃ node, Run.run (apply crypto) docAnnounces (.new false) = some node
      ∧ ∃ desc, node.handler.singleOutDestinations.lookup
            (server.desc crypto).addressHash = some desc
        ∧ desc.identity = intruder.identity.asIdentity crypto := by
  obtain ⟨node, hrun⟩ : ∃ node, Run.run (apply crypto) docAnnounces
      (.new false) = some node := ⟨_, rfl⟩
  refine ⟨node, hrun, ?_⟩
  refine address_is_taken crypto_signsStrictly crypto_makesValidKeys
    intruder drawnHash [0x68, 0x69] [(0, .checkLinks)] _
    (docAnnounce intruder) rfl (docAnnounce_data intruder)
    (List.forall_mem_singleton.mpr rfl) hrun

end Node

end Lxmf.Reticulum
