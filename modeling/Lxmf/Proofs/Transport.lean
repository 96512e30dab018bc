/-
What is delivered can be decoded, and when it cannot.

# The two representations

An opportunistic delivery strips the destination hash, which a packet
carries in its header and a resource does not carry at all. The receiver
puts the hash back on the packet path only. A delivery is therefore
recovered when it is direct, or when what is left of it fits a packet;
otherwise the receiver decodes a frame that starts at the source hash,
and what it reads is another message (`resource_misread`), short of a
signature made of four copies of the source hash.
-/
import Lxmf.Transport
import Lxmf.Proofs.Message

namespace Lxmf

open LXMessage

section Recovery

variable {P : Platform}

/-- The message a receiver gets out of a delivery: a packet is decoded
in the mode it was sent in, a resource as completed link data. -/
def recoveredMessage (P : Platform) (mode : DeliveryMode)
    (sourceHash : Option Hash16) (countClientReceive : Bool) :
    DeliveryOutput → Option LXMessage
  | .packet packet =>
      match decodePacket P packet mode with
      | .ok (.message d) => some d
      | _ => none
  | .resource _ _ data =>
      match receivedCompletion P none false sourceHash countClientReceive
          data with
      | [.message d] => some d
      | _ => none
  | .paperUri _ => none

/-- Every receiver gets `m` out of the delivery. -/
def Recovered (P : Platform) (mode : DeliveryMode)
    (output : DeliveryOutput) (m : LXMessage) : Prop :=
  ∀ sourceHash countClientReceive, ∃ d,
    recoveredMessage P mode sourceHash countClientReceive output = some d
      ∧ SameMessage d m

/-- The encoding without its destination hash fits a packet. -/
def FitsPacket (P : Platform) (o : RnsOutbound) (m : LXMessage)
    (rng : OsRng) : Prop :=
  ∀ packed,
    ((o.prepareMessage m).encodeSigned P o.signKey rng).1 = .ok packed →
    packed.length - destinationLength ≤ packetMdu

/-- A message to oneself whose signature repeats the source hash. -/
def EchoesSource (m : LXMessage) : Prop :=
  m.destinationHash = m.sourceHash ∧ ∃ g, m.signature = some g
    ∧ g.toList = m.sourceHash.toList ++ m.sourceHash.toList
      ++ m.sourceHash.toList ++ m.sourceHash.toList

-- ================================================== inverting `deliver`

theorem deliver_cases {o : RnsOutbound} {m m' : LXMessage}
    {mode : DeliveryMode} {rng : OsRng} {output : DeliveryOutput}
    (h : o.deliver P m mode rng = (.ok output, m')) :
    ∃ packed m₁,
      (o.prepareMessage m).encodeSigned P o.signKey rng = (.ok packed, m₁)
      ∧ o.deliverPacked P m₁ mode packed = (.ok output, m') := by
  unfold RnsOutbound.deliver at h
  split at h
  case h_1 => cases h
  case h_2 =>
    split at h
    case h_1 => cases h
    case h_2 packed m₁ heq => exact ⟨packed, m₁, heq, h⟩

/-- What a mode puts on the wire of a packed message. -/
def wirePayload (mode : DeliveryMode) (packed : Bytes) : Bytes :=
  match mode with
  | .opportunistic => packed.drop destinationLength
  | _ => packed

/-- A packet with the payload when it fits, a resource with the payload
when it does not. -/
theorem deliverAsPacketOrResource_cases {destination : Hash16}
    {payload : Bytes} {m m' : LXMessage} {ty : DestinationType}
    {output : DeliveryOutput}
    (h : deliverAsPacketOrResource destination payload m ty
      = (.ok output, m')) :
    m' = { m with representation := m'.representation }
    ∧ ((payload.length ≤ packetMdu ∧ ∃ packet, output = .packet packet
          ∧ packet.destination = destination
          ∧ packet.data.bytes = payload)
      ∨ (¬ payload.length ≤ packetMdu
          ∧ output = .resource destination .resource payload)) := by
  unfold deliverAsPacketOrResource at h
  split at h
  case isTrue hfit =>
    have hpkt : PacketDataBuffer.ofPayload payload
        = .ok ⟨payload, hfit⟩ := dif_pos hfit
    simp only [packetFromPayload, packetFromPayloadWithContext, hpkt] at h
    injection h with h hm
    subst hm
    injection h with h
    exact ⟨rfl, .inl ⟨hfit, _, h.symm, rfl, rfl⟩⟩
  case isFalse hfit =>
    injection h with h hm
    subst hm
    injection h with h
    exact ⟨rfl, .inr ⟨hfit, h.symm⟩⟩

/-- Both modes of interest send the packed message, one without its
destination hash, and write two flags. -/
theorem deliverPacked_cases {o : RnsOutbound} {m m' : LXMessage}
    {mode : DeliveryMode} {packed : Bytes} {output : DeliveryOutput}
    (hmode : mode = .opportunistic ∨ mode = .direct)
    (h : o.deliverPacked P m mode packed = (.ok output, m')) :
    m' = { m with
      method := m'.method
      representation := m'.representation }
    ∧ (((wirePayload mode packed).length ≤ packetMdu
          ∧ ∃ packet, output = .packet packet
            ∧ packet.destination = o.destination
            ∧ packet.data.bytes = wirePayload mode packed)
      ∨ (¬ (wirePayload mode packed).length ≤ packetMdu
          ∧ output = .resource o.destination .resource
            (wirePayload mode packed))) := by
  rcases hmode with rfl | rfl
  · obtain ⟨hm, hout⟩ := deliverAsPacketOrResource_cases h
    refine ⟨?_, hout⟩
    rw [hm]
  · obtain ⟨hm, hout⟩ := deliverAsPacketOrResource_cases h
    refine ⟨?_, hout⟩
    rw [hm]

-- ============================================================ recovery

/-- The two flags are not part of what the wire carries. -/
theorem SameMessage.of_flags {d m m' : LXMessage} (h : SameMessage d m)
    (hm : m' = { m with
      method := m'.method
      representation := m'.representation }) : SameMessage d m' := by
  rw [hm]
  exact ⟨h.destinationHash, h.sourceHash, h.timestamp, h.title, h.content,
    h.fields, h.stamp, h.signature, h.messageId⟩

/-- Completed link data that decodes is that message. -/
theorem receivedCompletion_of_decode {data : Bytes} {d : LXMessage}
    (h : decode P data = .ok d) (sourceHash : Option Hash16)
    (countClientReceive : Bool) :
    receivedCompletion P none false sourceHash countClientReceive data
      = [.message d] := by
  simp only [receivedCompletion, receivedContent, h]

/-- A message comes out of a completed resource only by decoding it. -/
theorem decode_of_recovered_resource {mode : DeliveryMode}
    {destination : Hash16} {context : PacketContext} {data : Bytes}
    {sourceHash : Option Hash16} {countClientReceive : Bool}
    {d : LXMessage}
    (h : recoveredMessage P mode sourceHash countClientReceive
      (.resource destination context data) = some d) :
    decode P data = .ok d := by
  cases hd : decode P data with
  | ok d' =>
      simp only [recoveredMessage, receivedCompletion_of_decode hd] at h
      injection h with h
      rw [h]
  | error e =>
      simp only [recoveredMessage, receivedCompletion, receivedContent,
        hd] at h
      split at h
      case h_2 => cases h
      case h_1 d' heq =>
        -- neither propagation reading yields a message
        split at heq
        case h_1 received hp =>
          injection heq with heq
          subst heq
          unfold decodePropagatedPayload at hp
          obtain ⟨arr, _, hp⟩ := Except.bind_eq_ok.mp hp
          split at hp
          case h_1 => cases hp
          case h_2 => cases hp
        case h_2 =>
          split at heq
          case h_1 => cases heq
          case h_2 => cases heq

/-- Four hashes, when a signature is a hash before its own first three
quarters. -/
theorem signature_echo {s g : Bytes} (hs : s.length = 16)
    (h : g = s ++ g.take 48) :
    g = s ++ s ++ s ++ s := by
  have step : ∀ n, 16 ≤ n → n ≤ 64 →
      g.take n = s ++ g.take (n - 16) := by
    intro n hn hle
    have ht : g.take n = (s ++ g.take 48).take n := by rw [← h]
    rw [ht, List.take_append, List.take_of_length_le (by omega), hs,
      List.take_take]
    congr 2
    omega
  have h48 := step 48 (by omega) (by omega)
  have h32 := step 32 (by omega) (by omega)
  have h16 := step 16 (by omega) (by omega)
  norm_num at h48 h32 h16
  rw [h, h48, h32, h16]
  simp

/-- A frame without its first hash, read as a frame: the hashes move up
by one place, so the same message comes out only if they were all
equal. -/
theorem resource_misread {m d : LXMessage} {g : FixedBytes signatureLength}
    {payload : Bytes} (hg : m.signature = some g)
    (h : decode P (m.sourceHash.toList ++ g.toList ++ payload) = .ok d)
    (hsame : SameMessage d m) : EchoesSource m := by
  obtain ⟨d₂, s₂, g₂, payload₂, _, hframe, hbody⟩ := decode_cases h
  obtain ⟨_, _, _, _, _, _, _, _, _, _, _, _, _, _, _, _, rfl⟩ :=
    decodeBody_cases hbody
  have hd₂ : d₂ = m.destinationHash := hsame.destinationHash
  have hs₂ : s₂ = m.sourceHash := hsame.sourceHash
  have hg₂ : g₂ = g := by
    have := hsame.signature
    rw [hg] at this
    injection this
  subst hd₂ hs₂ hg₂
  have hls := m.sourceHash.toList_length
  have hld := m.destinationHash.toList_length
  have hlg := g₂.toList_length
  -- compare the two ways of cutting the string
  rw [frame, List.append_assoc, List.append_assoc, List.append_assoc]
    at hframe
  obtain ⟨hds, hrest⟩ := List.append_inj hframe (by rw [hls, hld])
  refine ⟨(List.Vector.toList_injective hds).symm, g₂, hg, ?_⟩
  refine signature_echo hls ?_
  have htake := congrArg (List.take 64) hrest
  rw [List.take_left' hlg, List.take_append, List.take_of_length_le
    (by rw [hls]; decide), hls, List.take_append_of_le_length
      (by rw [hlg]; decide)] at htake
  exact htake

/-- A packet in the mode it was sent in carries the packed message. -/
theorem recoveredMessage_packet {mode : DeliveryMode} {packed : Bytes}
    {packet : Packet} {d : LXMessage}
    (hmode : mode = .opportunistic ∨ mode = .direct)
    (hdata : packet.data.bytes = wirePayload mode packed)
    (hdest : packet.destination.toList = packed.take destinationLength)
    (hd : decode P packed = .ok d) (sourceHash : Option Hash16)
    (countClientReceive : Bool) :
    recoveredMessage P mode sourceHash countClientReceive (.packet packet)
      = some d := by
  rcases hmode with rfl | rfl
  · have hbytes : packet.destination.toList ++ packet.data.bytes
        = packed := by
      rw [hdata, hdest]
      exact List.take_append_drop _ _
    simp only [recoveredMessage, decodePacket, decodePacketWithSource,
      hbytes, hd]
    rfl
  · have hbytes : packet.data.bytes = packed := hdata
    simp only [recoveredMessage, decodePacket, decodePacketWithSource,
      hbytes, hd]
    rfl

/-- What a delivery in one of the two modes came from: the frame of the
message it leaves behind. -/
theorem deliver_frame (hP : RmpvCodec P) {o : RnsOutbound}
    {m m' : LXMessage} {mode : DeliveryMode} {rng : OsRng}
    {output : DeliveryOutput}
    (hmode : mode = .opportunistic ∨ mode = .direct)
    (h : o.deliver P m mode rng = (.ok output, m')) :
    ∃ g body d, m'.signature = some g
      ∧ m'.destinationHash = o.destination
      ∧ ((o.prepareMessage m).encodeSigned P o.signKey rng).1
          = .ok (frame m'.destinationHash m'.sourceHash g body)
      ∧ decode P (frame m'.destinationHash m'.sourceHash g body) = .ok d
      ∧ SameMessage d m'
      ∧ (m'.timestamp = m.timestamp ∧ m'.title = m.title
        ∧ m'.content = m.content ∧ m'.fields = m.fields)
      ∧ (((wirePayload mode (frame m'.destinationHash m'.sourceHash g
              body)).length ≤ packetMdu
            ∧ ∃ packet, output = .packet packet
              ∧ packet.destination = o.destination
              ∧ packet.data.bytes = wirePayload mode
                (frame m'.destinationHash m'.sourceHash g body))
        ∨ (¬ (wirePayload mode (frame m'.destinationHash m'.sourceHash g
              body)).length ≤ packetMdu
            ∧ output = .resource o.destination .resource (wirePayload mode
              (frame m'.destinationHash m'.sourceHash g body)))) := by
  obtain ⟨packed, m₁, henc, hdel⟩ := deliver_cases h
  obtain ⟨payload, d, _, hwire, hre, hd, hsame⟩ :=
    encodeSigned_decodes hP henc
  obtain ⟨hflags, hout⟩ := deliverPacked_cases hmode hdel
  obtain ⟨g, body, hg, _, rfl⟩ := encodeWithSignature_eq_ok hwire
  have hd' : m'.destinationHash = m₁.destinationHash := by rw [hflags]
  have hs' : m'.sourceHash = m₁.sourceHash := by rw [hflags]
  rw [hd', hs']
  refine ⟨g, body, d, ?_, ?_, ?_, hd, hsame.of_flags hflags, ?_, hout⟩
  · rw [hflags]
    exact hg
  · rw [hre]
    rfl
  · rw [henc]
  · rw [hflags, hre]
    exact ⟨rfl, rfl, rfl, rfl⟩

/-- Direct, or small enough for a packet: recovered. -/
theorem recovered_of_fits (hP : RmpvCodec P) {o : RnsOutbound}
    {m m' : LXMessage} {mode : DeliveryMode} {rng : OsRng}
    {output : DeliveryOutput}
    (hmode : mode = .opportunistic ∨ mode = .direct)
    (h : o.deliver P m mode rng = (.ok output, m'))
    (hcond : mode = .direct ∨ FitsPacket P o m rng) :
    Recovered P mode output m' := by
  obtain ⟨g, body, d, _, hdest, henc, hd, hsame, _, hout⟩ :=
    deliver_frame hP hmode h
  intro sourceHash countClientReceive
  refine ⟨d, ?_, hsame⟩
  rcases hout with ⟨_, packet, rfl, hpd, hpb⟩ | ⟨hbig, rfl⟩
  · refine recoveredMessage_packet hmode hpb ?_ hd _ _
    rw [hpd, ← hdest, frame_destination]
  · -- too large for a packet, so the mode is direct
    have hdirect : mode = .direct := by
      rcases hmode with rfl | hdirect
      · rcases hcond with hc | hfit
        · cases hc
        · have hle := hfit _ henc
          rw [← List.length_drop] at hle
          exact absurd hle hbig
      · exact hdirect
    subst hdirect
    simp only [recoveredMessage, wirePayload,
      receivedCompletion_of_decode hd]

/-- Opportunistic and too large for a packet: the frame is misread. -/
theorem echoes_of_recovered (hP : RmpvCodec P) {o : RnsOutbound}
    {m m' : LXMessage} {mode : DeliveryMode} {rng : OsRng}
    {output : DeliveryOutput}
    (hmode : mode = .opportunistic ∨ mode = .direct)
    (h : o.deliver P m mode rng = (.ok output, m'))
    (hrec : Recovered P mode output m') :
    mode = .direct ∨ FitsPacket P o m rng ∨ EchoesSource m' := by
  obtain ⟨g, body, _, hg, _, henc, _, _, _, hout⟩ :=
    deliver_frame hP hmode h
  rcases hmode with rfl | hdirect
  · rcases hout with ⟨hfit, _⟩ | ⟨_, rfl⟩
    · refine .inr (.inl ?_)
      intro packed hpacked
      rw [henc] at hpacked
      injection hpacked with hpacked
      subst hpacked
      rw [← List.length_drop]
      exact hfit
    · refine .inr (.inr ?_)
      obtain ⟨d', hd', hsame⟩ := hrec none false
      have hdec := decode_of_recovered_resource hd'
      have hwp : wirePayload .opportunistic
          (frame m'.destinationHash m'.sourceHash g body)
          = m'.sourceHash.toList ++ g.toList ++ body := by
        simp only [wirePayload, frame, List.append_assoc]
        exact List.drop_left' m'.destinationHash.toList_length
      rw [hwp] at hdec
      exact resource_misread hg hdec hsame
  · exact .inl hdirect

/-- A delivered message is recovered when it is direct or fits a packet,
and otherwise only if its signature echoes its source. -/
theorem deliver_recovered (hP : RmpvCodec P) (o : RnsOutbound)
    (m m' : LXMessage) (mode : DeliveryMode) (rng : OsRng)
    (output : DeliveryOutput)
    (hmode : mode = .opportunistic ∨ mode = .direct)
    (h : o.deliver P m mode rng = (.ok output, m')) :
    (m'.timestamp = m.timestamp ∧ m'.title = m.title
      ∧ m'.content = m.content ∧ m'.fields = m.fields)
    ∧ (mode = .direct ∨ FitsPacket P o m rng →
        Recovered P mode output m')
    ∧ (Recovered P mode output m' →
        mode = .direct ∨ FitsPacket P o m rng ∨ EchoesSource m') := by
  obtain ⟨_, _, _, _, _, _, _, _, hkeep, _⟩ := deliver_frame hP hmode h
  exact ⟨hkeep, recovered_of_fits hP hmode h,
    echoes_of_recovered hP hmode h⟩

/-- Delivery in either mode succeeds under the default policy. -/
theorem deliver_ok (hP : RmpvCodec P) (o : RnsOutbound) (m : LXMessage)
    {mode : DeliveryMode} (rng : OsRng)
    (hmode : mode = .opportunistic ∨ mode = .direct)
    (hpolicy : o.cryptoPolicy = .allowPlaintext) :
    ∃ output m', o.deliver P m mode rng = (.ok output, m') := by
  obtain ⟨packed, m₁, henc⟩ := hP.encodeSigned_ok (o.prepareMessage m)
    o.signKey rng
  have hsend : ∀ payload msg ty, ∃ output m',
      deliverAsPacketOrResource o.destination payload msg ty
        = (.ok output, m') := by
    intro payload msg ty
    unfold deliverAsPacketOrResource
    split
    case isTrue hfit =>
      have hpkt : PacketDataBuffer.ofPayload payload
          = .ok ⟨payload, hfit⟩ := dif_pos hfit
      simp only [packetFromPayload, packetFromPayloadWithContext, hpkt]
      exact ⟨_, _, rfl⟩
    case isFalse => exact ⟨_, _, rfl⟩
  unfold RnsOutbound.deliver
  simp only [hpolicy, RnsCryptoPolicy.checkOutbound, henc]
  rcases hmode with rfl | rfl
  · exact hsend _ _ _
  · exact hsend _ _ _

end Recovery

section RecoveryInstance

open Reference

/-- From the documentation example's source to its destination. -/
def docOutbound : RnsOutbound where
  source := docMessage.sourceHash
  sourceIdentity := ⟨List.replicate 16 0x33, rfl⟩
  signKey := docKey
  destination := docMessage.destinationHash
  encryptor := nullEncryptor
  cryptoPolicy := .allowPlaintext

/-- The example with a content of 2048 zero bytes. -/
def largeMessage : LXMessage :=
  { docMessage with content := List.replicate 2048 0x00 }

/-- The example sent directly is recovered. -/
theorem deliver_recovered_doc :
    ∃ output m', docOutbound.deliver platform docMessage .direct
        (fun _ => 0) = (.ok output, m')
      ∧ Recovered platform .direct output m' := by
  obtain ⟨output, m', h⟩ := deliver_ok platform_rmpvCodec docOutbound
    docMessage (fun _ => 0) (.inr rfl) rfl
  have hrec := deliver_recovered platform_rmpvCodec docOutbound docMessage
    m' .direct (fun _ => 0) output (.inr rfl) h
  exact ⟨output, m', h, hrec.2.1 (.inl rfl)⟩

/-- The large message sent opportunistically is not. -/
theorem large_opportunistic_not_recovered :
    ∃ output m', docOutbound.deliver platform largeMessage .opportunistic
        (fun _ => 0) = (.ok output, m')
      ∧ m'.signature = some largeSignature
      ∧ ¬ Recovered platform .opportunistic output m' := by
  obtain ⟨output, m', h⟩ := deliver_ok platform_rmpvCodec docOutbound
    largeMessage (fun _ => 0) (.inl rfl) rfl
  have hsig : (docOutbound.deliver platform largeMessage .opportunistic
      (fun _ => 0)).2.signature = some largeSignature := by
    decide +kernel
  rw [h] at hsig
  refine ⟨output, m', h, hsig, ?_⟩
  intro hrec
  rcases echoes_of_recovered platform_rmpvCodec (.inl rfl) h hrec with
    hdirect | hfit | ⟨hself, _⟩
  · cases hdirect
  · have hlen : ∃ packed, ((docOutbound.prepareMessage
        largeMessage).encodeSigned platform docOutbound.signKey
          (fun _ => 0)).1 = .ok packed
        ∧ ¬ packed.length - destinationLength ≤ packetMdu := by
      refine ⟨frame docMessage.destinationHash docMessage.sourceHash
        largeSignature ((largeSigned.drop 32).take 2066), ?_, ?_⟩
      · decide +kernel
      · decide +kernel
    obtain ⟨packed, hpacked, hbig⟩ := hlen
    exact hbig (hfit packed hpacked)
  · obtain ⟨_, _, _, _, hdest, _⟩ := deliver_frame platform_rmpvCodec
      (.inl rfl) h
    have hsrc : (docOutbound.deliver platform largeMessage .opportunistic
        (fun _ => 0)).2.sourceHash = docOutbound.source := by
      decide +kernel
    rw [h] at hsrc
    rw [hdest, hsrc] at hself
    revert hself
    decide

end RecoveryInstance

end Lxmf
