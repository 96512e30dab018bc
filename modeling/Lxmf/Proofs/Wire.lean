/-
What becomes of a packet on the wire.

# There and back

Serialising writes one string of bytes, `Packet.wire`, or fails for want
of room (`serialize_eq`). Reading it gives the packet back without its
access code (`deserialize_wire`), unless its header announces a
transport address the packet does not have: then the destination is read
as the transport address (`Addressed`).

# Back and there

Every byte of what was read is in the packet: it is written again as it
came, but for a context that is none of the known ones
(`wire_of_deserialize`).
-/
import Lxmf.Library.Except
import Lxmf.Wire

namespace Lxmf.Reticulum

-- ============================================================ headers

theorem toMeta_fromMeta (byte : UInt8) :
    (Header.fromMeta byte).toMeta = byte := by
  have hall : ∀ i : Fin 256, (Header.fromMeta (.ofNat i)).toMeta
      = .ofNat i := by decide +kernel
  simpa using hall ⟨byte.toNat, byte.toNat_lt⟩

theorem fromMeta_toMeta_zero (ifacFlag : IfacFlag)
    (headerType : HeaderType) (propagationType : PropagationType)
    (destinationType : DestinationType) (packetType : PacketType) :
    Header.fromMeta (Header.toMeta ⟨ifacFlag, headerType,
        propagationType, destinationType, packetType, 0⟩)
      = ⟨ifacFlag, headerType, propagationType, destinationType,
        packetType, 0⟩ := by
  cases ifacFlag <;> cases headerType <;> cases propagationType
    <;> cases destinationType <;> cases packetType <;> decide

theorem fromMeta_toMeta (h : Header) :
    Header.fromMeta h.toMeta = { h with hops := 0 } := by
  obtain ⟨ifacFlag, headerType, propagation, destination, packet, hops⟩ := h
  exact fromMeta_toMeta_zero ifacFlag headerType propagation destination
    packet

@[simp] theorem PacketContext.ofByte_code (c : PacketContext) :
    PacketContext.ofByte c.code = c := by
  cases c <;> rfl

-- ============================================================ buffers

section Buffers

variable {capacity : Nat} {b : OutputBuffer capacity} {data : Bytes}

theorem write_of_fits (h : b.bytes.length + data.length ≤ capacity) :
    b.write data
      = .ok ⟨b.bytes ++ data, by rwa [List.length_append]⟩ := by
  unfold OutputBuffer.write
  split
  case isTrue hnil =>
    rw [List.length_eq_zero_iff] at hnil
    subst hnil
    simp
  case isFalse => rfl

theorem write_of_lt (h : capacity < b.bytes.length + data.length) :
    b.write data = .error (.error .outOfMemory) := by
  have hfits := b.fits
  unfold OutputBuffer.write
  rw [if_neg (by omega), dif_neg (by omega)]

/-- Two writes are one. -/
theorem write_append (b : OutputBuffer capacity) (first second : Bytes) :
    b.write (first ++ second)
      = b.write first >>= fun b => b.write second := by
  have hlength : (first ++ second).length = first.length + second.length :=
    List.length_append
  by_cases hfirst : b.bytes.length + first.length ≤ capacity
  · rw [write_of_fits hfirst, Except.ok_bind]
    by_cases hsecond : b.bytes.length + (first ++ second).length ≤ capacity
    · rw [write_of_fits hsecond, write_of_fits (by
        simp only [List.length_append] at hsecond ⊢
        omega)]
      simp
    · rw [write_of_lt (Nat.not_le.mp hsecond), write_of_lt (by
        simp only [List.length_append] at hsecond ⊢
        omega)]
  · rw [write_of_lt (Nat.not_le.mp hfirst), write_of_lt (by omega)]
    rfl

theorem readFixed_append {n : Nat} (v : FixedBytes n) (rest : Bytes) :
    readFixed n (v.toList ++ rest) = .ok (v, rest) := by
  have hlength := v.toList_length
  unfold readFixed
  rw [dif_pos (by rw [List.length_append]; omega)]
  congr 2
  · apply Subtype.ext
    exact List.take_left' hlength
  · exact List.drop_left' hlength

theorem readFixed_eq_ok {n : Nat} {input : Bytes} {v : FixedBytes n}
    {rest : Bytes} :
    readFixed n input = .ok (v, rest) ↔ input = v.toList ++ rest := by
  constructor
  · intro h
    unfold readFixed at h
    split at h
    case isTrue hle =>
      cases h
      exact (List.take_append_drop n input).symm
    case isFalse => cases h
  · rintro rfl
    exact readFixed_append v rest

theorem readByte_eq_ok {input : Bytes} {byte : UInt8} {rest : Bytes} :
    readByte input = .ok (byte, rest) ↔ input = byte :: rest := by
  cases input with
  | nil => simp [readByte]
  | cons a input => simp [readByte]

theorem readRest_eq_ok {input : Bytes} {data : PacketDataBuffer} :
    readRest input = .ok data ↔ input = data.bytes := by
  unfold readRest
  constructor
  · intro h
    split at h
    case isTrue => cases h; rfl
    case isFalse => cases h
  · rintro rfl
    rw [dif_pos data.fits]

end Buffers

-- ====================================================== serialisation

/-- The transport address as it is written. -/
def Packet.transportBytes (p : Packet) : Bytes :=
  if p.header.headerType = .type2 then
    (p.transport.map List.Vector.toList).getD []
  else []

/-- The bytes of a packet. -/
def Packet.wire (p : Packet) : Bytes :=
  [p.header.toMeta, p.header.hops] ++ p.transportBytes
    ++ p.destination.toList ++ [p.context.code] ++ p.data.bytes

/-- A header of type 2 goes with a transport address. -/
def Packet.Addressed (p : Packet) : Prop :=
  p.header.headerType = .type2 → p.transport.isSome

/-- What a receiver sees of a packet. -/
def Packet.onWire (p : Packet) : Packet :=
  { p with
    ifac := none
    transport := if p.header.headerType = .type2 then p.transport
                 else none }

theorem serialize_eq {capacity : Nat} (p : Packet)
    (b : OutputBuffer capacity) : p.serialize b = b.write p.wire := by
  have hnil (b : OutputBuffer capacity) : b.write [] = .ok b := rfl
  unfold Packet.serialize Packet.wire Packet.transportBytes
  rw [write_append, write_append, write_append, write_append]
  simp only [bind_assoc]
  refine congrArg _ (funext fun b => ?_)
  split
  case isTrue =>
    cases p.transport with
    | none => rw [Option.map_none, Option.getD_none, hnil]; rfl
    | some transport => rfl
  case isFalse => rw [hnil]; rfl

theorem Packet.length_transportBytes (p : Packet) :
    p.transportBytes.length ≤ destinationLength := by
  unfold Packet.transportBytes
  split
  case isTrue =>
    cases p.transport with
    | none => simp
    | some transport => simp
  case isFalse => simp

/-- No packet is longer than its fields are. -/
theorem Packet.length_wire_le (p : Packet) :
    p.wire.length ≤ 3 + 2 * destinationLength + packetMdu := by
  have htransport := p.length_transportBytes
  have hdata := p.data.fits
  have hdestination := p.destination.toList_length
  unfold Packet.wire
  simp only [List.length_append, List.length_cons, List.length_nil]
  omega

-- ==================================================== deserialisation

theorem deserialize_header {input rest : Bytes} {h : Header} :
    Header.deserialize input = .ok (h, rest)
      ↔ input = h.toMeta :: h.hops :: rest := by
  rcases input with _ | ⟨byte, _ | ⟨hops, input⟩⟩
  · simp [Header.deserialize, readByte]
  · simp [Header.deserialize, readByte]
  · show Except.ok ({ Header.fromMeta byte with hops := hops }, input)
      = Except.ok (h, rest) ↔ _
    constructor
    · rintro ⟨⟩
      rw [show ({ Header.fromMeta byte with hops := hops } : Header).toMeta
        = byte from toMeta_fromMeta byte]
    · rintro ⟨⟩
      rw [fromMeta_toMeta]

theorem readTransport_transportBytes {p : Packet} (h : p.Addressed)
    (rest : Bytes) :
    readTransport p.header (p.transportBytes ++ rest)
      = .ok (p.onWire.transport, rest) := by
  unfold readTransport Packet.transportBytes Packet.onWire
  by_cases htype : p.header.headerType = .type2
  · obtain ⟨transport, htransport⟩ := Option.isSome_iff_exists.mp (h htype)
    simp only [if_pos htype, htransport, Option.map_some, Option.getD_some]
    rw [readFixed_append]
    rfl
  · simp only [if_neg htype]
    rfl

/-- The bytes of a packet with any context byte. -/
def Packet.wireWith (p : Packet) (context : UInt8) : Bytes :=
  [p.header.toMeta, p.header.hops] ++ p.transportBytes
    ++ p.destination.toList ++ [context] ++ p.data.bytes

theorem deserialize_wireWith {p : Packet} (h : p.Addressed)
    (context : UInt8) :
    Packet.deserialize (p.wireWith context)
      = .ok { p.onWire with context := .ofByte context } := by
  unfold Packet.deserialize Packet.wireWith
  simp only [List.append_assoc, List.cons_append, List.nil_append]
  rw [deserialize_header.mpr rfl, Except.ok_bind]
  simp only
  rw [readTransport_transportBytes h, Except.ok_bind]
  simp only
  rw [readFixed_append, Except.ok_bind]
  simp only
  rw [readByte_eq_ok.mpr rfl, Except.ok_bind]
  simp only
  rw [readRest_eq_ok.mpr rfl, Except.ok_bind]
  rfl

theorem deserialize_wire {p : Packet} (h : p.Addressed) :
    Packet.deserialize p.wire = .ok p.onWire := by
  have hread := deserialize_wireWith h p.context.code
  rw [PacketContext.ofByte_code] at hread
  exact hread

/-- A packet as another node reads it from an interface. -/
def Carried (packet packet' : Packet) : Prop :=
  Packet.deserialize packet.wire = .ok packet'

theorem carried_self {packet : Packet} (h : packet.Addressed)
    (honWire : packet.onWire = packet) : Carried packet packet := by
  unfold Carried
  rw [deserialize_wire h, honWire]

/-- A packet of a link has no transport address to lose. -/
theorem Carried.eq {packet packet' : Packet} (h : Carried packet packet')
    (htype : packet.header.headerType = .type1)
    (hifac : packet.ifac = none) (htransport : packet.transport = none) :
    packet' = packet := by
  have haddressed : packet.Addressed := by
    intro h2
    rw [htype] at h2
    cases h2
  unfold Carried at h
  rw [deserialize_wire haddressed] at h
  injection h with h
  rw [← h]
  unfold Packet.onWire
  rw [htype, if_neg (by decide), ← hifac, ← htransport]

/-- A transport address that was read is the one the header announced. -/
theorem transportBytes_of_readTransport {header : Header} {p : Packet}
    {input rest : Bytes}
    (h : readTransport header input = .ok (p.transport, rest))
    (hheader : p.header = header) :
    p.Addressed ∧ p.onWire.transport = p.transport
      ∧ input = p.transportBytes ++ rest := by
  subst hheader
  unfold readTransport at h
  unfold Packet.Addressed Packet.onWire Packet.transportBytes
  by_cases htype : p.header.headerType = .type2
  · rw [if_pos htype] at h
    obtain ⟨⟨address, afterAddress⟩, hread, hsame⟩ :=
      Except.bind_eq_ok.mp h
    rw [readFixed_eq_ok] at hread
    simp only [Except.pure_eq_ok, Except.ok.injEq, Prod.mk.injEq] at hsame
    obtain ⟨htransport, rfl⟩ := hsame
    simp [htype, htransport.symm, hread]
  · rw [if_neg htype] at h
    simp only [Except.pure_eq_ok, Except.ok.injEq, Prod.mk.injEq] at h
    obtain ⟨hnone, rfl⟩ := h
    simp [htype, hnone.symm]

/-- What was read is every byte of the input. -/
theorem wireWith_of_deserialize {input : Bytes} {p : Packet}
    (h : Packet.deserialize input = .ok p) :
    p.Addressed ∧ p.onWire = p ∧ ∃ context,
      p.context = .ofByte context ∧ input = p.wireWith context := by
  unfold Packet.deserialize at h
  obtain ⟨⟨header, afterHeader⟩, hheader, h⟩ := Except.bind_eq_ok.mp h
  obtain ⟨⟨transport, afterTransport⟩, htransport, h⟩ :=
    Except.bind_eq_ok.mp h
  obtain ⟨⟨destination, afterDestination⟩, hdestination, h⟩ :=
    Except.bind_eq_ok.mp h
  obtain ⟨⟨context, afterContext⟩, hcontext, h⟩ := Except.bind_eq_ok.mp h
  obtain ⟨data, hdata, h⟩ := Except.bind_eq_ok.mp h
  rw [deserialize_header] at hheader
  rw [readFixed_eq_ok] at hdestination
  rw [readByte_eq_ok] at hcontext
  rw [readRest_eq_ok] at hdata
  injection h with h
  subst h
  obtain ⟨haddressed, honWire, hinput⟩ :=
    transportBytes_of_readTransport (p := ⟨header, none, destination,
      transport, .ofByte context, data⟩) htransport rfl
  refine ⟨haddressed, ?_, context, rfl, ?_⟩
  · exact congrArg (Packet.mk header none destination · _ data) honWire
  · unfold Packet.wireWith
    simp [hheader, hinput, hdestination, hcontext, hdata]

/-- Serialising succeeds exactly when there is room, and then writes the
bytes of the packet; reading them back gives the packet as a receiver can
know it, exactly when a transport address goes with a header that
announces one. -/
theorem packet_round_trip (capacity : Nat) (p : Packet) :
    ((∃ out, p.serialize (.new : OutputBuffer capacity) = .ok out)
        ↔ p.wire.length ≤ capacity)
      ∧ ∀ out, p.serialize (.new : OutputBuffer capacity) = .ok out →
        out.bytes = p.wire
          ∧ (Packet.deserialize out.bytes = .ok p.onWire
            ↔ p.Addressed) := by
  have hwrite : p.serialize (.new : OutputBuffer capacity)
      = OutputBuffer.new.write p.wire := serialize_eq p .new
  by_cases hroom : p.wire.length ≤ capacity
  · have hwritten := @write_of_fits capacity .new p.wire (by
      show 0 + _ ≤ _
      omega)
    rw [hwrite, hwritten]
    refine ⟨⟨fun _ => hroom, fun _ => ⟨_, rfl⟩⟩, ?_⟩
    rintro out ⟨⟩
    refine ⟨rfl, ?_⟩
    show Packet.deserialize p.wire = _ ↔ _
    constructor
    · intro hread htype
      have haddressed := (wireWith_of_deserialize hread).1 htype
      unfold Packet.onWire at haddressed
      rwa [if_pos htype] at haddressed
    · exact deserialize_wire
  · have hfull := @write_of_lt capacity .new p.wire (by
      show _ < 0 + _
      omega)
    rw [hwrite, hfull]
    refine ⟨⟨?_, fun h => absurd h hroom⟩, ?_⟩
    · rintro ⟨out, ⟨⟩⟩
    · rintro out ⟨⟩

/-- A packet that was read and is sent on is read by the next node as
the same packet, its hop count included. Its bytes are those that came
in, unless the context byte was none of the known ones. -/
theorem relayed_packet (input : Bytes) (p : Packet)
    (h : Packet.deserialize input = .ok p) :
    Packet.deserialize p.wire = .ok p
      ∧ ∃ context, p.context = .ofByte context
        ∧ input = p.wireWith context
        ∧ (p.wire = input ↔ p.context.code = context) := by
  obtain ⟨haddressed, honWire, context, hcontext, hinput⟩ :=
    wireWith_of_deserialize h
  refine ⟨?_, context, hcontext, hinput, ?_⟩
  · rw [deserialize_wire haddressed, honWire]
  · rw [hinput]
    show p.wireWith p.context.code = _ ↔ _
    unfold Packet.wireWith
    rw [List.append_cancel_right_eq, List.append_cancel_left_eq,
      List.singleton_inj]

/-- A packet with a context that nobody knows, on its third hop. -/
def docBytes : Bytes :=
  [0x00, 0x03] ++ List.replicate destinationLength 0x11
    ++ [0x77, 0x68, 0x69]

theorem relayed_packet_doc :
    ∃ p, Packet.deserialize docBytes = .ok p
      ∧ Packet.deserialize p.wire = .ok p
      ∧ ∃ context, p.context = .ofByte context
        ∧ docBytes = p.wireWith context
        ∧ (p.wire = docBytes ↔ p.context.code = context) :=
  ⟨_, rfl, relayed_packet docBytes _ rfl⟩

-- ============================================================ lengths

/-- A reader that fails short of `least` bytes, and panics on more data
behind them than a packet holds. -/
structure Needs {α : Type} (least : Nat)
    (read : Bytes → Except Fault α) : Prop where
  short : ∀ input, input.length < least →
    read input = .error (.error .outOfMemory)
  long : ∀ input, least + packetMdu < input.length →
    read input = .error .panic
  enough : ∀ input, least ≤ input.length →
    input.length ≤ least + packetMdu → ∃ a, read input = .ok a

section Lengths

variable {α β : Type} {least n : Nat}

theorem needs_readRest : Needs 0 readRest where
  short input h := absurd h (Nat.not_lt_zero _)
  long input h := by
    unfold readRest
    rw [dif_neg (by omega)]
  enough input _ h := by
    unfold readRest
    rw [dif_pos (by omega)]
    exact ⟨_, rfl⟩

theorem Needs.map {read : Bytes → Except Fault α}
    (h : Needs least read) (f : α → β) :
    Needs least fun input => read input >>= fun a => pure (f a) where
  short input hlt := by rw [h.short input hlt]; rfl
  long input hlt := by rw [h.long input hlt]; rfl
  enough input hle hmdu := by
    obtain ⟨a, ha⟩ := h.enough input hle hmdu
    exact ⟨f a, by rw [ha]; rfl⟩

theorem Needs.readFixed {f : FixedBytes n → Bytes → Except Fault α}
    (h : ∀ v, Needs least (f v)) :
    Needs (n + least)
      fun input => readFixed n input >>= fun r => f r.1 r.2 where
  short input hlt := by
    unfold Reticulum.readFixed
    split
    case isTrue hle =>
      refine (h _).short _ ?_
      rw [List.length_drop]
      omega
    case isFalse => rfl
  long input hlt := by
    unfold Reticulum.readFixed
    rw [dif_pos (by omega)]
    refine (h _).long _ ?_
    rw [List.length_drop]
    omega
  enough input hle hmdu := by
    unfold Reticulum.readFixed
    rw [dif_pos (by omega)]
    refine (h _).enough _ ?_ ?_ <;> rw [List.length_drop] <;> omega

theorem Needs.readByte {f : UInt8 → Bytes → Except Fault α}
    (h : ∀ byte, Needs least (f byte)) :
    Needs (1 + least)
      fun input => readByte input >>= fun r => f r.1 r.2 where
  short input hlt := by
    cases input with
    | nil => rfl
    | cons byte input =>
        rw [List.length_cons] at hlt
        exact (h byte).short input (by omega)
  long input hlt := by
    cases input with
    | nil => simp at hlt
    | cons byte input =>
        rw [List.length_cons] at hlt
        exact (h byte).long input (by omega)
  enough input hle hmdu := by
    cases input with
    | nil => rw [List.length_nil] at hle; omega
    | cons byte input =>
        rw [List.length_cons] at hle hmdu
        exact (h byte).enough input (by omega) (by omega)

end Lengths

/-- A packet behind its header and its transport address. -/
theorem needs_destination (header : Header) (transport : Option Hash16) :
    Needs (1 + destinationLength) fun input => do
      let (destination, input) ← readFixed destinationLength input
      let (context, input) ← readByte input
      let data ← readRest input
      return ({ header, ifac := none, destination, transport,
                context := .ofByte context, data } : Packet) := by
  have hdata (destination : Hash16) (context : UInt8) :=
    needs_readRest.map fun data => Packet.mk header none destination
      transport (.ofByte context) data
  exact Needs.readFixed fun destination =>
    Needs.readByte fun context => hdata destination context

/-- The fewest bytes of a packet that starts with these. -/
def leastLength (input : Bytes) : Nat :=
  match input with
  | byte :: _ =>
      if (Header.fromMeta byte).headerType = .type2 then
        3 + 2 * destinationLength
      else 3 + destinationLength
  | [] => 3 + destinationLength

/-- A packet behind its header. -/
theorem needs_body (header : Header) :
    Needs (if header.headerType = .type2 then 1 + 2 * destinationLength
        else 1 + destinationLength) fun input => do
      let (transport, input) ← readTransport header input
      let (destination, input) ← readFixed destinationLength input
      let (context, input) ← readByte input
      let data ← readRest input
      return ({ header, ifac := none, destination, transport,
                context := .ofByte context, data } : Packet) := by
  unfold readTransport
  by_cases htype : header.headerType = .type2
  · simp only [if_pos htype, bind_assoc, pure_bind]
    exact Needs.readFixed fun transport =>
      needs_destination header (some transport)
  · simp only [if_neg htype, pure_bind]
    exact needs_destination header none

/-- How reading a packet ends, by the number of bytes there are. -/
theorem deserialize_length (input : Bytes) :
    (input.length < leastLength input →
        Packet.deserialize input = .error (.error .outOfMemory))
      ∧ (leastLength input + packetMdu < input.length →
          Packet.deserialize input = .error .panic)
      ∧ (leastLength input ≤ input.length →
          input.length ≤ leastLength input + packetMdu →
          ∃ p, Packet.deserialize input = .ok p) := by
  rcases input with _ | ⟨byte, _ | ⟨hops, input⟩⟩
  · simp [leastLength, Packet.deserialize, Header.deserialize, readByte]
  · have hleast : 1 < leastLength [byte] := by
      show 1 < if _ then _ else _
      split <;> decide
    refine ⟨fun _ => rfl, fun h => ?_, fun h => ?_⟩
    · rw [List.length_singleton] at h
      omega
    · rw [List.length_singleton] at h
      omega
  · have hbody : Needs (if (Header.fromMeta byte).headerType = .type2 then
        1 + 2 * destinationLength else 1 + destinationLength) _ :=
      needs_body { Header.fromMeta byte with hops := hops }
    have hleast : leastLength (byte :: hops :: input)
        = 2 + if (Header.fromMeta byte).headerType = .type2 then
            1 + 2 * destinationLength
          else 1 + destinationLength := by
      show (if _ then _ else _) = _
      split <;> rfl
    rw [hleast, List.length_cons, List.length_cons]
    refine ⟨fun h => ?_, fun h => ?_, fun h hmdu => ?_⟩
    · exact hbody.short input (by omega)
    · exact hbody.long input (by omega)
    · exact hbody.enough input (by omega) (by omega)

end Lxmf.Reticulum
