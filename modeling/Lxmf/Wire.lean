/-
Reticulum packets and the bytes they travel as
(reticulum-patched/src/packet.rs, serde.rs, buffer.rs, hash.rs).

# Whole packets

`Lxmf.Packet` keeps what LXMF sets and reads. Here a packet has every
field of the source, since each of them is written, read or left out
somewhere on the way; `Packet.ofLxmf` is the packet that LXMF builds.

# Buffers

An `OutputBuffer` is what has been written to it, within its capacity.
An `InputBuffer` is what is left to read. A slice out of range panics,
which ends the task it happens in: `Fault.panic`, next to the errors a
call returns.
-/
import Lxmf.Transport

namespace Lxmf.Reticulum

-- ============================================================== errors

/-- The errors of reading and writing. -/
inductive RnsError where
  | outOfMemory
  | invalidArgument
  | incorrectSignature
  | incorrectHash
  | cryptoError
  | packetError
  | connectionError
deriving DecidableEq, Repr

/-- How a call ends that returns no value. -/
inductive Fault where
  | error (e : RnsError)
  | panic
deriving DecidableEq, Repr

-- ============================================================= buffers

/-- An `OutputBuffer` over a slice of `capacity` bytes. -/
structure OutputBuffer (capacity : Nat) where
  bytes : Bytes
  fits : bytes.length ≤ capacity
deriving DecidableEq

namespace OutputBuffer

variable {capacity : Nat}

def new : OutputBuffer capacity := ⟨[], Nat.zero_le capacity⟩

/-- A slice that does not fit is not written at all. -/
def write (b : OutputBuffer capacity) (data : Bytes) :
    Except Fault (OutputBuffer capacity) :=
  if data.length = 0 then .ok b
  else if h : b.bytes.length + data.length ≤ capacity then
    .ok ⟨b.bytes ++ data, by rwa [List.length_append]⟩
  else .error (.error .outOfMemory)

def writeByte (b : OutputBuffer capacity) (byte : UInt8) :
    Except Fault (OutputBuffer capacity) :=
  b.write [byte]

end OutputBuffer

/-- `InputBuffer::read` into an array of `n` bytes. -/
def readFixed (n : Nat) (input : Bytes) :
    Except Fault (FixedBytes n × Bytes) :=
  if h : n ≤ input.length then
    .ok (⟨input.take n, List.length_take_of_le h⟩, input.drop n)
  else .error (.error .outOfMemory)

/-- `InputBuffer::read_byte`. -/
def readByte (input : Bytes) : Except Fault (UInt8 × Bytes) :=
  match input with
  | [] => .error (.error .outOfMemory)
  | byte :: rest => .ok (byte, rest)

/-- `accuire_buf` for all that is left, then `read` into it. -/
def readRest (input : Bytes) : Except Fault PacketDataBuffer :=
  if h : input.length ≤ packetMdu then .ok ⟨input, h⟩ else .error .panic

/-- `StaticBuffer::safe_write`: what does not fit is cut off. -/
def safeWrite (buffer : PacketDataBuffer) (data : Bytes) :
    PacketDataBuffer :=
  ⟨buffer.bytes ++ data.take (packetMdu - buffer.bytes.length), by
    have h := buffer.fits
    rw [List.length_append, List.length_take]
    omega⟩

/-- `StaticBuffer::write`, and `chain_write`. -/
def writeData (buffer : PacketDataBuffer) (data : Bytes) :
    Except Fault PacketDataBuffer :=
  if data.length = 0 then .ok buffer
  else if h : buffer.bytes.length + data.length ≤ packetMdu then
    .ok ⟨buffer.bytes ++ data, by rwa [List.length_append]⟩
  else .error (.error .outOfMemory)

/-- `StaticBuffer::new`. -/
def emptyData : PacketDataBuffer := ⟨[], Nat.zero_le _⟩

-- ============================================================= headers

inductive IfacFlag where
  | open_
  | authenticated
deriving DecidableEq

/-- Whether a transport address goes with the destination. -/
inductive HeaderType where
  | type1
  | type2
deriving DecidableEq

/-- Whether a packet is for the next node or for all. -/
inductive PropagationType where
  | broadcast
  | transport
  | reserved1
  | reserved2
deriving DecidableEq

def IfacFlag.code : IfacFlag → UInt8
  | .open_ => 0b0
  | .authenticated => 0b1

/-- The bits of a flag in the meta byte, and the flag of two bits. -/
def HeaderType.code : HeaderType → UInt8
  | .type1 => 0b0
  | .type2 => 0b1

def PropagationType.code : PropagationType → UInt8
  | .broadcast => 0b00
  | .transport => 0b01
  | .reserved1 => 0b10
  | .reserved2 => 0b11

def IfacFlag.ofByte (value : UInt8) : IfacFlag :=
  if value = 0 then .open_ else if value = 1 then .authenticated else .open_

def HeaderType.ofByte (value : UInt8) : HeaderType :=
  if value &&& 0b1 = 1 then .type2 else .type1

def PropagationType.ofByte (value : UInt8) : PropagationType :=
  if value &&& 0b11 = 0b01 then .transport
  else if value &&& 0b11 = 0b10 then .reserved1
  else if value &&& 0b11 = 0b11 then .reserved2
  else .broadcast

def destinationTypeOfByte (value : UInt8) : DestinationType :=
  if value &&& 0b11 = 0b01 then .group
  else if value &&& 0b11 = 0b10 then .plain
  else if value &&& 0b11 = 0b11 then .link
  else .single

def packetTypeOfByte (value : UInt8) : PacketType :=
  if value &&& 0b11 = 0b01 then .announce
  else if value &&& 0b11 = 0b10 then .linkRequest
  else if value &&& 0b11 = 0b11 then .proof
  else .data

/-- The first two bytes of a packet. -/
structure Header where
  ifacFlag : IfacFlag := .open_
  headerType : HeaderType := .type1
  propagationType : PropagationType := .broadcast
  destinationType : DestinationType := .single
  packetType : PacketType := .data
  hops : UInt8 := 0
deriving DecidableEq

/-- `to_meta`: four flags in one byte. -/
def Header.toMeta (h : Header) : UInt8 :=
  h.ifacFlag.code <<< 7 ||| h.headerType.code <<< 6
    ||| h.propagationType.code <<< 4 ||| h.destinationType.code <<< 2
    ||| h.packetType.code <<< 0

/-- `from_meta`. -/
def Header.fromMeta (byte : UInt8) : Header where
  ifacFlag := .ofByte (byte >>> 7)
  headerType := .ofByte (byte >>> 6)
  propagationType := .ofByte (byte >>> 4)
  destinationType := destinationTypeOfByte (byte >>> 2)
  packetType := packetTypeOfByte (byte >>> 0)
  hops := 0

-- ============================================================ contexts

/-- What a packet is about; most numbers stand for none. -/
inductive PacketContext where
  | none
  | resource
  | resourceAdvertisement
  | resourceRequest
  | resourceHashUpdate
  | resourceProof
  | resourceInitiatorCancel
  | resourceReceiverCancel
  | cacheRequest
  | request
  | response
  | pathResponse
  | command
  | commandStatus
  | channel
  | keepAlive
  | linkIdentify
  | linkClose
  | linkProof
  | linkRtt
  | linkRequestProof
deriving DecidableEq

/-- The byte of a context. -/
def PacketContext.code : PacketContext → UInt8
  | .none => 0x00
  | .resource => 0x01
  | .resourceAdvertisement => 0x02
  | .resourceRequest => 0x03
  | .resourceHashUpdate => 0x04
  | .resourceProof => 0x05
  | .resourceInitiatorCancel => 0x06
  | .resourceReceiverCancel => 0x07
  | .cacheRequest => 0x08
  | .request => 0x09
  | .response => 0x0a
  | .pathResponse => 0x0b
  | .command => 0x0c
  | .commandStatus => 0x0d
  | .channel => 0x0e
  | .keepAlive => 0xfa
  | .linkIdentify => 0xfb
  | .linkClose => 0xfc
  | .linkProof => 0xfd
  | .linkRtt => 0xfe
  | .linkRequestProof => 0xff

/-- `From<u8>`: a byte that is no context reads as `None`. -/
def PacketContext.ofByte (value : UInt8) : PacketContext :=
  if value = 0x01 then .resource
  else if value = 0x02 then .resourceAdvertisement
  else if value = 0x03 then .resourceRequest
  else if value = 0x04 then .resourceHashUpdate
  else if value = 0x05 then .resourceProof
  else if value = 0x06 then .resourceInitiatorCancel
  else if value = 0x07 then .resourceReceiverCancel
  else if value = 0x08 then .cacheRequest
  else if value = 0x09 then .request
  else if value = 0x0a then .response
  else if value = 0x0b then .pathResponse
  else if value = 0x0c then .command
  else if value = 0x0d then .commandStatus
  else if value = 0x0e then .channel
  else if value = 0xfa then .keepAlive
  else if value = 0xfb then .linkIdentify
  else if value = 0xfc then .linkClose
  else if value = 0xfd then .linkProof
  else if value = 0xfe then .linkRtt
  else if value = 0xff then .linkRequestProof
  else .none

-- ============================================================= packets

/-- `PacketIfac`: the access code as far as it is used. -/
structure PacketIfac where
  accessCode : Bytes
  fits : accessCode.length ≤ 64
deriving DecidableEq

/-- A packet, with the transport address that a header of the second type
announces. -/
structure Packet where
  header : Header
  ifac : Option PacketIfac
  destination : Hash16
  transport : Option Hash16
  context : PacketContext
  data : PacketDataBuffer
deriving DecidableEq

section Serde

variable {capacity : Nat}

/-- `Packet::serialize`. The access code is never written. -/
def Packet.serialize (p : Packet) (buffer : OutputBuffer capacity) :
    Except Fault (OutputBuffer capacity) := do
  let buffer ← buffer.write [p.header.toMeta, p.header.hops]
  let buffer ←
    if p.header.headerType = .type2 then
      match p.transport with
      | some transport => buffer.write transport.toList
      | none => pure buffer
    else pure buffer
  let buffer ← buffer.write p.destination.toList
  let buffer ← buffer.write [p.context.code]
  buffer.write p.data.bytes

def Header.deserialize (input : Bytes) : Except Fault (Header × Bytes) := do
  let (byte, input) ← readByte input
  let (hops, input) ← readByte input
  return ({ Header.fromMeta byte with hops }, input)

/-- The transport address, which only a header of type 2 announces. -/
def readTransport (header : Header) (input : Bytes) :
    Except Fault (Option Hash16 × Bytes) := do
  if header.headerType = .type2 then
    let (transport, input) ← readFixed destinationLength input
    return (some transport, input)
  else return (none, input)

/-- `deserialize`: all that follows the context is data. -/
def Packet.deserialize (input : Bytes) : Except Fault Packet := do
  let (header, input) ← Header.deserialize input
  let (transport, input) ← readTransport header input
  let (destination, input) ← readFixed destinationLength input
  let (context, input) ← readByte input
  let data ← readRest input
  return { header, ifac := none, destination, transport,
           context := .ofByte context, data }

end Serde

-- ============================================================== hashes

section Hashes

variable (P : Platform)

/-- `AddressHash::new_from_hash`. -/
def addressHashOf (hash : Hash32) : Hash16 :=
  ⟨hash.toList.take destinationLength, by
    simp [destinationLength, hashLength]⟩

/-- What `Packet::hash` and a link id hash of a packet, with `data` for
its data. -/
def Packet.hashed (p : Packet) (data : Bytes) : Bytes :=
  (p.header.toMeta &&& 0b00001111)
    :: p.destination.toList ++ p.context.code :: data

/-- The hash of a packet, the same before and after it was relayed. -/
def Packet.hash (p : Packet) : Hash32 := P.sha256 (p.hashed p.data.bytes)

abbrev publicKeyLength : Nat := 32

/-- `LinkId::from`: of the data only the two keys count. -/
def linkId (p : Packet) : Hash16 :=
  addressHashOf (P.sha256 (p.hashed
    (p.data.bytes.take (publicKeyLength * 2))))

end Hashes

-- ======================================================== LXMF packets

def PacketContext.ofLxmf : Lxmf.PacketContext → PacketContext
  | .none => .none
  | .resource => .resource
  | .resourceAdvertisement => .resourceAdvertisement
  | .resourceRequest => .resourceRequest
  | .resourceHashUpdate => .resourceHashUpdate
  | .resourceProof => .resourceProof
  | .resourceInitiatorCancel => .resourceInitiatorCancel
  | .resourceReceiverCancel => .resourceReceiverCancel
  | .request => .request
  | .response => .response

/-- The packet that `packet_from_payload_with_context` builds. -/
def Packet.ofLxmf (p : Lxmf.Packet) : Packet where
  header := { destinationType := p.destinationType
              packetType := p.packetType }
  ifac := none
  destination := p.destination
  transport := none
  context := .ofLxmf p.context
  data := p.data

end Lxmf.Reticulum
