/-
How packets get on a wire and off it again
(reticulum-patched/src/iface/hdlc.rs, iface/tcp_client.rs, iface/udp.rs).

# Buffers

The buffers of an interface are multiples of `size_of::<Packet>()`, which
is the compiler's choice: `packetSize` here, of which `HoldsFields` says
that the fields a packet is written from find room in it. A buffer that
is filled from its start anew for each frame is not kept between frames.

# Tasks

An interface runs a receive task and a transmit task. A panic ends its
task and nothing else: the TCP client sees it when it joins both tasks
after the transmit task, the UDP interface too, and the transmit task of
either goes on until it is stopped.
-/
import Lxmf.Wire

namespace Lxmf.Reticulum

-- =============================================================== HDLC

def hdlcFrameFlag : UInt8 := 0x7e
def hdlcEscapeByte : UInt8 := 0x7d
def hdlcEscapeMask : UInt8 := 0b00100000

namespace Hdlc

variable {capacity : Nat}

/-- The loop body of `Hdlc::encode`. -/
def encodeByte (buffer : OutputBuffer capacity) (byte : UInt8) :
    Except Fault (OutputBuffer capacity) :=
  if byte = hdlcFrameFlag ∨ byte = hdlcEscapeByte then
    buffer.write [hdlcEscapeByte, byte ^^^ hdlcEscapeMask]
  else buffer.writeByte byte

/-- A frame: the data, with flags and escapes escaped, between two
flags. -/
def encode (data : Bytes) (buffer : OutputBuffer capacity) :
    Except Fault (OutputBuffer capacity) := do
  let buffer ← buffer.writeByte hdlcFrameFlag
  let buffer ← data.foldlM encodeByte buffer
  buffer.writeByte hdlcFrameFlag

/-- The loop of `Hdlc::find`, from the index `i` on, with the start of a
frame if one was seen. -/
def findFrom (i : Nat) (start : Option Nat) : Bytes → Option (Nat × Nat)
  | [] => none
  | byte :: data =>
      if byte ≠ hdlcFrameFlag then findFrom (i + 1) start data
      else
        match start with
        | none => findFrom (i + 1) (some i) data
        | some start => some (start, i)

/-- The indices of the first two flags. -/
def find (data : Bytes) : Option (Nat × Nat) := findFrom 0 none data

/-- The loop of `Hdlc::decode`. -/
def decodeFrom (started escape : Bool) (output : OutputBuffer capacity) :
    Bytes → Except Fault (OutputBuffer capacity)
  | [] => .error (.error .outOfMemory)
  | byte :: data =>
      if escape then do
        let output ← output.writeByte (byte ^^^ hdlcEscapeMask)
        decodeFrom started false output data
      else if byte = hdlcFrameFlag then
        if started then .ok output
        else decodeFrom true false output data
      else if byte = hdlcEscapeByte then
        decodeFrom started true output data
      else do
        let output ← output.writeByte byte
        decodeFrom started false output data

/-- What stands in the first frame; behind its end nothing is read. -/
def decode (data : Bytes) (output : OutputBuffer capacity) :
    Except Fault (OutputBuffer capacity) :=
  decodeFrom false false output data

end Hdlc

-- ================================================================ TCP

/-- The fields a packet is written from have room in a `Packet`. -/
def HoldsFields (packetSize : Nat) : Prop :=
  6 + destinationLength + (1 + destinationLength) + 1 + packetMdu
    ≤ packetSize

instance (packetSize : Nat) : Decidable (HoldsFields packetSize) :=
  inferInstanceAs (Decidable (_ ≤ _))

section Tcp

variable (packetSize : Nat)

/-- `BUFFER_SIZE` of the TCP client. -/
def tcpBufferSize : Nat := packetSize * 2

/-- What the transmit task writes to the stream for a packet. -/
def tcpSend (p : Packet) : Bytes :=
  match p.serialize (.new : OutputBuffer (tcpBufferSize packetSize)) with
  | .ok output =>
      match Hdlc.encode output.bytes
          (.new : OutputBuffer (tcpBufferSize packetSize)) with
      | .ok frame => frame.bytes
      | .error _ => []
  | .error _ => []

/-- The receive task: `rx_buffer`, what it has passed on, and whether it
has panicked. -/
structure TcpReceiver where
  rxBuffer : Bytes
  received : List Packet
  crashed : Bool
deriving DecidableEq

def TcpReceiver.start : TcpReceiver where
  rxBuffer := List.replicate
    (tcpBufferSize packetSize + tcpBufferSize packetSize / 2) 0
  received := []
  crashed := false

/-- `copy_within(1.., 0)`. -/
def shiftLeft (buffer : Bytes) : Bytes :=
  buffer.drop 1 ++ buffer.drop (buffer.length - 1)

/-- `fill(0)` of the bytes from `first` to `last`. -/
def fillZero (buffer : Bytes) (first last : Nat) : Bytes :=
  buffer.take first ++ List.replicate (last + 1 - first) 0
    ++ buffer.drop (last + 1)

/-- A frame, decoded and deserialised. -/
def readFrame (frame : Bytes) : Except Fault Packet := do
  let output ← Hdlc.decode frame
    (.new : OutputBuffer (tcpBufferSize packetSize))
  Packet.deserialize output.bytes

/-- One byte of the stream. -/
def TcpReceiver.push (rx : TcpReceiver) (byte : UInt8) : TcpReceiver :=
  if rx.crashed then rx
  else
    let buffer := rx.rxBuffer.set (tcpBufferSize packetSize - 1) byte
    match Hdlc.find buffer with
    | some (first, last) =>
        let frame := (buffer.take (last + 1)).drop first
        match readFrame packetSize frame with
        | .ok packet =>
            { rx with rxBuffer := fillZero buffer first last
                      received := rx.received ++ [packet] }
        | .error .panic => { rx with rxBuffer := buffer, crashed := true }
        | .error (.error _) =>
            { rx with rxBuffer := fillZero buffer first last }
    | none => { rx with rxBuffer := shiftLeft buffer }

/-- The bytes of one `read` of the stream. -/
def TcpReceiver.read (rx : TcpReceiver) (tcpBuffer : Bytes) :
    TcpReceiver :=
  tcpBuffer.foldl (TcpReceiver.push packetSize) rx

end Tcp

-- ================================================================ UDP

section Udp

variable (packetSize : Nat)

/-- `BUFFER_SIZE` of the UDP interface. -/
def udpBufferSize : Nat := packetSize * 3

/-- What the transmit task sends for a packet. -/
def udpSend (p : Packet) : Option Bytes :=
  match p.serialize (.new : OutputBuffer (udpBufferSize packetSize)) with
  | .ok output => some output.bytes
  | .error _ => none

/-- The interface: whether it has a forward address, whether its receive
task runs, how often it has bound its socket, the packets it has passed on
and the datagrams it has sent. -/
structure UdpInterface where
  forwards : Bool
  receiving : Bool
  bindings : Nat
  received : List Packet
  sent : List Bytes
deriving DecidableEq

/-- An interface that has just bound its socket. -/
def UdpInterface.bound (forwards : Bool) : UdpInterface where
  forwards
  receiving := true
  bindings := 1
  received := []
  sent := []

/-- Both tasks have ended, and the loop of `spawn` binds a socket and
starts them again. It tries until that succeeds, and nothing is read or
sent in the meantime. -/
def UdpInterface.rebind (udp : UdpInterface) : UdpInterface :=
  { udp with bindings := udp.bindings + 1 }

/-- `recv_from` returns a datagram, cut at the end of the buffer. An empty
one stops both tasks. The panic ends the receive task: the loop waits for
the transmit task first, which goes on, and without one it panics too. -/
def UdpInterface.receive (udp : UdpInterface) (datagram : Bytes) :
    UdpInterface :=
  if ¬ udp.receiving then udp
  else if datagram = [] then udp.rebind
  else
    match Packet.deserialize
        (datagram.take (udpBufferSize packetSize)) with
    | .ok packet => { udp with received := udp.received ++ [packet] }
    | .error .panic => { udp with receiving := false }
    | .error (.error _) => udp

/-- `recv_from` returns an error, which ends the receive task and does not
stop the transmit task. -/
def UdpInterface.fail (udp : UdpInterface) : UdpInterface :=
  if ¬ udp.receiving then udp
  else if udp.forwards then { udp with receiving := false }
  else udp.rebind

/-- A packet goes out, if there is an address to send it to. -/
def UdpInterface.transmit (udp : UdpInterface) (p : Packet) :
    UdpInterface :=
  if udp.forwards then
    { udp with sent := udp.sent ++ (udpSend packetSize p).toList }
  else udp

/-- What an interface sees: a datagram or an error of its socket, and a
packet to send. -/
inductive UdpEvent where
  | datagram (bytes : Bytes)
  | recvError
  | packet (p : Packet)

/-- One event, of either task. -/
def UdpInterface.step (udp : UdpInterface) :
    UdpEvent → UdpInterface
  | .datagram bytes => udp.receive packetSize bytes
  | .recvError => udp.fail
  | .packet p => udp.transmit packetSize p

end Udp

end Lxmf.Reticulum
