/-
One node of the network (reticulum-patched/src/transport.rs,
transport/packet_cache.rs, iface.rs).

# Steps

Everything a node knows is behind one lock. A `handle_*` function and
most calls of `Transport` hold it from their start to their end, and are
one step each. `Transport::link` takes it three times: it looks for a
link, it sends the request of a new one, and it puts the link into the
table. A call that is between two of these is in `Node.calls`, and other
steps may come between them.

# Effects

A step returns what it hands to the interfaces and to the channels of
events, in order. The packet cache is written by every packet sent and
read by none.

# Draws

Secrets and initialisation vectors are arguments; of a loop over links,
one vector for each key of the table.
-/
import Lxmf.Link

namespace Lxmf

-- ============================================================ hash maps

section HashMaps

variable {K V : Type} [DecidableEq K]

/-- Every value of a map is changed in place. -/
def HashMap.mapValues (m : HashMap K V) (f : K → V → V) : HashMap K V where
  entries := m.entries.map fun e => ⟨e.1, f e.1 e.2⟩
  nodupKeys := by
    have h := m.nodupKeys
    unfold List.NodupKeys List.keys at h ⊢
    rwa [List.map_map]

theorem HashMap.mem_entries_iff {m : HashMap K V} {k : K} {v : V} :
    Sigma.mk k v ∈ m.entries ↔ m.lookup k = some v :=
  AList.mem_lookup_iff.symm

theorem HashMap.lookup_mapValues (m : HashMap K V) (f : K → V → V)
    (k : K) : (m.mapValues f).lookup k = (m.lookup k).map (f k) := by
  refine Option.ext fun v => ?_
  rw [← Option.mem_def, AList.mem_lookup_iff]
  unfold HashMap.mapValues
  rw [List.mem_map, Option.map_eq_some_iff]
  constructor
  · rintro ⟨⟨k', v'⟩, hmem, heq⟩
    obtain ⟨rfl, hv⟩ := Sigma.mk.inj heq
    exact ⟨v', HashMap.mem_entries_iff.mp hmem, eq_of_heq hv⟩
  · rintro ⟨v', hmem, rfl⟩
    exact ⟨⟨k, v'⟩, HashMap.mem_entries_iff.mpr hmem, rfl⟩

end HashMaps

end Lxmf

namespace Lxmf.Reticulum

-- =========================================================== interfaces

/-- Out of every interface but the one it came in by, or out of one. -/
inductive TxMessageType where
  | broadcast (source : Option Hash16)
  | direct (address : Hash16)
deriving DecidableEq

/-- A packet on its way out. -/
structure TxMessage where
  txType : TxMessageType
  packet : Packet
deriving DecidableEq

/-- A packet that came in, with its interface. -/
structure RxMessage where
  address : Hash16
  packet : Packet
deriving DecidableEq

/-- A packet to every interface. -/
def TxMessage.toAll (packet : Packet) : TxMessage :=
  ⟨.broadcast none, packet⟩

/-- `LocalInterface`, with its token. -/
structure LocalInterface where
  address : Hash16
  stopped : Bool
deriving DecidableEq

/-- The interfaces, and how many there have been. -/
structure InterfaceManager where
  counter : Nat
  ifaces : List LocalInterface
deriving DecidableEq

/-- `usize::to_le_bytes`. -/
def leBytes (n : Nat) : Bytes :=
  (List.range 8).map fun i => UInt8.ofNat (n / 256 ^ i)

namespace InterfaceManager

/-- No interface yet. -/
def new : InterfaceManager := ⟨0, []⟩

/-- `new_channel`: the address of the interface and the manager. -/
def newChannel (P : Platform) (m : InterfaceManager) :
    Hash16 × InterfaceManager :=
  let address := addressHashOf (P.sha256 (leBytes (m.counter + 1)))
  (address, ⟨m.counter + 1, m.ifaces ++ [⟨address, false⟩]⟩)

/-- The worker of an interface ends, and cancels its token. -/
def stop (m : InterfaceManager) (address : Hash16) : InterfaceManager :=
  { m with ifaces := m.ifaces.map fun iface =>
      if iface.address = address then { iface with stopped := true }
      else iface }

/-- Those that have stopped go. -/
def cleanup (m : InterfaceManager) : InterfaceManager :=
  { m with ifaces := m.ifaces.filter fun iface => !iface.stopped }

/-- `should_send`. -/
def shouldSend (txType : TxMessageType) (iface : LocalInterface) : Bool :=
  match txType with
  | .broadcast none => true
  | .broadcast (some address) => decide (address ≠ iface.address)
  | .direct address => decide (address = iface.address)

/-- `send`: the interfaces a message is handed to. -/
def send (m : InterfaceManager) (message : TxMessage) : List Hash16 :=
  (m.ifaces.filter fun iface =>
    shouldSend message.txType iface && !iface.stopped).map (·.address)

end InterfaceManager

-- ============================================================ the cache

/-- When a packet was last seen, and the fewest hops it had. -/
structure PacketTrack where
  time : Nat
  minHops : UInt8
deriving DecidableEq

/-- Packets by their hashes. -/
abbrev PacketCache := HashMap Hash32 PacketTrack

namespace PacketCache

/-- Whether the packet is new. One that is not is dated anew. -/
def update (P : Platform) (cache : PacketCache) (packet : Packet)
    (now : Nat) : Bool × PacketCache :=
  let hash := packet.hash P
  match cache.lookup hash with
  | some track =>
      (false, cache.insert hash
        ⟨now, min packet.header.hops track.minHops⟩)
  | none => (true, cache.insert hash ⟨now, packet.header.hops⟩)

/-- What was not seen for the duration is forgotten. -/
def release (cache : PacketCache) (duration now : Nat) : PacketCache :=
  cache.retain fun _ track => !decide (duration < now - track.time)

end PacketCache

-- ========================================================== the handler

/-- How long an incoming link may be idle, in milliseconds. -/
abbrev intervalInputLinkCleanup : Nat := 20 * 1000

/-- How long an active outgoing link may be idle. -/
abbrev intervalOutputLinkRestart : Nat := 60 * 1000

/-- How long a request waits for its proof. -/
abbrev intervalOutputLinkRepeat : Nat := 6 * 1000

/-- How long a packet is remembered. -/
abbrev packetCacheTime : Nat := 4 * 1000

/-- What the tasks of a node share. -/
structure TransportHandler where
  broadcast : Bool
  ifaceManager : InterfaceManager
  singleInDestinations : HashMap Hash16 SingleInputDestination
  singleOutDestinations : HashMap Hash16 DestinationDesc
  outLinks : HashMap Hash16 Link
  inLinks : HashMap Hash16 Link
  packetCache : PacketCache

/-- What a step sends, and what it posts. -/
inductive Effect where
  | send (message : TxMessage)
  | inEvent (event : LinkEventData)
  | outEvent (event : LinkEventData)
  | announced (destination : DestinationDesc) (appData : Bytes)
  | received (message : RxMessage)
deriving DecidableEq

/-- What a step draws. `writeF32` is what `rmp` writes for a round trip
of so many milliseconds. -/
structure Draws where
  secret : SecretKey
  ivs : Hash16 → Block
  writeF32 : Nat → FixedBytes 5

/-- The loop over the links of a map, each under its lock. -/
def visitLinks (links : HashMap Hash16 Link)
    (visit : Hash16 → Link → Link × List Effect) :
    HashMap Hash16 Link × List Effect :=
  (links.mapValues fun key link => (visit key link).1,
    links.entries.flatMap fun e => (visit e.1 e.2).2)

namespace TransportHandler

variable (C : Crypto)

/-- `Transport::new`. -/
def new (broadcast : Bool) : TransportHandler where
  broadcast
  ifaceManager := .new
  singleInDestinations := ∅
  singleOutDestinations := ∅
  outLinks := ∅
  inLinks := ∅
  packetCache := ∅

/-- The packet cache after what was sent. -/
def track (h : TransportHandler) (effects : List Effect) (now : Nat) :
    TransportHandler :=
  { h with packetCache := effects.foldl (fun cache effect =>
      match effect with
      | .send message => (cache.update C.toPlatform message.packet now).2
      | _ => cache) h.packetCache }

-- --------------------------------------------------- packets that come in

/-- What a link does with a packet on the outgoing side. A link that is
proved sends how long that took, which fits a packet. -/
def visitProof (packet : Packet) (draws : Draws) (now : Nat)
    (key : Hash16) (link : Link) : Link × List Effect :=
  match link.handlePacket C packet now with
  | (link, .activated, events) =>
      match link.createRtt C (draws.ivs key) (draws.writeF32 link.rtt) with
      | .ok rtt => (link, events.map .outEvent ++ [.send (.toAll rtt)])
      | .error _ => (link, events.map .outEvent)
  | (link, _, events) => (link, events.map .outEvent)

/-- Every outgoing link gets to see the proof. -/
def handleProof (h : TransportHandler) (packet : Packet) (draws : Draws)
    (now : Nat) : TransportHandler × List Effect :=
  let (outLinks, effects) :=
    visitLinks h.outLinks (visitProof C packet draws now)
  ({ h with outLinks }, effects)

/-- The incoming link of a data packet, which answers a keep-alive. -/
def visitIncoming (packet : Packet) (now : Nat) (link : Link) :
    Link × List Effect :=
  match link.handlePacket C packet now with
  | (link, .keepAlive, events) =>
      (link, events.map .inEvent
        ++ [.send (.toAll (link.keepAlivePacket 0xfe))])
  | (link, _, events) => (link, events.map .inEvent)

/-- A data packet may be for any outgoing link. -/
def visitOutgoing (packet : Packet) (now : Nat) (link : Link) :
    Link × List Effect :=
  match link.handlePacket C packet now with
  | (link, _, events) => (link, events.map .outEvent)

/-- The incoming links after a data packet, and what they do. -/
def handleIncoming (h : TransportHandler) (packet : Packet) (now : Nat) :
    HashMap Hash16 Link × List Effect :=
  match h.inLinks.lookup packet.destination with
  | some link =>
      let (link, effects) := visitIncoming C packet now link
      (h.inLinks.mapValues fun key old =>
        if key = packet.destination then link else old, effects)
  | none => (h.inLinks, [])

/-- `handle_data`. For a single destination nothing is done. -/
def handleData (h : TransportHandler) (packet : Packet) (now : Nat) :
    TransportHandler × List Effect :=
  if packet.header.destinationType = .link then
    let (inLinks, answers) := h.handleIncoming C packet now
    let (outLinks, events) := visitLinks h.outLinks fun _ link =>
      visitOutgoing C packet now link
    ({ h with inLinks, outLinks }, answers ++ events)
  else (h, [])

/-- `handle_announce`. The first announce of an address is kept. -/
def handleAnnounce (h : TransportHandler) (packet : Packet) :
    TransportHandler × List Effect :=
  match validateAnnounce C packet with
  | .ok (destination, appData) =>
      let h :=
        if packet.destination ∈ h.singleOutDestinations then h
        else { h with singleOutDestinations :=
          h.singleOutDestinations.insert packet.destination destination }
      (h, [.announced destination appData])
  | .error _ => (h, [])

/-- The link a request is answered with, before it is proved. -/
def acceptRequest (h : TransportHandler) (packet : Packet)
    (secret : SecretKey) (now : Nat) : Option Link := do
  let destination ← h.singleInDestinations.lookup packet.destination
  match destination.handlePacket C packet with
  | .linkProof =>
      if linkId C.toPlatform packet ∈ h.inLinks then none
      else
        match Link.newFromRequest C packet destination.identity.signKey
            (destination.desc C) secret now with
        | .ok link => some link
        | .error _ => none
  | .none => none

/-- The proof goes out of every interface. -/
def handleLinkRequest (h : TransportHandler) (packet : Packet)
    (secret : SecretKey) (now : Nat) : TransportHandler × List Effect :=
  match h.acceptRequest C packet secret now with
  | some link =>
      let (link, proof, events) := link.prove C
      ({ h with inLinks := h.inLinks.insert link.id link },
        events.map .inEvent ++ [.send (.toAll proof)])
  | none => (h, [])

/-- What is sent on, unchanged, to the other interfaces. -/
def rebroadcast (h : TransportHandler) (message : RxMessage) :
    List Effect :=
  if h.broadcast then
    [.send ⟨.broadcast (some message.address), message.packet⟩]
  else []

/-- By the type of the packet. -/
def handlePacket (h : TransportHandler) (packet : Packet) (draws : Draws)
    (now : Nat) : TransportHandler × List Effect :=
  match packet.header.packetType with
  | .announce => h.handleAnnounce C packet
  | .linkRequest => h.handleLinkRequest C packet draws.secret now
  | .proof => h.handleProof C packet draws now
  | .data => h.handleData C packet now

/-- The packet task on one message. -/
def receive (h : TransportHandler) (message : RxMessage) (draws : Draws)
    (now : Nat) : TransportHandler × List Effect :=
  let (h', effects) := h.handlePacket C message.packet draws now
  let sent := h.rebroadcast message ++ effects
  (h'.track C sent now, .received message :: sent)

-- ---------------------------------------------------------------- timers

/-- An active link that heard nothing for too long is pending again. -/
def restartIdle (now : Nat) (link : Link) : Link :=
  if link.status = .active
      ∧ intervalOutputLinkRestart < link.elapsed now then link.restart
  else link

/-- A pending link asks again. -/
def repeatRequest (now : Nat) (link : Link) : Link × List Effect :=
  if link.status = .pending
      ∧ intervalOutputLinkRepeat < link.elapsed now then
    let (link, packet) := link.request C now
    (link, [.send (.toAll packet)])
  else (link, [])

/-- The third loop of `handle_check_links`, on one link. -/
def visitPending (now : Nat) (link : Link) : Link × List Effect :=
  repeatRequest C now (restartIdle now link)

/-- Nothing came over the link for too long. -/
def isIdle (now : Nat) (link : Link) : Bool :=
  decide (intervalInputLinkCleanup < link.elapsed now)

/-- Only a closed outgoing link goes. -/
def isClosed (link : Link) : Bool := decide (link.status = .closed)

/-- The links of a map that go, each of which posts that it closed. -/
def closing (links : HashMap Hash16 Link) (goes : Link → Bool) :
    List LinkEventData :=
  links.entries.flatMap fun e =>
    if goes e.2 then e.2.close.2 else []

/-- Links that are over go, and what waits for a proof asks again. -/
def handleCheckLinks (h : TransportHandler) (now : Nat) :
    TransportHandler × List Effect :=
  let inClosed := closing h.inLinks (isIdle now)
  let inLinks := h.inLinks.retain fun _ link => !isIdle now link
  let outClosed := closing h.outLinks isClosed
  let outLinks := h.outLinks.retain fun _ link => !isClosed link
  let (outLinks, requests) := visitLinks outLinks fun _ link =>
    visitPending C now link
  let effects := inClosed.map .inEvent ++ outClosed.map .outEvent
    ++ requests
  (track C { h with inLinks, outLinks } effects now, effects)

/-- A keep-alive over every active outgoing link. -/
def handleKeepLinks (h : TransportHandler) (now : Nat) :
    TransportHandler × List Effect :=
  let effects := h.outLinks.entries.flatMap fun e =>
    if e.2.status = .active then
      [.send (.toAll (e.2.keepAlivePacket 0xff))]
    else []
  (h.track C effects now, effects)

-- --------------------------------------------------------------- sending

/-- `if let Ok(packet) = link.data_packet_with_context(..)`. -/
def packetOver (context : PacketContext) (payload : Bytes)
    (ivs : Hash16 → Block) (entry : Hash16 × Link) :
    Except Fault (Option Packet) :=
  match entry.2.dataPacketWithContext C context (ivs entry.1) payload with
  | .ok packet => .ok (some packet)
  | .error .panic => .error .panic
  | .error (.error _) => .ok none

/-- A packet with the payload over each link. The payload decides alone
whether there is one, so that the first link panics or none does. -/
def sendOver (links : List (Hash16 × Link)) (context : PacketContext)
    (payload : Bytes) (ivs : Hash16 → Block) :
    Except Fault (List Effect) := do
  let packets ← links.mapM (packetOver C context payload ivs)
  return packets.filterMap fun packet =>
    packet.map fun packet => .send (.toAll packet)

/-- A packet with the payload over the first link that has one. -/
def sendFirst (context : PacketContext) (payload : Bytes)
    (ivs : Hash16 → Block) :
    List (Hash16 × Link) → Except Fault (List Effect)
  | [] => .ok []
  | entry :: links => do
      match ← packetOver C context payload ivs entry with
      | some packet => return [.send (.toAll packet)]
      | none => sendFirst context payload ivs links

/-- The links of a map that are wanted, with their keys. -/
def wantedOf (links : HashMap Hash16 Link) (wanted : Link → Bool) :
    List (Hash16 × Link) :=
  (links.entries.filter fun e => wanted e.2).map fun e => (e.1, e.2)

/-- Payloads go over active links only. -/
def isActive (link : Link) : Bool := decide (link.status = .active)

/-- A link of the destination that is active. -/
def serves (destination : Hash16) (link : Link) : Bool :=
  decide (link.destination.addressHash = destination) && isActive link

/-- `send_to_link_id_with_context`: the incoming link of the id, or else
the first outgoing one. -/
def sendToLinkIdWithContext (h : TransportHandler) (id : Hash16)
    (payload : Bytes) (context : PacketContext) (ivs : Hash16 → Block) :
    Except Fault (List Effect) :=
  let incoming := (h.inLinks.lookup id).toList.filter isActive
  sendFirst C context payload ivs
    (incoming.map (fun link => (id, link)) ++ wantedOf h.outLinks fun link =>
      decide (link.id = id) && isActive link)

end TransportHandler

-- ============================================================= the node

/-- A call of `Transport::link` that does not have the lock. -/
inductive LinkCall where
  /-- It found no link that it could return. -/
  | lookedUp (destination : DestinationDesc)
  /-- It sent the request. -/
  | requested (link : Link)
deriving DecidableEq

/-- A node, with the calls of `link` that are under way in it. -/
structure Node where
  handler : TransportHandler
  calls : List LinkCall

/-- What a node takes a step on. -/
inductive Event where
  | receive (message : RxMessage) (draws : Draws)
  | checkLinks
  | keepLinks
  | cleanup
  | release
  | newChannel
  | stop (address : Hash16)
  | addDestination (destination : SingleInputDestination)
  | send (message : TxMessage)
  | sendAnnounce (destination : SingleInputDestination)
      (randHash : FixedBytes randHashLength) (appData : Option Bytes)
  | sendToAllOutLinks (payload : Bytes) (ivs : Hash16 → Block)
  | sendToOutLinks (destination : Hash16) (payload : Bytes)
      (context : PacketContext) (ivs : Hash16 → Block)
  | sendToInLinks (destination : Hash16) (payload : Bytes)
      (ivs : Hash16 → Block)
  | sendToLinkId (id : Hash16) (payload : Bytes)
      (context : PacketContext) (ivs : Hash16 → Block)
  /-- A call of `Transport::link` begins. -/
  | link (destination : DestinationDesc)
  /-- The call sends its request. -/
  | request (call : Nat) (identity : PrivateIdentity)
  /-- The call puts its link into the table and returns. -/
  | insert (call : Nat)
  /-- One who holds an outgoing link closes it. -/
  | closeLink (key : Hash16)

namespace Node

variable (C : Crypto)

open TransportHandler (isActive serves wantedOf)

/-- Nothing is known to it. -/
def new (broadcast : Bool) : Node := ⟨.new broadcast, []⟩

/-- A step that changes the handler only. -/
def withHandler (node : Node) (step : TransportHandler × List Effect) :
    Node × List Effect :=
  ({ node with handler := step.1 }, step.2)

/-- What is sent enters the packet cache. -/
def sending (node : Node) (now : Nat) (effects : List Effect) :
    Node × List Effect :=
  node.withHandler (node.handler.track C effects now, effects)

/-- The look-up of `Transport::link`: a link that is not closed is
returned. -/
def lookUp (node : Node) (destination : DestinationDesc) : Node :=
  match node.handler.outLinks.lookup destination.addressHash with
  | some link =>
      if link.status ≠ .closed then node
      else { node with calls := node.calls ++ [.lookedUp destination] }
  | none => { node with calls := node.calls ++ [.lookedUp destination] }

/-- The second step of a call: the request goes out, but the link is not
yet in the table. -/
def request (node : Node) (call : Nat) (identity : PrivateIdentity)
    (now : Nat) : Node × List Effect :=
  match node.calls[call]? with
  | some (.lookedUp destination) =>
      let (link, packet) :=
        (Link.new C destination identity now).request C now
      sending C { node with calls := node.calls.set call (.requested link) }
        now [.send (.toAll packet)]
  | _ => (node, [])

/-- The third: it is, in place of any other. -/
def insert (node : Node) (call : Nat) : Node :=
  match node.calls[call]? with
  | some (.requested link) =>
      { node with
        calls := node.calls.eraseIdx call
        handler.outLinks := node.handler.outLinks.insert
          link.destination.addressHash link }
  | _ => node

/-- A closed link stays in the table until the links are checked. -/
def closeLink (node : Node) (key : Hash16) : Node × List Effect :=
  match node.handler.outLinks.lookup key with
  | some link =>
      ({ node with handler.outLinks :=
          node.handler.outLinks.mapValues fun key' old =>
            if key' = key then link.close.1 else old },
        link.close.2.map .outEvent)
  | none => (node, [])

/-- One step, or the panic that ends the call or the task. -/
def step (node : Node) (now : Nat) :
    Event → Except Fault (Node × List Effect)
  | .receive message draws =>
      .ok (node.withHandler (node.handler.receive C message draws now))
  | .checkLinks =>
      .ok (node.withHandler (node.handler.handleCheckLinks C now))
  | .keepLinks =>
      .ok (node.withHandler (node.handler.handleKeepLinks C now))
  | .cleanup => .ok ({ node with
      handler.ifaceManager := node.handler.ifaceManager.cleanup }, [])
  | .release => .ok ({ node with
      handler.packetCache :=
        node.handler.packetCache.release packetCacheTime now }, [])
  | .newChannel => .ok ({ node with
      handler.ifaceManager :=
        (node.handler.ifaceManager.newChannel C.toPlatform).2 }, [])
  | .stop address => .ok ({ node with
      handler.ifaceManager := node.handler.ifaceManager.stop address }, [])
  | .addDestination destination => .ok ({ node with
      handler.singleInDestinations :=
        node.handler.singleInDestinations.insert
          (destination.desc C).addressHash destination }, [])
  | .send message => .ok (node.sending C now [.send message])
  | .sendAnnounce destination randHash appData =>
      match destination.announce C randHash appData with
      | .ok packet => .ok (node.sending C now [.send (.toAll packet)])
      | .error _ => .error .panic
  | .sendToAllOutLinks payload ivs => do
      let sent ← TransportHandler.sendOver C
        (wantedOf node.handler.outLinks isActive) .none payload ivs
      return node.sending C now sent
  | .sendToOutLinks destination payload context ivs => do
      let sent ← TransportHandler.sendOver C
        (wantedOf node.handler.outLinks (serves destination)) context
        payload ivs
      return node.sending C now sent
  | .sendToInLinks destination payload ivs => do
      let sent ← TransportHandler.sendOver C
        (wantedOf node.handler.inLinks (serves destination)) .none
        payload ivs
      return node.sending C now sent
  | .sendToLinkId id payload context ivs => do
      let sent ← node.handler.sendToLinkIdWithContext C id payload
        context ivs
      return node.sending C now sent
  | .link destination => .ok (node.lookUp destination, [])
  | .request call identity => .ok (node.request C call identity now)
  | .insert call => .ok (node.insert call, [])
  | .closeLink key => .ok (node.closeLink key)

end Node

end Lxmf.Reticulum
