/-
What an `RnsNodeRouter` does with its transport
(lxmf-rs/src/rns/transport.rs).

# Calls

A function of the source is what it calls of the transport, in order. A
call of the transport is one step of the node, and between two of them
other steps may come. `poll_inbound` resends frames first, then answers
what its trackers ask for: which these are is an argument of the call.

# Reception

A router reads the events of links, and nothing else of its node. What
the transport passes to `iface_rx` has no receiver, and `Transport::link`
no caller.

# Networks

In `Routers` every node is one of a router. A packet that some node has
sent is received as it reads from its bytes: any number of times, by any
node, at any time.
-/
import Lxmf.Node
import Lxmf.Library.Run
import Lxmf.PnDir
import Lxmf.RequestDelivery

namespace Lxmf.Reticulum

variable (C : Crypto)

namespace RnsNodeRouter

/-- `transport.send_packet`. -/
def sendPacket (packet : Lxmf.Packet) : Event :=
  .send (.toAll (.ofLxmf packet))

/-- `transport.send_to_out_links_with_context`, with the vectors it
draws. -/
def sendFrame (destination : Hash16) (frame : ResourceControlAction)
    (ivs : Hash16 → Block) : Event :=
  .sendToOutLinks destination frame.payload (.ofLxmf frame.context) ivs

/-- The frames of a resource that is sent. -/
def sendFrames (destination : Hash16) (state : ResourceSendState)
    (ivs : Nat → Hash16 → Block) : List Event :=
  state.frames.mapIdx fun i frame => sendFrame destination frame (ivs i)

/-- `send_resource_frames`. -/
def sendResourceFrames (destination : Hash16) (payload : Bytes)
    (requestId : Option Hash16) (isResponse isRequest : Bool) (now : Nat)
    (ivs : Nat → Hash16 → Block) : Except Lxmf.RnsError (List Event) := do
  let state ← Lxmf.sendResourceFrames C.toPlatform payload requestId
    isResponse isRequest now
  return sendFrames destination state ivs

/-- What `send_message` does with an output, and `dispatch_deliveries` of
the daemon. -/
def sendOutput (output : DeliveryOutput) (now : Nat)
    (ivs : Nat → Hash16 → Block) : Except Lxmf.RnsError (List Event) :=
  match output with
  | .packet packet => .ok [sendPacket packet]
  | .resource destination _ data =>
      sendResourceFrames C destination data none false false now ivs
  | .paperUri _ => .ok []

/-- The message as the delivery left it is dropped. -/
def sendMessage (o : RnsOutbound) (msg : LXMessage) (mode : DeliveryMode)
    (rng : OsRng) (now : Nat) (ivs : Nat → Hash16 → Block) :
    Except Lxmf.RnsError (List Event) := do
  let output ← (o.deliver C.toPlatform msg mode rng).1
  sendOutput C output now ivs

/-- What the node is told to send for a request. -/
def sendRequestToHash (destinationHash : Hash16) (req : RnsRequest)
    (now : Nat) (ivs : Nat → Hash16 → Block) :
    Except Lxmf.RnsError (List Event) := do
  let (sent, _) ← Lxmf.sendRequestToHash C.toPlatform destinationHash req
    now
  match sent with
  | .packet packet => return [sendPacket packet]
  | .resource state => return sendFrames destinationHash state ivs

/-- Under the id of the request that it answers. -/
def sendResponseToHash (destinationHash : Hash16) (resp : RnsResponse)
    (now : Nat) (ivs : Nat → Hash16 → Block) :
    Except Lxmf.RnsError (List Event) := do
  let payload ← encodeResponseBytes C.toPlatform resp
  if payload.length ≤ Lxmf.packetMdu then
    let packet ← packetFromPayloadWithContext destinationHash payload
      .single .response
    return [sendPacket packet]
  else
    sendResourceFrames C destinationHash payload (some resp.requestId) true
      false now ivs

/-- The destination of an identity under a name of LXMF. -/
def destinationOf (identity : Identity) (aspect : String) : Hash16 :=
  (DestinationDesc.new C identity (.new C "lxmf" aspect)).addressHash

/-- To the destination for requests of an identity. -/
def sendRequest (destination : Identity) (req : RnsRequest) (now : Nat)
    (ivs : Nat → Hash16 → Block) : Except Lxmf.RnsError (List Event) :=
  sendRequestToHash C (destinationOf C destination "req") req now ivs

/-- Likewise. -/
def sendResponse (destination : Identity) (resp : RnsResponse) (now : Nat)
    (ivs : Nat → Hash16 → Block) : Except Lxmf.RnsError (List Event) :=
  sendResponseToHash C (destinationOf C destination "req") resp now ivs

/-- In one packet or, if it is too long for one, not at all. -/
def sendPnDirRequest (destination : Identity) (req : PnDirRequest) :
    Except Lxmf.RnsError (List Event) := do
  let payload ← encodePnDirRequest C.toPlatform req
  let packet ← packetFromPayloadWithContext
    (destinationOf C destination "pn") payload .single .request
  return [sendPacket packet]

/-- Likewise. -/
def sendPnDirResponse (destination : Identity) (resp : PnDirResponse) :
    Except Lxmf.RnsError (List Event) := do
  let payload ← encodePnDirResponse C.toPlatform resp
  let packet ← packetFromPayloadWithContext
    (destinationOf C destination "pn") payload .single .response
  return [sendPacket packet]

/-- `announce`, of the destination of the router. -/
def announce (destination : SingleInputDestination)
    (randHash : FixedBytes randHashLength) : Event :=
  .sendAnnounce destination randHash none

/-- A frame that `poll_inbound` sends, to a destination or over a
link. -/
structure PolledFrame where
  address : Hash16
  frame : ResourceControlAction
  ivs : Hash16 → Block

/-- `poll_inbound`: the frames it sends again, then its actions. -/
def pollInbound (retries actions : List PolledFrame) : List Event :=
  (retries.map fun f => sendFrame f.address f.frame f.ivs)
    ++ actions.map fun f => .sendToLinkId f.address f.frame.payload
        (.ofLxmf f.frame.context) f.ivs

/-- The calls by which a router sends. -/
inductive Call where
  | sendMessage (o : RnsOutbound) (msg : LXMessage) (mode : DeliveryMode)
      (rng : OsRng) (now : Nat) (ivs : Nat → Hash16 → Block)
  | sendResourcePayload (destination : Hash16) (payload : Bytes)
      (now : Nat) (ivs : Nat → Hash16 → Block)
  | sendRequest (destination : Identity) (req : RnsRequest) (now : Nat)
      (ivs : Nat → Hash16 → Block)
  | sendResponse (destination : Identity) (resp : RnsResponse) (now : Nat)
      (ivs : Nat → Hash16 → Block)
  | sendRequestToHash (destinationHash : Hash16) (req : RnsRequest)
      (now : Nat) (ivs : Nat → Hash16 → Block)
  | sendResponseToHash (destinationHash : Hash16) (resp : RnsResponse)
      (now : Nat) (ivs : Nat → Hash16 → Block)
  | sendPnDirRequest (destination : Identity) (req : PnDirRequest)
  | sendPnDirResponse (destination : Identity) (resp : PnDirResponse)
  | announce (destination : SingleInputDestination)
      (randHash : FixedBytes randHashLength)
  | pollInbound (retries actions : List PolledFrame)

/-- What the node is told, or the error of the call. -/
def Call.events : Call → Except Lxmf.RnsError (List Event)
  | .sendMessage o msg mode rng now ivs =>
      RnsNodeRouter.sendMessage C o msg mode rng now ivs
  | .sendResourcePayload destination payload now ivs =>
      sendResourceFrames C destination payload none false false now ivs
  | .sendRequest destination req now ivs =>
      RnsNodeRouter.sendRequest C destination req now ivs
  | .sendResponse destination resp now ivs =>
      RnsNodeRouter.sendResponse C destination resp now ivs
  | .sendRequestToHash destinationHash req now ivs =>
      RnsNodeRouter.sendRequestToHash C destinationHash req now ivs
  | .sendResponseToHash destinationHash resp now ivs =>
      RnsNodeRouter.sendResponseToHash C destinationHash resp now ivs
  | .sendPnDirRequest destination req =>
      RnsNodeRouter.sendPnDirRequest C destination req
  | .sendPnDirResponse destination resp =>
      RnsNodeRouter.sendPnDirResponse C destination resp
  | .announce destination randHash =>
      .ok [RnsNodeRouter.announce destination randHash]
  | .pollInbound retries actions =>
      .ok (RnsNodeRouter.pollInbound retries actions)

end RnsNodeRouter

-- ============================================================= networks

/-- Nodes that have only each other, with all packets they have sent. -/
structure Routers (ν : Type) where
  nodes : ν → Node
  sent : List Packet

namespace Routers

variable {ν : Type}

/-- A step of a node: its time and what it is. -/
structure Action (ν : Type) where
  node : ν
  now : Nat
  event : Event

/-- The packets of what is sent. -/
def packetsOf (effects : List Effect) : List Packet :=
  effects.filterMap fun effect =>
    match effect with
    | .send message => some message.packet
    | _ => none

/-- A step of one node. -/
def apply [DecidableEq ν] (action : Action ν) (s : Routers ν) :
    Option (Routers ν) :=
  match (s.nodes action.node).step C action.now action.event with
  | .ok (node, effects) => some {
      nodes := Function.update s.nodes action.node node
      sent := s.sent ++ packetsOf effects
    }
  | .error _ => none

/-- What happens at a node of a router: its own tasks, a call of the
router, and packets that were sent. -/
inductive Happens (s : Routers ν) : Event → Prop where
  | receive (packet : Packet) (capacity : Nat)
      (out : OutputBuffer capacity) (message : RxMessage) (draws : Draws) :
      packet ∈ s.sent → packet.serialize .new = .ok out →
      Packet.deserialize out.bytes = .ok message.packet →
      Happens s (.receive message draws)
  | checkLinks : Happens s .checkLinks
  | keepLinks : Happens s .keepLinks
  | cleanup : Happens s .cleanup
  | release : Happens s .release
  | newChannel : Happens s .newChannel
  | stop (address : Hash16) : Happens s (.stop address)
  | addDestination (destination : SingleInputDestination) :
      Happens s (.addDestination destination)
  | call (call : RnsNodeRouter.Call) (events : List Event) (event : Event) :
      call.events C = .ok events → event ∈ events → Happens s event

/-- Nodes without links, that have sent nothing. -/
structure Fresh (s : Routers ν) : Prop where
  outLinks : ∀ i, (s.nodes i).handler.outLinks = ∅
  inLinks : ∀ i, (s.nodes i).handler.inLinks = ∅
  calls : ∀ i, (s.nodes i).calls = []
  sent : s.sent = []

end Routers

end Lxmf.Reticulum
