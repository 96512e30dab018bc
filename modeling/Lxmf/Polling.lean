/-
How a router comes by the events of its links
(lxmf-rs/src/rns/transport.rs: `poll_inbound`, over the channels of
reticulum-patched/src/transport.rs).

# Two channels

The transport sends the events of incoming and of outgoing links into a
channel each, of sixteen values. The router has subscribed to both.
`poll_inbound` reads first the one and then the other, each in a loop
that ends with the first read that fails, whatever the failure is.
`tokio::sync::broadcast` is foreign: what it does is a `Channel`.

# Steps

The transport has tasks of its own: any step of the node may come between
two reads. What `handle_link_event_inner` makes of an event is no part of
this, only which events it gets.
-/
import Lxmf.Node
import Lxmf.Library.Broadcast
import Lxmf.Library.Run
import Mathlib.Logic.Function.Basic

namespace Lxmf.Reticulum

open Broadcast (takenOf missedOf)

/-- `broadcast::channel(16)`, of `link_in_event_tx` and
`link_out_event_tx`. -/
def linkEventCapacity : Nat := 16

/-- The implementation of the channels of link events. -/
abbrev LinkEventChannel :=
  Broadcast.Channel LinkEventData linkEventCapacity

/-- Whose events a channel has. -/
inductive Side where
  | incoming
  | outgoing
deriving DecidableEq

/-- The events that a step sends into a channel. -/
def Side.postedOf (side : Side) (effects : List Effect) :
    List LinkEventData :=
  effects.filterMap fun effect =>
    match side, effect with
    | .incoming, .inEvent event => some event
    | .outgoing, .outEvent event => some event
    | _, _ => none

/-- The loop that comes after one in `poll_inbound`. -/
def Side.following : Side → Option Side
  | .incoming => some .outgoing
  | .outgoing => none

/-- A node and the router that polls it. What the fields say past
`reading` the program does not keep: which events were sent and which
handled, how many were missed, and whether an event was sent since the
last read. -/
structure PolledNode (B : LinkEventChannel) where
  node : Node
  events : Side → B.Receiver
  /-- The loop that `poll_inbound` is in. -/
  reading : Option Side
  posted : Side → List LinkEventData
  handled : Side → List LinkEventData
  missed : Side → Nat
  fresh : Side → Bool

namespace PolledNode

inductive Action where
  | node (now : Nat) (event : Event)
  /-- A call of `poll_inbound` begins. -/
  | poll
  /-- The loop that it is in reads. -/
  | next

variable {B : LinkEventChannel}

/-- A router that has just subscribed. -/
def subscribed (B : LinkEventChannel) (node : Node) : PolledNode B where
  node
  events _ := B.subscribe
  reading := none
  posted _ := []
  handled _ := []
  missed _ := 0
  fresh _ := false

/-- `while let Ok(event) = events.try_recv()`, once around. -/
def look (s : PolledNode B) (side : Side) : PolledNode B :=
  let read := B.tryRecv (s.events side)
  { s with
    events := Function.update s.events side read.2
    reading :=
      match read.1 with
      | .ok _ => s.reading
      | .error _ => side.following
    handled := Function.update s.handled side
      (s.handled side ++ takenOf read.1)
    missed := Function.update s.missed side
      (s.missed side + missedOf read.1)
    fresh := Function.update s.fresh side false }

/-- A node that took a step. -/
def posting (s : PolledNode B) (node : Node) (effects : List Effect) :
    PolledNode B :=
  { s with
    node
    events := fun side =>
      B.sendAll (s.events side) (side.postedOf effects)
    posted := fun side => s.posted side ++ side.postedOf effects
    fresh := fun side => s.fresh side || !(side.postedOf effects).isEmpty }

def apply (C : Crypto) (action : Action) (s : PolledNode B) :
    Option (PolledNode B) :=
  match action with
  | .node now event =>
      match s.node.step C now event with
      | .ok (node, effects) => some (s.posting node effects)
      | .error _ => none
  | .poll =>
      if s.reading = none then some { s with reading := some .incoming }
      else none
  | .next => s.reading.map s.look

end PolledNode

end Lxmf.Reticulum
