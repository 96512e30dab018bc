/-
Nodes that are wired to each other, and what is on the wires.

# Wires

An interface of a node leads to one interface of a node, or nowhere
(`Wiring`). What a node hands to an interface is in the air until it is
taken at the other end. Nothing on a wire is lost, and nothing waits for
room: a queue of the source holds 16 messages, and who hands it one more
waits with the lock in its hand.

# History

`taken` grows with what is taken from the wires. No step reads it.
-/
import Lxmf.Node
import Lxmf.Library.Run

namespace Lxmf.Reticulum

/-- Where the interfaces of each node lead. -/
abbrev Wiring (ν : Type) := ν → Hash16 → Option (ν × Hash16)

structure Wired (ν : Type) where
  nodes : ν → Node
  air : List (ν × RxMessage)
  taken : List Packet

namespace Wired

inductive Action (ν : Type) where
  /-- The message at this place in the air is taken. -/
  | deliver (place : Nat) (draws : Draws) (now : Nat)
  | node (i : ν) (now : Nat) (event : Event)

variable {ν : Type} (wiring : Wiring ν)

/-- A message at the other ends of the interfaces it is handed to. -/
def carry (i : ν) (node : Node) (message : TxMessage) :
    List (ν × RxMessage) :=
  (node.handler.ifaceManager.send message).filterMap fun address =>
    (wiring i address).map fun far => (far.1, ⟨far.2, message.packet⟩)

/-- What a step puts into the air. -/
def carried (i : ν) (node : Node) (effects : List Effect) :
    List (ν × RxMessage) :=
  effects.flatMap fun effect =>
    match effect with
    | .send message => carry wiring i node message
    | _ => []

variable (C : Crypto) [DecidableEq ν]

def apply (action : Action ν) (s : Wired ν) : Option (Wired ν) :=
  match action with
  | .deliver place draws now =>
      match s.air[place]? with
      | some (i, message) =>
          match (s.nodes i).step C now (.receive message draws) with
          | .ok (node, effects) => some {
              nodes := Function.update s.nodes i node
              air := s.air.eraseIdx place
                ++ carried wiring i (s.nodes i) effects
              taken := s.taken ++ [message.packet]
            }
          | .error _ => none
      | none => none
  | .node i now event =>
      match (s.nodes i).step C now event with
      | .ok (node, effects) => some {
          nodes := Function.update s.nodes i node
          air := s.air ++ carried wiring i (s.nodes i) effects
          taken := s.taken
        }
      | .error _ => none

end Wired

end Lxmf.Reticulum
