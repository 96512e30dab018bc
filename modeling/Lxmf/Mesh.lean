/-
Many nodes, and whoever carries packets between them.

# The network

Nothing is assumed of it: any packet may be handed to any node at any
time, once, often or never, whether some node sent it or nobody did. A
run is any order of the steps of `Event` at the nodes.

# What cannot be made up

`Unforged key` is all that a result about one signing key asks of a run.
A packet whose first 64 bytes are a signature under the key carries one
that was made: by an announce or a proof of a node, or by an application
that signs with the same identity (`Action.sign`). An application does
not sign what reads like a proof of that key. LXMF keeps to this as long
as no hash it signs is the verifying key itself.

# History

`signed` and `answered` grow with what was signed and with the requests
that were answered, with the link each answer made. No step reads them.
-/
import Lxmf.Node
import Lxmf.Library.Run

namespace Lxmf.Reticulum

variable (C : Crypto)

structure Mesh (ν : Type) where
  nodes : ν → Node
  signed : List (SecretKey × Bytes)
  answered : List (Packet × Link)

namespace Mesh

inductive Action (ν : Type) where
  | node (i : ν) (now : Nat) (event : Event)
  | sign (key : SecretKey) (msg : Bytes)

/-- The request that a step answers, and the link it answers with. -/
def answersOf (node : Node) (now : Nat) : Event → List (Packet × Link)
  | .receive message draws =>
      if message.packet.header.packetType = .linkRequest then
        match node.handler.acceptRequest C message.packet draws.secret
            now with
        | some link => [(message.packet, link)]
        | none => []
      else []
  | _ => []

/-- What a step signs: the proof of each answer, and an announce. -/
def signsOf (node : Node) (now : Nat) (event : Event) :
    List (SecretKey × Bytes) :=
  (answersOf C node now event).map (fun answer =>
    (answer.2.privIdentity.signKey, answer.2.proofSigned C))
    ++ match event with
      | .sendAnnounce destination randHash appData =>
          [(destination.identity.signKey,
            destination.announceSigned C randHash (appData.getD []))]
      | _ => []

variable {ν : Type} [DecidableEq ν]

def apply (action : Action ν) (mesh : Mesh ν) : Option (Mesh ν) :=
  match action with
  | .node i now event =>
      match (mesh.nodes i).step C now event with
      | .ok (node, _) => some {
          nodes := Function.update mesh.nodes i node
          signed := mesh.signed ++ signsOf C (mesh.nodes i) now event
          answered := mesh.answered ++ answersOf C (mesh.nodes i) now event
        }
      | .error _ => none
  | .sign key msg =>
      some { mesh with signed := mesh.signed ++ [(key, msg)] }

/-- Nothing has happened: no links, no calls and no history. -/
structure Fresh (mesh : Mesh ν) : Prop where
  outLinks : ∀ i, (mesh.nodes i).handler.outLinks = ∅
  inLinks : ∀ i, (mesh.nodes i).handler.inLinks = ∅
  calls : ∀ i, (mesh.nodes i).calls = []
  signed : mesh.signed = []
  answered : mesh.answered = []

/-- A message that would prove a link under the verifying key. -/
def ProofShaped (verifyingKey : PublicKey) (msg : Bytes) : Prop :=
  ∃ (id : Hash16) (publicKey : PublicKey) (mtu : Bytes),
    mtu.length ≤ linkMtuSize
      ∧ msg = id.toList ++ publicKey.toList ++ verifyingKey.toList ++ mtu

/-- The signature a proof begins with. -/
def leadingSignature (packet : Packet) : Signature :=
  Cbc.block 0 packet.data.bytes

def Unforged (key : SecretKey) (mesh : Mesh ν) : Action ν → Prop
  | .node _ _ (.receive message _) =>
      ∀ msg, C.verifyStrict (C.verifyingKey key) msg
          (leadingSignature message.packet) = true →
        (key, msg) ∈ mesh.signed
  | .node _ _ _ => True
  | .sign key' msg =>
      key' = key → ¬ ProofShaped (C.verifyingKey key) msg

end Mesh

end Lxmf.Reticulum
