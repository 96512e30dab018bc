/-
Packets that go around.

A node with `broadcast` sends on what it receives, to all interfaces but
the one it came from. It does not count hops, and the cache of packets is
not asked. So where every node has another interface to send on, a packet
that is in the air once is in the air for ever (`copies_never_fall`), and
where it has two the copies grow with every delivery.
-/
import Lxmf.Wires
import Lxmf.Proofs.Node
import Lxmf.ReferenceCrypto

namespace Lxmf.Reticulum

variable {C : Crypto}

-- =========================================================== interfaces

/-- The interfaces that a message can be handed to. -/
def InterfaceManager.running (m : InterfaceManager) :
    List LocalInterface :=
  m.ifaces.filter fun iface => !iface.stopped

theorem InterfaceManager.send_eq (m : InterfaceManager)
    (message : TxMessage) : m.send message
      = (m.running.filter (shouldSend message.txType)).map (·.address) := by
  unfold InterfaceManager.send InterfaceManager.running
  rw [List.filter_filter]

theorem InterfaceManager.running_cleanup (m : InterfaceManager) :
    m.cleanup.running = m.running := by
  unfold InterfaceManager.cleanup InterfaceManager.running
  rw [List.filter_filter]
  simp

-- ================================================================ steps

/-- What a handler sends on, and to which interfaces, is as it was. -/
structure TransportHandler.SameIfaces (h h' : TransportHandler) : Prop where
  broadcast : h'.broadcast = h.broadcast
  ifaceManager : h'.ifaceManager = h.ifaceManager

namespace Node

open TransportHandler

theorem receive_ifaces (h : TransportHandler) (message : RxMessage)
    (draws : Draws) (now : Nat) :
    h.SameIfaces (h.receive C message draws now).1 := by
  suffices hsame : h.SameIfaces
      (h.handlePacket C message.packet draws now).1 from
    ⟨hsame.broadcast, hsame.ifaceManager⟩
  unfold TransportHandler.handlePacket
  split
  case h_1 =>
    unfold handleAnnounce
    split
    case h_1 => constructor <;> split <;> rfl
    case h_2 => exact ⟨rfl, rfl⟩
  case h_2 =>
    unfold handleLinkRequest
    split <;> exact ⟨rfl, rfl⟩
  case h_3 => exact ⟨rfl, rfl⟩
  case h_4 =>
    unfold handleData
    split <;> exact ⟨rfl, rfl⟩

/-- A step keeps the interfaces that run, and may add some. -/
def KeepsIfaces (node node' : Node) : Prop :=
  node'.handler.broadcast = node.handler.broadcast
    ∧ node.handler.ifaceManager.running.Sublist
        node'.handler.ifaceManager.running

theorem keepsIfaces_of_same {node node' : Node}
    (h : node.handler.SameIfaces node'.handler) : KeepsIfaces node node' :=
  ⟨h.broadcast, by rw [h.ifaceManager]⟩

theorem sending_keepsIfaces {node node' : Node} {now : Nat}
    {effects : List Effect} {x : Except Fault (List Effect)}
    (h : (x >>= fun sent => .ok (node.sending C now sent))
      = .ok (node', effects)) : KeepsIfaces node node' := by
  obtain ⟨sent, -, hsent⟩ := Except.bind_eq_ok.mp h
  injection hsent with hsent
  obtain ⟨rfl, -⟩ := Prod.mk.inj hsent
  exact keepsIfaces_of_same ⟨rfl, rfl⟩

/-- Only the end of its worker takes a running interface from a node. -/
theorem step_keepsIfaces {node node' : Node} {now : Nat} {event : Event}
    {effects : List Effect}
    (hstep : node.step C now event = .ok (node', effects))
    (hstop : ∀ address, event ≠ .stop address) :
    KeepsIfaces node node' := by
  cases event with
  | stop address => exact absurd rfl (hstop address)
  | sendToAllOutLinks payload ivs => exact sending_keepsIfaces hstep
  | sendToOutLinks destination payload context ivs =>
      exact sending_keepsIfaces hstep
  | sendToInLinks destination payload ivs =>
      exact sending_keepsIfaces hstep
  | sendToLinkId id payload context ivs => exact sending_keepsIfaces hstep
  | sendAnnounce destination randHash appData =>
      simp only [step] at hstep
      split at hstep
      case h_1 =>
        injection hstep with hstep
        obtain ⟨rfl, -⟩ := Prod.mk.inj hstep
        exact keepsIfaces_of_same ⟨rfl, rfl⟩
      case h_2 => cases hstep
  | newChannel =>
      injection hstep with hstep
      obtain ⟨rfl, -⟩ := Prod.mk.inj hstep
      refine ⟨rfl, ?_⟩
      unfold InterfaceManager.running InterfaceManager.newChannel
      simp
  | cleanup =>
      injection hstep with hstep
      obtain ⟨rfl, -⟩ := Prod.mk.inj hstep
      exact ⟨rfl, by rw [InterfaceManager.running_cleanup]⟩
  | receive message draws =>
      injection hstep with hstep
      obtain ⟨rfl, -⟩ := Prod.mk.inj hstep
      exact keepsIfaces_of_same (receive_ifaces ..)
  | link destination =>
      injection hstep with hstep
      obtain ⟨rfl, -⟩ := Prod.mk.inj hstep
      refine keepsIfaces_of_same ?_
      rw [lookUp_handler]
      exact ⟨rfl, rfl⟩
  | request call identity =>
      have hnode : (node.request C call identity now).1 = node' :=
        congrArg Prod.fst (Except.ok.inj hstep)
      rw [← hnode]
      unfold request
      split <;> exact keepsIfaces_of_same ⟨rfl, rfl⟩
  | insert call =>
      have hnode : node.insert call = node' :=
        congrArg Prod.fst (Except.ok.inj hstep)
      rw [← hnode]
      unfold insert
      split <;> exact keepsIfaces_of_same ⟨rfl, rfl⟩
  | closeLink key =>
      have hnode : (node.closeLink key).1 = node' :=
        congrArg Prod.fst (Except.ok.inj hstep)
      rw [← hnode]
      unfold closeLink
      split <;> exact keepsIfaces_of_same ⟨rfl, rfl⟩
  | _ =>
      injection hstep with hstep
      obtain ⟨rfl, -⟩ := Prod.mk.inj hstep
      exact keepsIfaces_of_same ⟨rfl, rfl⟩

end Node

-- =============================================================== copies

namespace Wired

variable {ν : Type} {wiring : Wiring ν}

/-- Of the interfaces that a packet is sent on to, `k` lead somewhere,
whichever it came from. -/
structure Relays (wiring : Wiring ν) (k : Nat) (i : ν) (node : Node) :
    Prop where
  broadcast : node.handler.broadcast = true
  others : ∀ message : RxMessage, k ≤ (carry wiring i node
    ⟨.broadcast (some message.address), message.packet⟩).length

theorem Relays.keep {k : Nat} {i : ν} {node node' : Node}
    (h : Relays wiring k i node) (hkeeps : Node.KeepsIfaces node node') :
    Relays wiring k i node' where
  broadcast := hkeeps.1.trans h.broadcast
  others message := by
    refine (h.others message).trans (List.Sublist.length_le ?_)
    unfold carry
    rw [InterfaceManager.send_eq, InterfaceManager.send_eq]
    exact ((hkeeps.2.filter _).map _).filterMap _

/-- How often a packet is in the air. -/
def copies (p : Packet) (air : List (ν × RxMessage)) : Nat :=
  air.countP fun e => decide (e.2.packet = p)

theorem copies_append (p : Packet) (air more : List (ν × RxMessage)) :
    copies p (air ++ more) = copies p air + copies p more :=
  List.countP_append

theorem copies_eraseIdx {air : List (ν × RxMessage)} {place : Nat}
    {e : ν × RxMessage} (h : air[place]? = some e) (p : Packet) :
    copies p air
      = copies p (air.eraseIdx place) + if e.2.packet = p then 1 else 0 := by
  obtain ⟨hlt, rfl⟩ := List.getElem?_eq_some_iff.mp h
  unfold copies
  rw [← (List.getElem_cons_eraseIdx_perm hlt).countP_eq, List.countP_cons]
  simp

theorem copies_carry (wiring : Wiring ν) (i : ν) (node : Node)
    (message : TxMessage) :
    copies message.packet (carry wiring i node message)
      = (carry wiring i node message).length := by
  unfold copies
  rw [List.countP_eq_length]
  intro e he
  unfold carry at he
  obtain ⟨address, -, hfar⟩ := List.mem_filterMap.mp he
  obtain ⟨far, -, rfl⟩ := Option.map_eq_some_iff.mp hfar
  exact decide_eq_true rfl

/-- What a relay receives it sends on. -/
theorem le_copies_received {k : Nat} {i : ν} {node : Node}
    (h : Relays wiring k i node) (message : RxMessage) (draws : Draws)
    (now : Nat) :
    k ≤ copies message.packet (carried wiring i node
      (node.handler.receive C message draws now).2) := by
  have hothers := h.others message
  unfold TransportHandler.receive TransportHandler.rebroadcast carried
  rw [h.broadcast]
  simp only [if_true, List.flatMap_cons, List.cons_append,
    List.nil_append]
  have hrest := copies_append message.packet (carry wiring i node
    ⟨.broadcast (some message.address), message.packet⟩)
  have hsent := copies_carry wiring i node
    ⟨.broadcast (some message.address), message.packet⟩
  rw [hrest, hsent]
  omega

-- ================================================================ floods

/-- No worker of an interface ends. -/
def Runs (_ : Wired ν) : Action ν → Prop
  | .node _ _ (.stop _) => False
  | _ => True

/-- The copies of a packet, by the number of its deliveries. -/
structure Flooded (wiring : Wiring ν) (k n : Nat) (p : Packet)
    (s : Wired ν) : Prop where
  relays : ∀ i, Relays wiring k i (s.nodes i)
  copies : n + k * s.taken.count p ≤ copies p s.air + s.taken.count p

variable [DecidableEq ν]

theorem relays_update {k : Nat} {s : Wired ν} {i : ν} {node : Node}
    (h : ∀ i, Relays wiring k i (s.nodes i))
    (hkeeps : (s.nodes i).KeepsIfaces node) (j : ν) :
    Relays wiring k j (Function.update s.nodes i node j) := by
  by_cases hj : j = i
  · subst hj
    rw [Function.update_self]
    exact (h j).keep hkeeps
  · rw [Function.update_of_ne hj]
    exact h j

theorem flooded_apply {k n : Nat} {p : Packet} {s s' : Wired ν}
    {action : Action ν} (h : Flooded wiring k n p s)
    (hruns : Runs s action) (happly : apply wiring C action s = some s') :
    Flooded wiring k n p s' := by
  have hcopies := h.copies
  cases action with
  | deliver place draws now =>
      unfold apply at happly
      simp only at happly
      split at happly
      case h_1 i message hplace =>
        split at happly
        case h_1 node effects hstep =>
          injection happly with happly
          subst happly
          refine ⟨relays_update h.relays
            (Node.step_keepsIfaces hstep (by rintro _ ⟨⟩)), ?_⟩
          simp only [copies_append, List.count_append,
            List.count_singleton]
          have herase := copies_eraseIdx hplace p
          simp only at herase
          have hsent := le_copies_received (C := C) (h.relays i) message
            draws now
          injection hstep with hstep
          rw [show effects = _ from (Prod.mk.inj hstep).2.symm]
          by_cases hp : message.packet = p
          · subst hp
            simp only [if_true, beq_self_eq_true] at herase ⊢
            rw [Nat.mul_add, Nat.mul_one]
            show _ ≤ _ + copies _ (carried wiring i (s.nodes i)
              ((s.nodes i).handler.receive C message draws now).2) + _
            omega
          · simp only [hp, if_false, Nat.add_zero, beq_iff_eq] at herase ⊢
            omega
        case h_2 => cases happly
      case h_2 => cases happly
  | node i now event =>
      unfold apply at happly
      simp only at happly
      split at happly
      case h_1 node effects hstep =>
        injection happly with happly
        subst happly
        refine ⟨relays_update h.relays (Node.step_keepsIfaces hstep ?_), ?_⟩
        · rintro address rfl
          exact hruns
        · simp only [copies_append]
          omega
      case h_2 => cases happly

/-- Where every node that sends on has `k` other interfaces that lead
somewhere, whichever a packet came from, each delivery of a packet leaves
`k` copies of it for the one it takes, hop count and all. With one the
copies in the air never fall, and with two they grow. -/
theorem copies_never_fall {k : Nat} {start s : Wired ν}
    (hrelays : ∀ i, Relays wiring k i (start.nodes i))
    (htaken : start.taken = [])
    (hreach : Run.Reaches (apply wiring C) Runs start s) (p : Packet) :
    copies p start.air + k * s.taken.count p
      ≤ copies p s.air + s.taken.count p := by
  have hstart : Flooded wiring k (copies p start.air) p start :=
    ⟨hrelays, by simp [htaken]⟩
  exact (hreach.invariant hstart fun _ _ _ h hruns happly =>
    flooded_apply h hruns happly).copies

open Reference

def otherIface : Hash16 := List.Vector.replicate _ 0xef

/-- Two nodes, two wires between them. -/
def docWiring : Wiring Bool := fun i address =>
  if address = iface ∨ address = otherIface then some (!i, address)
  else none

def docRelay : Node :=
  { Node.new true with
    handler.ifaceManager := ⟨2, [⟨iface, false⟩, ⟨otherIface, false⟩]⟩ }

noncomputable def docFlood : Wired Bool :=
  ⟨fun _ => docRelay, [(true, request)], []⟩

theorem docRelay_relays (i : Bool) : Relays docWiring 1 i docRelay where
  broadcast := rfl
  others message := by
    have hne : iface ≠ otherIface := by decide
    unfold carry InterfaceManager.send InterfaceManager.shouldSend docRelay
      docWiring
    by_cases haddress : message.address = iface
    · simp [haddress, hne]
    · simp [haddress]

/-- After two deliveries the packet is still in the air. -/
theorem copies_never_fall_doc :
    ∃ s, Run.Reaches (apply docWiring crypto) Runs docFlood s
      ∧ s.taken.length = 2
      ∧ copies request.packet docFlood.air
          + 1 * s.taken.count request.packet
        ≤ copies request.packet s.air + s.taken.count request.packet := by
  have htaken : (Run.run (apply docWiring crypto)
      [.deliver 0 drawn 0, .deliver 0 drawn 1] docFlood).map
        (fun s => decide (s.taken.length = 2)) = some true := by
    decide +kernel
  obtain ⟨s, hrun, htaken⟩ := Option.map_eq_some_iff.mp htaken
  have hreach : Run.Reaches (apply docWiring crypto) Runs docFlood s := by
    refine Run.reaches_of_run (fun action hmem s => ?_) hrun
    simp only [List.mem_cons, List.not_mem_nil, or_false] at hmem
    rcases hmem with rfl | rfl <;> trivial
  exact ⟨s, hreach, of_decide_eq_true htaken,
    copies_never_fall docRelay_relays rfl hreach request.packet⟩

end Wired

end Lxmf.Reticulum
