/-
What a propagation node announces, and the other implementation.

Both write the same seven elements. What this one announces the other
reads as it was meant. Of what the other announces this one reads the
stamp cost, but takes the announce, and with it the name, only when both
limits were left at their defaults: a limit that was configured is a
`float` there, and no integer.
-/
import Lxmf.Proofs.Announce
import Lxmf.Proofs.PythonMessages

namespace Lxmf.Python

variable {P : Platform} {u : Umsgpack}

-- ============================================================= elements

/-- The metadata of a node that may have a name. -/
def nameEntries : Option String → List (Value × Value)
  | some name => [(metaName, .binary (strBytes name))]
  | none => []

/-- An announce, in either implementation. -/
def announced (timebase : Integer) (active : Bool)
    (transferLimit syncLimit : Value) (cost flexibility peering : Integer)
    (name : Option String) : Value :=
  .array [.boolean false, .integer timebase, .boolean active,
    transferLimit, syncLimit,
    .array [.integer cost, .integer flexibility, .integer peering],
    .map (nameEntries name)]

theorem plain_announced (timebase : Integer) (active : Bool)
    {transferLimit syncLimit : Value} (htransfer : plain transferLimit)
    (hsync : plain syncLimit) (cost flexibility peering : Integer)
    (name : Option String) :
    plain (announced timebase active transferLimit syncLimit cost
      flexibility peering name) = true := by
  cases name <;> simp [announced, nameEntries, metaName, plain, plainList,
    plainPairs, isKey, htransfer, hsync]

/-- The name is found under its key. -/
theorem item_nameEntries (name : Option String) :
    item (.map (nameEntries name)) 1
      = name.map fun name => .binary (strBytes name) := by
  cases name with
  | none => rfl
  | some name => rfl

theorem nameFromMetadata_entries (name : Option String) :
    nameFromMetadata (nameEntries name) = name := by
  cases name with
  | none => rfl
  | some name => exact fromUTF8_strBytes name

theorem isTruth_boolean (b : Bool) : isTruth (.boolean b) = true := by
  cases b <;> rfl

-- ============================================== what the other one reads

section Read

variable {timebase cost flexibility peering : Integer} {active : Bool}
  {transferLimit syncLimit : Value} {name : Option String} {b : Bytes}

theorem announced_isValid
    (hread : u.unpackb b = some (announced timebase active transferLimit
      syncLimit cost flexibility peering name)) (ofText : Bytes → Bool) :
    pnAnnounceDataIsValid u ofText b
      = (readsAsInt ofText transferLimit
        && readsAsInt ofText syncLimit) := by
  have hchecks : pnAnnounceDataIsValid u ofText b
      = (true && isTruth (.boolean active) && readsAsInt ofText transferLimit
        && readsAsInt ofText syncLimit && true && true && true && true
        && true) := by
    unfold pnAnnounceDataIsValid
    rw [hread]
    rfl
  simp only [hchecks, isTruth_boolean, Bool.and_true, Bool.true_and]

theorem announced_stampCost
    (hread : u.unpackb b = some (announced timebase active transferLimit
      syncLimit cost flexibility peering name)) {ofText : Bytes → Bool}
    (hvalid : pnAnnounceDataIsValid u ofText b = true) :
    pnStampCostFromAppData u ofText b = some (.integer cost) := by
  unfold pnStampCostFromAppData
  rw [if_pos hvalid, hread]
  rfl

theorem announced_name
    (hread : u.unpackb b = some (announced timebase active transferLimit
      syncLimit cost flexibility peering name)) {ofText : Bytes → Bool}
    (hvalid : pnAnnounceDataIsValid u ofText b = true) :
    pnNameFromAppData u ofText b = name := by
  unfold pnNameFromAppData
  rw [if_pos hvalid, hread]
  have hmetadata : item (announced timebase active transferLimit syncLimit
      cost flexibility peering name) 6
      = some (.map (nameEntries name)) := rfl
  simp only [Option.bind_eq_bind, Option.bind_some, hmetadata,
    item_nameEntries]
  cases name with
  | none => rfl
  | some name => exact fromUTF8_strBytes name

end Read

-- ================================================ what this one announces

/-- What a router announces. -/
theorem router_announceData {σ : Type} (r : LxmfRouter σ) :
    r.announceData = announced (.ofU64 (r.propagationStartedMs / 1000))
      (r.propagationNodeEnabled && !r.fromStaticOnly)
      (.integer (.ofU64 r.propagationTransferLimitKb.toU64))
      (.integer (.ofU64 r.propagationSyncLimitKb.toU64))
      (.ofU64 r.announcedStampCost)
      (.ofU64 ((r.propagationValidation.map (·.stampCostFlex)).getD
        defaultPropagationStampFlex))
      (.ofU64 ((r.peeringValidation.map (·.targetCost)).getD
        defaultPeeringCost)) r.name := by
  have hmetadata : (r.getPropagationNodeAnnounceMetadata.entries.map
      fun e => (Value.integer (.ofU8 e.1), Value.binary e.2))
      = nameEntries r.name := by
    unfold LxmfRouter.getPropagationNodeAnnounceMetadata
    cases r.name with
    | none => rfl
    | some name => rfl
  unfold LxmfRouter.announceData announced
  rw [hmetadata]

/-- No number in an announce has more than 64 bits. -/
def PropagationNode.Writable (node : PropagationNode) (now : Nat) : Prop :=
  now < 2 ^ 64 ∧ node.propagationStampCost < 2 ^ 64
    ∧ node.propagationStampCostFlexibility < 2 ^ 64
    ∧ node.peeringCost < 2 ^ 64

/-- What a node of the other implementation announces. -/
theorem PropagationNode.announceData_eq {node : PropagationNode}
    {now : Nat} (h : node.Writable now) :
    node.announceData now = some (announced (.ofU64 now)
      (node.propagationNode && !node.fromStaticOnly)
      node.propagationPerTransferLimit.toValue
      node.propagationPerSyncLimit.toValue
      (.ofU64 node.propagationStampCost)
      (.ofU64 node.propagationStampCostFlexibility)
      (.ofU64 node.peeringCost) node.name) := by
  obtain ⟨hnow, hcost, hflex, hpeering⟩ := h
  have hmetadata : node.announceMetadata = nameEntries node.name := by
    unfold PropagationNode.announceMetadata nameEntries
    cases node.name <;> rfl
  unfold PropagationNode.announceData packedInt announced
  rw [if_pos hnow, if_pos hcost, if_pos hflex, if_pos hpeering, hmetadata]
  rfl

theorem PropagationNode.announceData_none {node : PropagationNode}
    {now : Nat} (h : ¬ node.Writable now) :
    node.announceData now = none := by
  unfold PropagationNode.announceData packedInt
  by_cases hnow : now < 2 ^ 64
  · by_cases hcost : node.propagationStampCost < 2 ^ 64
    · by_cases hflex : node.propagationStampCostFlexibility < 2 ^ 64
      · have hpeering : ¬ node.peeringCost < 2 ^ 64 :=
          fun hpeering => h ⟨hnow, hcost, hflex, hpeering⟩
        rw [if_pos hnow, if_pos hcost, if_pos hflex, if_neg hpeering]
        rfl
      · rw [if_pos hnow, if_pos hcost, if_neg hflex]
        rfl
    · rw [if_pos hnow, if_neg hcost]
      rfl
  · rw [if_neg hnow]
    rfl

theorem Number.plain_toValue (x : Number) : plain x.toValue = true := by
  cases x <;> rfl

-- ============================================== what this one reads

section Here

variable {timebase cost flexibility peering : Integer} {active : Bool}
  {name : Option String} {b : Bytes}

/-- An announce is taken exactly if both limits are integers. -/
theorem announced_isValid_here {transferLimit syncLimit : Number}
    (hread : P.readValue b = .ok (announced timebase active
      transferLimit.toValue syncLimit.toValue cost flexibility peering
      name)) :
    Lxmf.pnAnnounceDataIsValid P b
      = (transferLimit.isInt && syncLimit.isInt) := by
  unfold Lxmf.pnAnnounceDataIsValid
  rw [hread]
  cases transferLimit <;> cases syncLimit <;> rfl

theorem announced_name_here {transferLimit syncLimit : Value}
    (hread : P.readValue b = .ok (announced timebase active transferLimit
      syncLimit cost flexibility peering name)) :
    Lxmf.pnNameFromAppData P b
      = if Lxmf.pnAnnounceDataIsValid P b then name else none := by
  unfold Lxmf.pnNameFromAppData
  rw [hread]
  exact if_congr Iff.rfl (nameFromMetadata_entries name) rfl

theorem announced_stampCost_here {transferLimit syncLimit : Value}
    (hread : P.readValue b = .ok (announced timebase active transferLimit
      syncLimit cost flexibility peering name)) :
    Lxmf.pnStampCostFromAppData P b = cost.asU64 := by
  unfold Lxmf.pnStampCostFromAppData
  rw [hread]
  rfl

end Here

-- ============================================================ both ways

/-- What a router of this implementation announces, the other reads under
its name and with its stamp cost. A node of the other announces itself
unless a number has more than 64 bits. What it announces this one takes
exactly if no limit is a `float`; it reads the name of what it takes, and
the stamp cost of any. -/
theorem announces_cross (hu : u.Agrees P) (hP : RmpvCodec P)
    (ofText : Bytes → Bool) :
    (∀ (σ : Type) (r : LxmfRouter σ),
      ∃ b, r.getPropagationNodeAppData P = some b
        ∧ pnAnnounceDataIsValid u ofText b = true
        ∧ pnNameFromAppData u ofText b = r.name
        ∧ pnStampCostFromAppData u ofText b
          = some (.integer (.ofU64 r.announcedStampCost)))
      ∧ ∀ (node : PropagationNode) (now : Nat),
        (¬ node.Writable now → node.appData u now = none)
          ∧ (node.Writable now → ∃ b, node.appData u now = some b
            ∧ Lxmf.pnAnnounceDataIsValid P b
              = (node.propagationPerTransferLimit.isInt
                && node.propagationPerSyncLimit.isInt)
            ∧ Lxmf.pnNameFromAppData P b
              = (if Lxmf.pnAnnounceDataIsValid P b then node.name
                else none)
            ∧ Lxmf.pnStampCostFromAppData P b
              = some node.propagationStampCost) := by
  constructor
  · intro σ r
    obtain ⟨b, hwrite⟩ := hP.write_ok r.announceData
    have hdata := router_announceData r
    have hplain : plain r.announceData = true := by
      rw [hdata]
      exact plain_announced _ _ rfl rfl _ _ _ _
    have hread := hu.unpackb _ _ hplain hwrite
    rw [hdata] at hread
    have hvalid : pnAnnounceDataIsValid u ofText b = true :=
      announced_isValid hread ofText
    refine ⟨b, ?_, hvalid, announced_name hread hvalid,
      announced_stampCost hread hvalid⟩
    unfold LxmfRouter.getPropagationNodeAppData
    rw [hwrite]
    rfl
  · intro node now
    constructor
    · intro h
      unfold PropagationNode.appData
      rw [PropagationNode.announceData_none h]
      rfl
    · intro h
      have hdata := PropagationNode.announceData_eq h
      obtain ⟨b, hwrite⟩ := hP.write_ok (announced (.ofU64 now)
        (node.propagationNode && !node.fromStaticOnly)
        node.propagationPerTransferLimit.toValue
        node.propagationPerSyncLimit.toValue
        (.ofU64 node.propagationStampCost)
        (.ofU64 node.propagationStampCostFlexibility)
        (.ofU64 node.peeringCost) node.name)
      have hread := hP.read_write _ _ hwrite
      refine ⟨b, ?_, announced_isValid_here hread,
        announced_name_here hread, ?_⟩
      · unfold PropagationNode.appData
        rw [hdata]
        show u.packb _ = some b
        rw [hu.packb _ (plain_announced _ _ (Number.plain_toValue _)
          (Number.plain_toValue _) _ _ _ _), hwrite]
        rfl
      · rw [announced_stampCost_here hread]
        exact asU64_ofU64 h.2.1

section CrossInstance

open Reference

/-- A node whose transfer limit was configured. -/
def docPropagationNode : PropagationNode where
  name := some "relay"
  propagationNode := true
  fromStaticOnly := false
  propagationPerTransferLimit := .float (.fin 256)
  propagationPerSyncLimit := .int (.ofU64 10240)
  propagationStampCost := 16
  propagationStampCostFlexibility := 3
  peeringCost := 18

/-- The announce of that node is not taken, and has no name, here. -/
theorem announces_cross_doc :
    ∃ b, docPropagationNode.appData docUmsgpack 0 = some b
      ∧ Lxmf.pnAnnounceDataIsValid platform b = false
      ∧ Lxmf.pnNameFromAppData platform b = none
      ∧ Lxmf.pnStampCostFromAppData platform b = some 16 := by
  obtain ⟨b, hb, hvalid, hname, hcost⟩ := ((announces_cross
    docUmsgpack_agrees platform_rmpvCodec fun _ => false).2
    docPropagationNode 0).2 ⟨by decide, by decide, by decide, by decide⟩
  have hno : Lxmf.pnAnnounceDataIsValid platform b = false := hvalid
  rw [hno] at hname
  exact ⟨b, hb, hno, hname, hcost⟩

end CrossInstance

end Lxmf.Python
