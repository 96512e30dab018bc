/-
Propagation nodes a router has heard announcements of
(lxmf-rs/src/pn.rs).

A router reads two things off the announcements: whether a node is
known, and the stamp cost it asks for. A directory keeps the announce
that came last, with what it says, and whether it was acknowledged.
-/
import Lxmf.Message

namespace Lxmf

/-- What is known of a propagation node that has announced itself. -/
structure PnDirectoryEntry where
  destinationHash : Hash16
  appData : Bytes
  name : Option String
  stampCost : Option Nat
  lastSeenMs : Nat
  acked : Bool
deriving DecidableEq

/-- The known nodes by their addresses. -/
abbrev PnDirectory := HashMap Hash16 PnDirectoryEntry

/-- Why an announce is refused. -/
inductive PnDirectoryError where
  | invalidAnnounce
deriving DecidableEq

/-- The key of the name in the metadata of an announce. -/
abbrev pnMetaName : UInt8 := 0x01

-- ======================================================= announce data

/-- The stamp cost in an announcement: the first of the three costs that
are its sixth element. -/
def pnStampCostFromAppData (P : Platform) (appData : Bytes) : Option Nat :=
  match P.readValue appData with
  | .ok (.array data) =>
      if data.length < 7 then none
      else
        match (data[5]? : Option Value) with
        | some (.array (.integer cost :: _)) => cost.asU64
        | _ => none
  | _ => none

/-- The three stamp costs of an announcement are integers. -/
def stampCostsAreValid : List Value → Bool
  | .integer _ :: .integer _ :: .integer _ :: _ => true
  | _ => false

/-- Seven elements, of which the first is not looked at. -/
def pnAnnounceDataIsValid (P : Platform) (appData : Bytes) : Bool :=
  match P.readValue appData with
  | .ok (.array (_ :: .integer _ :: .boolean _ :: .integer _ :: .integer _
      :: .array stampCosts :: .map _ :: _)) => stampCostsAreValid stampCosts
  | _ => false

/-- The key of the name in the metadata. -/
def isNameKey : Value → Bool
  | .integer i => i.asU64 == some pnMetaName.toNat
  | _ => false

/-- The first name in the metadata, if it is text. -/
def nameFromMetadata (metadata : List (Value × Value)) : Option String :=
  match metadata.find? fun item => isNameKey item.1 with
  | some (_, .binary b) => String.fromUTF8? ⟨b.toArray⟩
  | some (_, .string s) => s.asStr
  | _ => none

/-- The name of a node, of a valid announce only. -/
def pnNameFromAppData (P : Platform) (appData : Bytes) : Option String :=
  if pnAnnounceDataIsValid P appData then
    match P.readValue appData with
    | .ok (.array data) =>
        match (data[6]? : Option Value) with
        | some (.map metadata) => nameFromMetadata metadata
        | _ => none
    | _ => none
  else none

-- ======================================================= the directory

namespace PnDirectory

/-- A node that announces itself again stays acknowledged. -/
def upsertAnnounce (P : Platform) (d : PnDirectory)
    (destinationHash : Hash16) (appData : Bytes) (nowMs : Nat) :
    Except PnDirectoryError PnDirectory :=
  if !pnAnnounceDataIsValid P appData then throw .invalidAnnounce
  else
    let existingAcked :=
      ((d.lookup destinationHash).map (·.acked)).getD false
    return d.insert destinationHash {
      destinationHash
      appData
      name := pnNameFromAppData P appData
      stampCost := pnStampCostFromAppData P appData
      lastSeenMs := nowMs
      acked := existingAcked }

/-- The entries, the one that was seen longest ago first. -/
def list (d : PnDirectory) : List PnDirectoryEntry :=
  (d.entries.map (·.2)).mergeSort fun a b =>
    decide (a.lastSeenMs ≤ b.lastSeenMs)

/-- Whether the node is known. -/
def acknowledge (d : PnDirectory) (destinationHash : Hash16) :
    Bool × PnDirectory :=
  match d.lookup destinationHash with
  | some entry =>
      (true, d.insert destinationHash { entry with acked := true })
  | none => (false, d)

/-- The entry that went, if the node was known. -/
def delete (d : PnDirectory) (destinationHash : Hash16) :
    Option PnDirectoryEntry × PnDirectory :=
  (d.lookup destinationHash, d.erase destinationHash)

end PnDirectory

end Lxmf
