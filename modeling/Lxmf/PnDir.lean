/-
Directories of propagation nodes that answer each other
(lxmf-rs/src/rns/pn.rs).

# An upsert is not a comparison

What is received is put into the directory as it comes: `upsertAnnounce`
replaces the entry that is there. The time it is stored under is the
later of the time it came with and the clock, so that an entry counts as
seen when it was received.

# On the wire and on the disk

Requests and responses are arrays, an operation first. The entries of a
response are written as the entries of the directory's file are
(lxmf-rs/src/rns/storage.rs), which is read back announce by announce.
-/
import Lxmf.Directory
import Lxmf.Restore

namespace Lxmf

/-- An entry as it is sent and as it is filed. -/
structure PnDirEntryWire where
  destinationHash : Hash16
  appData : Bytes
  lastSeenMs : Nat
  acked : Bool
deriving DecidableEq

/-- What a directory is asked: for all its entries, for one, or to note
that some were acknowledged. -/
inductive PnDirRequest where
  | list
  | get (destinationHash : Hash16)
  | ack (hashes : List Hash16)
deriving DecidableEq

/-- What it answers. -/
inductive PnDirResponse where
  | list (entries : List PnDirEntryWire)
  | get (entry : Option PnDirEntryWire)
  | ack (hashes : List Hash16)
deriving DecidableEq

/-- The operation that comes first in either. -/
inductive PnDirOp where
  | list
  | get
  | ack
deriving DecidableEq

/-- A directory that answers requests and takes responses. -/
structure PnDirService where
  directory : PnDirectory

/-- An entry as it is sent. -/
def PnDirectoryEntry.toWire (entry : PnDirectoryEntry) : PnDirEntryWire where
  destinationHash := entry.destinationHash
  appData := entry.appData
  lastSeenMs := entry.lastSeenMs
  acked := entry.acked

namespace PnDirService

/-- The loop of the `Ack` arm: the hashes that are known, acknowledged. -/
def ackAll (d : PnDirectory) : List Hash16 → List Hash16 × PnDirectory
  | [] => ([], d)
  | hash :: hashes =>
      let (known, d) := d.acknowledge hash
      let (acked, d) := ackAll d hashes
      (if known then hash :: acked else acked, d)

/-- `handle_request`. Only an acknowledgement changes the directory. -/
def handleRequest (service : PnDirService) (req : PnDirRequest) :
    PnDirResponse × PnDirService :=
  match req with
  | .list =>
      (.list (service.directory.list.map PnDirectoryEntry.toWire), service)
  | .get hash =>
      (.get ((service.directory.lookup hash).map PnDirectoryEntry.toWire),
        service)
  | .ack hashes =>
      let (acked, directory) := ackAll service.directory hashes
      (.ack acked, { service with directory })

variable (P : Platform)

/-- What `apply_response` does with one entry. An announce that is not
valid is ignored, its flag is not. -/
def applyEntry (nowMs : Nat) (d : PnDirectory) (entry : PnDirEntryWire) :
    PnDirectory :=
  let d := (d.upsertAnnounce P entry.destinationHash entry.appData
    (max entry.lastSeenMs nowMs)).toOption.getD d
  if entry.acked then (d.acknowledge entry.destinationHash).2 else d

/-- `apply_response`, to a response that came at `nowMs`. -/
def applyResponse (service : PnDirService) (response : PnDirResponse)
    (nowMs : Nat) : PnDirService :=
  match response with
  | .list entries =>
      { service with
        directory := entries.foldl (applyEntry P nowMs) service.directory }
  | .get (some entry) =>
      { service with
        directory := applyEntry P nowMs service.directory entry }
  | .get none => service
  | .ack hashes =>
      { service with
        directory := hashes.foldl (fun d hash => (d.acknowledge hash).2)
          service.directory }

end PnDirService

-- =========================================================== the codecs

/-- The number of an operation on the wire. -/
def PnDirOp.toNat : PnDirOp → Nat
  | .list => 1
  | .get => 2
  | .ack => 3

/-- `entry_to_value`: four fields, by their position. -/
def entryToValue (entry : PnDirEntryWire) : Value :=
  .array
    [.binary entry.destinationHash.toList,
     .binary entry.appData,
     .ofNat entry.lastSeenMs,
     .boolean entry.acked]

/-- `entry_from_value`. A fifth field is ignored. -/
def entryFromValue (value : Value) : Except RnsError PnDirEntryWire := do
  match value with
  | .array arr =>
      if arr.length < 4 then throw (.msgpack "entry missing fields")
      let destinationHash ← orMsgpack "invalid entry hash"
        (valueToFixedBytes destinationLength (arr.getD 0 .nil))
      let appData ← orMsgpack "invalid app data"
        (valueToBytes (arr.getD 1 .nil))
      let lastSeenRaw ← orMsgpack "invalid last_seen"
        (arr.getD 2 .nil).asI64
      if lastSeenRaw < 0 then throw (.msgpack "negative last_seen")
      match arr.getD 3 .nil with
      | .boolean acked =>
          return {
            destinationHash
            appData
            lastSeenMs := lastSeenRaw.toNat
            acked }
      | _ => throw (.msgpack "invalid ack flag")
  | _ => throw (.msgpack "entry must be array")

/-- The list of an acknowledgement. -/
def hashesToValue (hashes : List Hash16) : Value :=
  .array (hashes.map fun hash => .binary hash.toList)

/-- A hash of a request or response. -/
def hashFromValue (value : Value) : Except RnsError Hash16 :=
  orMsgpack "invalid hash" (valueToFixedBytes destinationLength value)

/-- A list of an acknowledgement, read back. -/
def hashesFromValue (value : Value) : Except RnsError (List Hash16) :=
  match value with
  | .array list => list.mapM hashFromValue
  | _ => throw (.msgpack "ack list must be array")

/-- A request on the wire. -/
def PnDirRequest.toValue : PnDirRequest → Value
  | .list => .array [.ofNat PnDirOp.list.toNat]
  | .get hash => .array [.ofNat PnDirOp.get.toNat, .binary hash.toList]
  | .ack hashes => .array [.ofNat PnDirOp.ack.toNat, hashesToValue hashes]

/-- A response on the wire; an entry that is not known is `Nil`. -/
def PnDirResponse.toValue : PnDirResponse → Value
  | .list entries =>
      .array [.ofNat PnDirOp.list.toNat, .array (entries.map entryToValue)]
  | .get entry =>
      .array [.ofNat PnDirOp.get.toNat,
        match entry with
        | some entry => entryToValue entry
        | none => .nil]
  | .ack hashes => .array [.ofNat PnDirOp.ack.toNat, hashesToValue hashes]

section Codec

variable (P : Platform)

/-- `encode_pn_dir_request`. -/
def encodePnDirRequest (req : PnDirRequest) : Except RnsError Bytes :=
  writeRns P req.toValue

/-- `encode_pn_dir_response`. -/
def encodePnDirResponse (resp : PnDirResponse) : Except RnsError Bytes :=
  writeRns P resp.toValue

/-- What both decoders start with: the operation, and what follows it. -/
def readPnDirOp (kind : String) (bytes : Bytes) :
    Except RnsError (Int × List Value) := do
  match ← readRns P bytes with
  | .array [] => throw (.msgpack (kind ++ " missing op"))
  | .array (op :: fields) =>
      let op ← orMsgpack "pn dir op invalid" op.asI64
      return (op, fields)
  | _ => throw (.msgpack (kind ++ " must be array"))

/-- `decode_pn_dir_request`. -/
def decodePnDirRequest (bytes : Bytes) : Except RnsError PnDirRequest := do
  let (op, fields) ← readPnDirOp P "pn dir request" bytes
  if op = PnDirOp.list.toNat then return .list
  else if op = PnDirOp.get.toNat then
    let hash ← orMsgpack "missing hash" fields.head?
    return .get (← hashFromValue hash)
  else if op = PnDirOp.ack.toNat then
    let list ← orMsgpack "missing ack list" fields.head?
    return .ack (← hashesFromValue list)
  else throw (.msgpack "unknown pn dir op")

/-- `decode_pn_dir_response`. -/
def decodePnDirResponse (bytes : Bytes) :
    Except RnsError PnDirResponse := do
  let (op, fields) ← readPnDirOp P "pn dir response" bytes
  if op = PnDirOp.list.toNat then
    match ← orMsgpack "missing list" fields.head? with
    | .array list => return .list (← list.mapM entryFromValue)
    | _ => throw (.msgpack "list must be array")
  else if op = PnDirOp.get.toNat then
    match ← orMsgpack "missing entry" fields.head? with
    | .nil => return .get none
    | entry => return .get (some (← entryFromValue entry))
  else if op = PnDirOp.ack.toNat then
    let list ← orMsgpack "missing ack list" fields.head?
    return .ack (← hashesFromValue list)
  else throw (.msgpack "unknown pn dir op")

-- ------------------------------------------------------------- the file

namespace Disk

/-- `save_pn_directory`. -/
def savePnDirectory (directory : PnDirectory) (disk : Disk) : Disk :=
  saveValue P "pn_directory.mpk"
    (.array (directory.list.map fun entry => entryToValue entry.toWire))
    disk

/-- The loop body of `load_pn_directory`. -/
def restorePnEntry (dir : PnDirectory) (item : Value) : PnDirectory :=
  match entryFromValue item with
  | .ok entry =>
      let dir := (dir.upsertAnnounce P entry.destinationHash entry.appData
        entry.lastSeenMs).toOption.getD dir
      if entry.acked then (dir.acknowledge entry.destinationHash).2
      else dir
  | .error _ => dir

/-- `load_pn_directory`: an entry that does not read is skipped. -/
def loadPnDirectory (disk : Disk) : PnDirectory :=
  match disk.loadValue P "pn_directory.mpk" with
  | some (.array list) => list.foldl (restorePnEntry P) ∅
  | _ => ∅

end Disk

end Codec

end Lxmf
