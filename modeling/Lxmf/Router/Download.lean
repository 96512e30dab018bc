/-
Downloads from a propagation node, the links they go through, and what
such a node announces of itself (lxmf-rs/src/rns/router.rs:
`LinkTracker`, `process_link_events`, the functions around
`request_messages_from_propagation_node` and
`get_propagation_node_app_data`).

# Where a download is remembered

A request goes out at once when a link to the node is open. It waits for
the link when a path to the node is known, and for the path when none
is. What waits for a path is kept in the three `wants_download` fields;
what goes out is kept in two queues that the event loop empties.
-/
import Lxmf.Router.Jobs

namespace Lxmf

-- ================================================================ links

namespace LinkTracker

/-- A link that is known already is dated anew. -/
def addDirectLink (t : LinkTracker) (linkId : Hash16) (nowMs : Nat) :
    LinkTracker :=
  { t with directLinks := t.directLinks.insert linkId ⟨linkId, nowMs⟩ }

/-- A link that is known already is listed twice. -/
def addPropagationLink (t : LinkTracker) (linkId : Hash16)
    (nowMs : Nat) : LinkTracker :=
  { t with
    activePropagationLinks :=
      t.activePropagationLinks ++ [⟨linkId, nowMs, false⟩] }

/-- The new link is open. -/
def setOutboundPropagationLink (t : LinkTracker) (linkId : Hash16)
    (nowMs : Nat) : LinkTracker :=
  { t with outboundPropagationLink := some ⟨linkId, nowMs, false⟩ }

/-- It stays in its place, closed, until it is cleaned up. -/
def markOutboundPropagationLinkClosed (t : LinkTracker) : LinkTracker :=
  { t with
    outboundPropagationLink := t.outboundPropagationLink.map fun link =>
      { link with isClosed := true } }

/-- The link after activity, if it is this one. -/
def touch (linkId : Hash16) (nowMs : Nat) (link : PropagationLinkInfo) :
    PropagationLinkInfo :=
  if link.linkId = linkId then { link with lastActivityMs := nowMs }
  else link

/-- `update_link_activity`: of the propagation links the first with the
id is touched, and the outbound link only when there is none. -/
def updateLinkActivity (t : LinkTracker) (linkId : Hash16)
    (nowMs : Nat) : LinkTracker :=
  let t :=
    match t.directLinks.lookup linkId with
    | some info =>
        { t with
          directLinks := t.directLinks.insert linkId
            { info with lastActivityMs := nowMs } }
    | none => t
  match t.activePropagationLinks.findIdx? fun link =>
      link.linkId = linkId with
  | some i =>
      { t with
        activePropagationLinks :=
          t.activePropagationLinks.modify i (touch linkId nowMs) }
  | none =>
      { t with
        outboundPropagationLink :=
          t.outboundPropagationLink.map (touch linkId nowMs) }

/-- Whether a direct link has this id. -/
def hasDirectLink (t : LinkTracker) (linkId : Hash16) : Bool :=
  decide (linkId ∈ t.directLinks)

/-- A closed one counts. -/
def hasPropagationLink (t : LinkTracker) (linkId : Hash16) : Bool :=
  t.activePropagationLinks.any fun link => link.linkId = linkId

/-- Only the end of a direct link of this id takes it away again. -/
def addValidatedPeerLink (t : LinkTracker) (linkId : Hash16) :
    LinkTracker :=
  { t with validatedPeerLinks := insert linkId t.validatedPeerLinks }

end LinkTracker

/-- `LinkEvent`; the payload of data is not looked at. -/
inductive LinkEvent where
  | activated
  | data
  | closed
deriving DecidableEq

/-- An event of a link, with the destination of the link. -/
structure LinkEventData where
  id : Hash16
  addressHash : Hash16
  event : LinkEvent
deriving DecidableEq

/-- The body of the loop of `process_link_events`. -/
def LinkTracker.processLinkEvent (nowMs : Nat) (t : LinkTracker)
    (event : LinkEventData) : LinkTracker :=
  match event.event with
  | .data =>
      let t := t.updateLinkActivity event.id nowMs
      if event.addressHash = event.id then t
      else t.updateLinkActivity event.addressHash nowMs
  | .activated =>
      if t.hasDirectLink event.addressHash then
        t.updateLinkActivity event.addressHash nowMs
      else t.addDirectLink event.addressHash nowMs
  | .closed =>
      let close (link : PropagationLinkInfo) : PropagationLinkInfo :=
        if link.linkId = event.id then { link with isClosed := true }
        else link
      { t with
        outboundPropagationLink := t.outboundPropagationLink.map close
        activePropagationLinks := t.activePropagationLinks.map close }

-- ============================================================ downloads

/-- The limit that stands for none. -/
abbrev prAllMessages : Nat := 0

/-- The seconds for which a request waits for a path. -/
abbrev prPathTimeout : Nat := 10

namespace LxmfRouter

variable {σ : Type} (P : Platform)

/-- An update of the link tracker. -/
def mapLinks (r : LxmfRouter σ) (f : LinkTracker → LinkTracker) :
    LxmfRouter σ :=
  { r with linkTracker := f r.linkTracker }

/-- In their order, all at one time. -/
def processLinkEvents (r : LxmfRouter σ) (events : List LinkEventData)
    (nowMs : Nat) : LxmfRouter σ :=
  r.mapLinks fun t => events.foldl (LinkTracker.processLinkEvent nowMs) t

/-- Through the tracker. -/
def setOutboundPropagationLink (r : LxmfRouter σ) (linkId : Hash16)
    (nowMs : Nat) : LxmfRouter σ :=
  r.mapLinks (·.setOutboundPropagationLink linkId nowMs)

/-- The outbound link is torn down. -/
def tearDownLink (r : LxmfRouter σ) : LxmfRouter σ :=
  r.mapLinks fun t => { t with outboundPropagationLink := none }

/-- `set_outbound_propagation_node`: a new node takes the link down,
unless the link has its hash as id. -/
def setOutboundPropagationNode (r : LxmfRouter σ)
    (destinationHash : Option Hash16) : LxmfRouter σ :=
  if r.outboundPropagationNode = destinationHash then r
  else
    let r := { r with outboundPropagationNode := destinationHash }
    match r.linkTracker.outboundPropagationLink with
    | some link =>
        if some link.linkId = destinationHash then r else r.tearDownLink
    | none => r

/-- The queues of requests and of wanted paths are left as they are. -/
def cancelPropagationNodeRequests (r : LxmfRouter σ) : LxmfRouter σ :=
  let r := r.tearDownLink
  { r.acknowledgeSyncCompletion true none with
    propagationTransferMaxMessages := none }

/-- A message request for when the link is ready. -/
def queueMessageRequest (r : LxmfRouter σ)
    (nodeHash identityHash : Hash16) : LxmfRouter σ :=
  { r with
    wantsDownloadOnPathAvailableFrom := none
    propagationTransferState := prLinkEstablishing
    pnMessageRequests := r.pnMessageRequests
      ++ [(nodeHash, identityHash, r.propagationTransferMaxMessages)] }

/-- `_establish_propagation_link_for_request`. -/
def establishPropagationLinkForRequest (r : LxmfRouter σ)
    (identityHash nodeHash : Hash16) (nowMs : Nat) : LxmfRouter σ :=
  if nodeHash ∈ r.pnDirectory then
    r.queueMessageRequest nodeHash identityHash
  else
    { r with
      wantsDownloadOnPathAvailableFrom := some nodeHash
      wantsDownloadOnPathAvailableTo := some identityHash
      wantsDownloadOnPathAvailableTimeout :=
        some (nowMs / 1000 + prPathTimeout)
      propagationTransferState := prPathRequested
      pnPathRequests := r.pnPathRequests ++ [nodeHash] }

/-- Over the open link, or after a link is set up, or once there is a path
to the node. -/
def requestMessagesFromPropagationNode (r : LxmfRouter σ)
    (identityHash : Hash16) (maxMessages : Option Nat) (nowMs : Nat) :
    LxmfRouter σ :=
  let max := maxMessages.getD prAllMessages
  let r := { r with
    propagationTransferProgress := .fin 0
    propagationTransferMaxMessages := some max }
  match r.outboundPropagationNode with
  | none => r
  | some nodeHash =>
      match r.linkTracker.outboundPropagationLink with
      | some link =>
          if link.isClosed then
            r.establishPropagationLinkForRequest identityHash nodeHash nowMs
          else
            { r with
              propagationTransferState := prRequestSent
              pnMessageRequests := r.pnMessageRequests
                ++ [(nodeHash, identityHash, some max)] }
      | none =>
          r.establishPropagationLinkForRequest identityHash nodeHash nowMs

/-- The caller sends what was queued. -/
def processPnMessageRequests (r : LxmfRouter σ) :
    List (Hash16 × Hash16 × Option Nat) × LxmfRouter σ :=
  (r.pnMessageRequests, { r with pnMessageRequests := [] })

/-- The caller asks the network for the path. -/
def popPnPathRequest (r : LxmfRouter σ) : Option Hash16 × LxmfRouter σ :=
  (r.pnPathRequests.head?,
    { r with pnPathRequests := r.pnPathRequests.tail })

/-- The request that waited for this path is queued. -/
def onPnPathAvailable (r : LxmfRouter σ) (nodeHash : Hash16)
    (_nowMs : Nat) : LxmfRouter σ :=
  if r.wantsDownloadOnPathAvailableFrom = some nodeHash then
    match r.wantsDownloadOnPathAvailableTo with
    | some identityHash => r.queueMessageRequest nodeHash identityHash
    | none => r
  else r

/-- The cost that the chosen node announced. Of a node that is not known,
the path is asked for. -/
def getOutboundPropagationCost (r : LxmfRouter σ) :
    Option Nat × LxmfRouter σ :=
  match r.outboundPropagationNode with
  | none => (none, r)
  | some nodeHash =>
      match r.pnDirectory.lookup nodeHash with
      | some entry =>
          ((pnStampCostFromAppData P entry.appData).map (· % 2 ^ 32), r)
      | none =>
          if r.pnPathRequests.contains nodeHash then (none, r)
          else
            (none,
              { r with pnPathRequests := r.pnPathRequests ++ [nodeHash] })

/-- `poll_path_request_timeout`, and whether the timeout was reached. -/
def pollPathRequestTimeout (r : LxmfRouter σ) (nowMs : Nat) :
    Bool × LxmfRouter σ :=
  match r.wantsDownloadOnPathAvailableFrom,
      r.wantsDownloadOnPathAvailableTimeout with
  | some nodeHash, some timeoutS =>
      if timeoutS ≤ nowMs / 1000 then
        (true, r.acknowledgeSyncCompletion false (some prNoPath))
      else if nodeHash ∈ r.pnDirectory then
        (false, r.onPnPathAvailable nodeHash nowMs)
      else (false, r)
  | _, _ => (false, r)

-- ----------------------------------------------------- its own announce

/-- The metadata of an announce: the name, if there is one. -/
def getPropagationNodeAnnounceMetadata (r : LxmfRouter σ) :
    HashMap UInt8 Bytes :=
  match r.name with
  | some name => (∅ : HashMap UInt8 Bytes).insert pnMetaName (strBytes name)
  | none => ∅

/-- The stamp cost a node announces. -/
def announcedStampCost (r : LxmfRouter σ) : Nat :=
  (r.propagationValidation.map (·.stampCost)).getD
    defaultPropagationStampCost

/-- The seven elements of an announce. -/
def announceData (r : LxmfRouter σ) : Value :=
  let flexibility := (r.propagationValidation.map (·.stampCostFlex)).getD
    defaultPropagationStampFlex
  let peeringCost := (r.peeringValidation.map (·.targetCost)).getD
    defaultPeeringCost
  .array
    [.boolean false,
     .integer (.ofU64 (r.propagationStartedMs / 1000)),
     .boolean (r.propagationNodeEnabled && !r.fromStaticOnly),
     .integer (.ofU64 r.propagationTransferLimitKb.toU64),
     .integer (.ofU64 r.propagationSyncLimitKb.toU64),
     .array
       [.integer (.ofU64 r.announcedStampCost),
        .integer (.ofU64 flexibility),
        .integer (.ofU64 peeringCost)],
     .map (r.getPropagationNodeAnnounceMetadata.entries.map fun e =>
       (.integer (.ofU8 e.1), .binary e.2))]

/-- `get_propagation_node_app_data`, none where writing panics. -/
def getPropagationNodeAppData (r : LxmfRouter σ) : Option Bytes :=
  (P.writeValue r.announceData).toOption

end LxmfRouter

-- ============================================================== events

/-- The calls that bear on a download. -/
inductive DownloadEvent where
  | request (identityHash : Hash16) (maxMessages : Option Nat)
      (nowMs : Nat)
  | pathAvailable (nodeHash : Hash16) (nowMs : Nat)
  | pollPathTimeout (nowMs : Nat)
  | acknowledge (resetState : Bool) (failureState : Option UInt8)
  | cancel
  | cleanLinks (nowMs : Nat)
  | setNode (destinationHash : Option Hash16)
  | setLink (linkId : Hash16) (nowMs : Nat)
  | linkEvents (events : List LinkEventData) (nowMs : Nat)
  | processMessageRequests
  | popPathRequest
  | outboundCost
  /-- What announcements and the user do to the directory. -/
  | directory (f : PnDirectory → PnDirectory)

/-- One event of a download. -/
def LxmfRouter.download {σ : Type} (P : Platform) (r : LxmfRouter σ) :
    DownloadEvent → LxmfRouter σ
  | .request identityHash maxMessages nowMs =>
      r.requestMessagesFromPropagationNode identityHash maxMessages nowMs
  | .pathAvailable nodeHash nowMs => r.onPnPathAvailable nodeHash nowMs
  | .pollPathTimeout nowMs => (r.pollPathRequestTimeout nowMs).2
  | .acknowledge resetState failureState =>
      r.acknowledgeSyncCompletion resetState failureState
  | .cancel => r.cancelPropagationNodeRequests
  | .cleanLinks nowMs => r.cleanLinks nowMs
  | .setNode destinationHash => r.setOutboundPropagationNode destinationHash
  | .setLink linkId nowMs => r.setOutboundPropagationLink linkId nowMs
  | .linkEvents events nowMs => r.processLinkEvents events nowMs
  | .processMessageRequests => r.processPnMessageRequests.2
  | .popPathRequest => r.popPnPathRequest.2
  | .outboundCost => (r.getOutboundPropagationCost P).2
  | .directory f => { r with pnDirectory := f r.pnDirectory }

end Lxmf
