/-
The receipts of requests on a link (reticulum-patched/src/request.rs).

# Shared receipts

A receipt is shared between the caller, who keeps the handle that
`register_request` returned, and the map of pending requests, which may
give its place to another receipt. So the receipts are kept in a list
and a handle is an index. A receipt stays in the list when its place in
the map is gone.

# Clocks and callbacks

An `Instant` is a count of nanoseconds. `Instant::now()` is an argument,
and in the loop of `poll_timeouts`, where every failure reads the clock
again, a function of the failures so far. Callbacks observe: of a
callback it is kept whether it is set, and of a call that it was made.
`progress` is the value of the `f32`.
-/
import Lxmf.Basic

namespace Lxmf

/-- How far a request has come. -/
inductive RequestStatus where
  | failed
  | sent
  | delivered
  | receiving
  | ready
deriving DecidableEq

/-- Which of the callbacks are set. -/
structure RequestCallbacks where
  response : Bool := false
  failed : Bool := false
  progress : Bool := false
deriving DecidableEq

/-- One of the callbacks. -/
inductive RequestCallback where
  | response
  | failed
  | progress
deriving DecidableEq

/-- Whether the callback was given. -/
def RequestCallbacks.isSet (callbacks : RequestCallbacks) :
    RequestCallback → Bool
  | .response => callbacks.response
  | .failed => callbacks.failed
  | .progress => callbacks.progress

/-- What the one who asked holds. -/
structure RequestReceipt where
  requestId : Hash16
  status : RequestStatus
  response : Option Bytes
  progress : F64
  sentAt : Nat
  concludedAt : Option Nat
  timeout : Nat
  callbacks : RequestCallbacks
deriving DecidableEq

/-- The receipts, and which of them are still waited for. -/
structure RequestTracker where
  /-- Every receipt that was made, by its handle. -/
  receipts : List RequestReceipt
  pending : HashMap Hash16 Nat
  /-- The calls of callbacks so far. -/
  fired : List (Nat × RequestCallback)

namespace RequestTracker

/-- Nothing was asked. -/
def new : RequestTracker := ⟨[], ∅, []⟩

/-- The lock of a receipt is taken and the receipt changed. -/
def update (t : RequestTracker) (handle : Nat)
    (f : RequestReceipt → RequestReceipt) : RequestTracker :=
  { t with receipts := t.receipts.modify handle f }

/-- A callback of a receipt is called if it is set. -/
def fire (t : RequestTracker) (handle : Nat) (callback : RequestCallback) :
    RequestTracker :=
  { t with
    fired := t.fired ++
      if t.receipts[handle]?.any (·.callbacks.isSet callback) then
        [(handle, callback)]
      else [] }

/-- The handle is taken out of the map. -/
def removePending (t : RequestTracker) (requestId : Hash16) :
    RequestTracker :=
  { t with pending := t.pending.erase requestId }

/-- `register_request`, with the handle it returns. -/
def registerRequest (t : RequestTracker) (requestId : Hash16)
    (timeout : Nat) (callbacks : RequestCallbacks) (now : Nat) :
    Nat × RequestTracker :=
  let receipt : RequestReceipt :=
    { requestId := requestId
      status := .sent
      response := none
      progress := .fin 0
      sentAt := now
      concludedAt := none
      timeout := timeout
      callbacks := callbacks }
  (t.receipts.length, { t with
    receipts := t.receipts ++ [receipt]
    pending := t.pending.insert requestId t.receipts.length })

/-- A receipt that is past that stays. -/
def markDelivered (t : RequestTracker) (requestId : Hash16) :
    RequestTracker :=
  match t.pending.lookup requestId with
  | none => t
  | some handle =>
      t.update handle fun receipt =>
        if receipt.status = .sent then { receipt with status := .delivered }
        else receipt

/-- Whatever the status of the receipt is. -/
def fireProgress (t : RequestTracker) (requestId : Hash16) :
    RequestTracker :=
  match t.pending.lookup requestId with
  | none => t
  | some handle => t.fire handle .progress

/-- The callback is called of a failed receipt, too. -/
def markReceiving (t : RequestTracker) (requestId : Hash16)
    (progress : F64) : RequestTracker :=
  let t : RequestTracker :=
    match t.pending.lookup requestId with
    | none => t
    | some handle =>
        t.update handle fun receipt =>
          if receipt.status ≠ .failed then
            { receipt with status := .receiving, progress := progress }
          else receipt
  t.fireProgress requestId

/-- Whether the response was taken. -/
def recordResponse (t : RequestTracker) (requestId : Hash16)
    (response : Bytes) (now : Nat) : Bool × RequestTracker :=
  match t.pending.lookup requestId with
  | none => (false, t)
  | some handle =>
      let t := t.removePending requestId
      if t.receipts[handle]?.any (·.status = .failed) then (false, t)
      else
        let t := t.update handle fun receipt =>
          { receipt with
            response := some response
            progress := .fin 1
            status := .ready
            concludedAt := some now }
        (true, t.fire handle .response)

/-- A receipt that is not waited for stays. -/
def markFailed (t : RequestTracker) (requestId : Hash16) (now : Nat) :
    RequestTracker :=
  match t.pending.lookup requestId with
  | none => t
  | some handle =>
      let t := (t.removePending requestId).update handle fun receipt =>
        { receipt with status := .failed, concludedAt := some now }
      t.fire handle .failed

/-- The receipt is open and its time is up. -/
def timedOut (now : Nat) (receipt : RequestReceipt) : Bool :=
  (receipt.status = .sent || receipt.status = .delivered
      || receipt.status = .receiving)
    && decide (receipt.timeout ≤ now - receipt.sentAt)

/-- `poll_timeouts`; `clock k` is read when `k` of the timed out requests
have failed. -/
def pollTimeouts (t : RequestTracker) (now : Nat) (clock : Nat → Nat) :
    RequestTracker :=
  let ids := (t.pending.entries.filter fun entry =>
    t.receipts[entry.2]?.any (timedOut now)).map (·.1)
  ids.zipIdx.foldl (fun t id => t.markFailed id.1 (clock id.2)) t

end RequestTracker

-- ========================================================== operations

/-- The calls that change a tracker. -/
inductive RequestOperation where
  | registerRequest (requestId : Hash16) (timeout : Nat)
      (callbacks : RequestCallbacks) (now : Nat)
  | markDelivered (requestId : Hash16)
  | markReceiving (requestId : Hash16) (progress : F64)
  | recordResponse (requestId : Hash16) (response : Bytes) (now : Nat)
  | markFailed (requestId : Hash16) (now : Nat)
  | pollTimeouts (now : Nat) (clock : Nat → Nat)

/-- A call, without what it returns. -/
def RequestTracker.perform (t : RequestTracker) :
    RequestOperation → RequestTracker
  | .registerRequest requestId timeout callbacks now =>
      (t.registerRequest requestId timeout callbacks now).2
  | .markDelivered requestId => t.markDelivered requestId
  | .markReceiving requestId progress => t.markReceiving requestId progress
  | .recordResponse requestId response now =>
      (t.recordResponse requestId response now).2
  | .markFailed requestId now => t.markFailed requestId now
  | .pollTimeouts now clock => t.pollTimeouts now clock

end Lxmf
