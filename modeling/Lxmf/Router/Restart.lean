/-
A router built over a storage root: what it reads back and the cleaning
it starts with (lxmf-rs/src/rns/router.rs).

The constructor reads the clock twice, once for the start time of the
propagation node and once for the cleaning; both readings are arguments.
-/
import Lxmf.Restore
import Lxmf.Router.Jobs

namespace Lxmf

/-- `TicketStore::restore`. -/
def TicketStore.restore (snapshot : TicketStoreSnapshot) : TicketStore where
  outbound := snapshot.outbound.entries.foldl
    (fun m e => m.insert e.1 ⟨e.2.1, e.2.2⟩) ∅
  inbound := snapshot.inbound
  lastDeliveries := snapshot.lastDeliveries

namespace LxmfRouter

variable {σ : Type} (P : Platform)

abbrev stampCostExpiryS : Nat := 45 * 24 * 60 * 60

def cleanOutboundStampCosts (r : LxmfRouter σ) (nowMs : Nat) :
    Nat × LxmfRouter σ :=
  let kept := HashMap.retain r.outboundStampCosts fun _ cost =>
    (nowS nowMs).le (cost.1.add (.fin stampCostExpiryS))
  let removed := r.outboundStampCosts.keys.length - kept.keys.length
  let r := { r with outboundStampCosts := kept }
  (removed, if 0 < removed then r.persistOutboundStampCosts P else r)

/-- What `with_store_and_root` reads before it cleans. -/
def restored (r : LxmfRouter σ) (disk : Disk) : LxmfRouter σ :=
  let (store, root) := disk.loadPropagationStore P
  { r with
    peers := disk.loadPeers P
    staticPeers := ∅
    ignoredDestinations := ∅
    allowedIdentities := ∅
    authRequired := false
    persistenceRoot := some root
    ticketStore := .restore (disk.loadAvailableTickets P)
    outboundStampCosts := disk.loadOutboundStampCosts P
    localDeliveries := disk.loadLocalDeliveries P
    locallyProcessed := disk.loadLocallyProcessed P
    propagationStore := store
    nodeStats := disk.loadNodeStats P }

def withStoreAndRoot [MessageStore σ] (delivery : RnsOutbound) (store : σ)
    (disk : Disk) (config : RuntimeConfig) (systemNowMs nowMs : Nat) :
    LxmfRouter σ :=
  let facade := withConfig (.withStore delivery store) config systemNowMs
  let facade := (facade.restored P disk).cleanTickets P nowMs
  let facade := (facade.cleanOutboundStampCosts P nowMs).2
  let facade := (facade.cleanTransientIdCaches P nowMs).2
  let facade := (facade.cleanPropagationStore nowMs).2
  facade.saveLocalCaches P

end LxmfRouter

end Lxmf
