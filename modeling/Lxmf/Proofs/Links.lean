/-
The links a router tracks after it has cleaned them
(lxmf-rs/src/rns/router.rs: `LinkTracker`, `process_link_events`,
`clean_links`).

# Two tables of leases

Direct links are a map with one record for each id. Propagation links are
a list: an id that is added twice has two records, and activity renews
only the first. Both are tables of leases, and what holds of a sweep
holds of `clean_links`, for each table with the limit of its own.

# What was recorded

`LinkHistory` is kept beside the tracker: the time of the last add or
activity of each id while it was tracked as a direct link, and as a
propagation link. An event may be two activities, or an add, by what is
tracked when it comes.
-/
import Lxmf.Library.Leases
import Lxmf.Library.Lookup
import Lxmf.Library.Run
import Lxmf.Proofs.PeerSync
import Lxmf.Router.Download

namespace Lxmf

open Leases (Held Records Swept Tells)
open LxmfRouter (linkMaxInactivity pLinkMaxInactivity)

-- ============================================================ the history

/-- Of each id, the last add or activity while it was tracked so. -/
structure LinkHistory where
  direct : Hash16 → Option Nat
  propagation : Hash16 → Option Nat

namespace LinkHistory

def empty : LinkHistory := ⟨fun _ => none, fun _ => none⟩

def addDirect (h : LinkHistory) (linkId : Hash16) (nowMs : Nat) :
    LinkHistory :=
  { h with direct := Function.update h.direct linkId (some nowMs) }

def addPropagation (h : LinkHistory) (linkId : Hash16) (nowMs : Nat) :
    LinkHistory :=
  { h with
    propagation := Function.update h.propagation linkId (some nowMs) }

/-- Activity, recorded for each way the id is tracked. -/
def activity (h : LinkHistory) (t : LinkTracker) (linkId : Hash16)
    (nowMs : Nat) : LinkHistory :=
  let h := if t.hasDirectLink linkId then h.addDirect linkId nowMs else h
  if t.hasPropagationLink linkId then h.addPropagation linkId nowMs else h

/-- What one link event records. -/
def event (h : LinkHistory) (t : LinkTracker) (nowMs : Nat)
    (event : LinkEventData) : LinkHistory :=
  match event.event with
  | .data =>
      let later := h.activity t event.id nowMs
      if event.addressHash = event.id then later
      else later.activity (t.updateLinkActivity event.id nowMs)
        event.addressHash nowMs
  | .activated =>
      if t.hasDirectLink event.addressHash then
        h.activity t event.addressHash nowMs
      else h.addDirect event.addressHash nowMs
  | .closed => h

/-- What link events record, one after the other. -/
def events (nowMs : Nat) : List LinkEventData → LinkTracker →
    LinkHistory → LinkHistory
  | [], _, h => h
  | event :: rest, t, h =>
      events nowMs rest (t.processLinkEvent nowMs event)
        (h.event t nowMs event)

end LinkHistory

-- ============================================================= the tables

namespace LinkTracker

variable {t t' : LinkTracker} {linkId : Hash16} {nowMs : Nat}

def directHeld (t : LinkTracker) : Held Hash16 := fun linkId time =>
  ∃ info, t.directLinks.lookup linkId = some info
    ∧ info.lastActivityMs = time

def propagationHeld (t : LinkTracker) : Held Hash16 := fun linkId time =>
  ∃ link ∈ t.activePropagationLinks, link.linkId = linkId
    ∧ link.lastActivityMs = time

theorem hasDirectLink_iff :
    t.hasDirectLink linkId = true ↔ ∃ time, t.directHeld linkId time := by
  unfold hasDirectLink directHeld
  rw [decide_eq_true_iff, HashMap.mem_iff_lookup]
  constructor
  · rintro ⟨info, hinfo⟩
    exact ⟨_, info, hinfo, rfl⟩
  · rintro ⟨_, info, hinfo, -⟩
    exact ⟨info, hinfo⟩

theorem hasPropagationLink_iff :
    t.hasPropagationLink linkId = true
      ↔ ∃ time, t.propagationHeld linkId time := by
  unfold hasPropagationLink propagationHeld
  rw [List.any_eq_true]
  constructor
  · rintro ⟨link, hlink, hid⟩
    exact ⟨_, link, hlink, of_decide_eq_true hid, rfl⟩
  · rintro ⟨_, link, hlink, hid, -⟩
    exact ⟨link, hlink, decide_eq_true hid⟩

/-- A map in which the record of one id is put. -/
theorem directHeld_insert {info : DirectLinkInfo}
    (hlinks : t'.directLinks = t.directLinks.insert linkId info)
    (htime : info.lastActivityMs = nowMs) :
    Records linkId nowMs t.directHeld t'.directHeld where
  self := by
    refine ⟨info, ?_, htime⟩
    rw [hlinks, AList.lookup_insert]
  others time h := by
    obtain ⟨found, hfound, rfl⟩ := h
    rw [hlinks, AList.lookup_insert] at hfound
    injection hfound with hsame
    rw [← hsame]
    exact .inl htime
  frame other hother time := by
    unfold directHeld
    rw [hlinks, AList.lookup_insert_ne hother]

theorem addPropagationLink_records :
    Records linkId nowMs t.propagationHeld
      (t.addPropagationLink linkId nowMs).propagationHeld where
  self := ⟨⟨linkId, nowMs, false⟩,
    List.mem_append_right _ (List.mem_singleton_self _), rfl, rfl⟩
  others time h := by
    obtain ⟨link, hlink, hid, rfl⟩ := h
    rcases List.mem_append.mp hlink with hold | hnew
    · exact .inr ⟨link, hold, hid, rfl⟩
    · rw [List.mem_singleton.mp hnew]
      exact .inl rfl
  frame other hother time := by
    constructor
    · rintro ⟨link, hlink, hid, htime⟩
      rcases List.mem_append.mp hlink with hold | hnew
      · exact ⟨link, hold, hid, htime⟩
      · rw [List.mem_singleton.mp hnew] at hid
        exact absurd hid.symm hother
    · rintro ⟨link, hlink, hid, htime⟩
      exact ⟨link, List.mem_append_left _ hlink, hid, htime⟩

-- ------------------------------------------------------------- activity

theorem updateLinkActivity_directLinks (t : LinkTracker)
    (linkId : Hash16) (nowMs : Nat) :
    (t.updateLinkActivity linkId nowMs).directLinks
      = match t.directLinks.lookup linkId with
        | some info =>
            t.directLinks.insert linkId { info with lastActivityMs := nowMs }
        | none => t.directLinks := by
  unfold updateLinkActivity
  dsimp only
  cases t.directLinks.lookup linkId with
  | none =>
      dsimp only
      split
      case h_1 => rfl
      case h_2 => rfl
  | some info =>
      dsimp only
      split
      case h_1 => rfl
      case h_2 => rfl

theorem updateLinkActivity_propagationLinks (t : LinkTracker)
    (linkId : Hash16) (nowMs : Nat) :
    (t.updateLinkActivity linkId nowMs).activePropagationLinks
      = match t.activePropagationLinks.findIdx? fun link =>
          link.linkId = linkId with
        | some i =>
            t.activePropagationLinks.modify i (touch linkId nowMs)
        | none => t.activePropagationLinks := by
  unfold updateLinkActivity
  cases t.directLinks.lookup linkId with
  | none =>
      dsimp only
      split
      case h_1 i hfind => rw [hfind]
      case h_2 hnone => rw [hnone]
  | some info =>
      dsimp only
      split
      case h_1 i hfind => rw [hfind]
      case h_2 hnone => rw [hnone]

/-- A list in which one record of an id is renewed. -/
theorem renewed_records {before after : List PropagationLinkInfo}
    {link : PropagationLinkInfo}
    (hlinks : t.activePropagationLinks = before ++ link :: after)
    (hlinks' : t'.activePropagationLinks
      = before ++ { link with lastActivityMs := nowMs } :: after)
    (hlink : link.linkId = linkId) :
    Records linkId nowMs t.propagationHeld t'.propagationHeld where
  self := by
    refine ⟨{ link with lastActivityMs := nowMs }, ?_, hlink, rfl⟩
    rw [hlinks']
    exact List.mem_append_right _ List.mem_cons_self
  others time h := by
    obtain ⟨found, hfound, hid, rfl⟩ := h
    rw [hlinks', List.mem_append, List.mem_cons] at hfound
    rcases hfound with hbefore | rfl | hafter
    · refine .inr ⟨found, ?_, hid, rfl⟩
      rw [hlinks]
      exact List.mem_append_left _ hbefore
    · exact .inl rfl
    · refine .inr ⟨found, ?_, hid, rfl⟩
      rw [hlinks]
      exact List.mem_append_right _ (List.mem_cons_of_mem _ hafter)
  frame other hother time := by
    -- no record of another id is the renewed one
    have hmoves {x y : PropagationLinkInfo} (hx : x.linkId = linkId)
        (h : ∃ found ∈ before ++ x :: after, found.linkId = other
          ∧ found.lastActivityMs = time) :
        ∃ found ∈ before ++ y :: after, found.linkId = other
          ∧ found.lastActivityMs = time := by
      obtain ⟨found, hfound, hid, htime⟩ := h
      rw [List.mem_append, List.mem_cons] at hfound
      refine ⟨found, ?_, hid, htime⟩
      rw [List.mem_append, List.mem_cons]
      rcases hfound with hbefore | rfl | hafter
      · exact .inl hbefore
      · exact absurd (hid.symm.trans hx) hother
      · exact .inr (.inr hafter)
    unfold propagationHeld
    rw [hlinks, hlinks']
    exact ⟨hmoves hlink, hmoves hlink⟩

/-- Activity of a direct link renews its record. -/
theorem updateLinkActivity_direct (h : t.hasDirectLink linkId = true) :
    Records linkId nowMs t.directHeld
      (t.updateLinkActivity linkId nowMs).directHeld := by
  obtain ⟨_, info, hinfo, -⟩ := hasDirectLink_iff.mp h
  have hlinks := updateLinkActivity_directLinks t linkId nowMs
  rw [hinfo] at hlinks
  exact directHeld_insert hlinks rfl

theorem updateLinkActivity_not_direct (h : ¬ t.hasDirectLink linkId = true) :
    (t.updateLinkActivity linkId nowMs).directLinks = t.directLinks := by
  rw [updateLinkActivity_directLinks]
  cases hlookup : t.directLinks.lookup linkId with
  | none => rfl
  | some info =>
      exact absurd (hasDirectLink_iff.mpr ⟨_, info, hlookup, rfl⟩) h

/-- The first record of the id is renewed, whatever others there are. -/
theorem updateLinkActivity_propagation
    (h : t.hasPropagationLink linkId = true) :
    Records linkId nowMs t.propagationHeld
      (t.updateLinkActivity linkId nowMs).propagationHeld := by
  have hsome := h
  unfold hasPropagationLink at hsome
  rw [← List.findIdx?_isSome] at hsome
  obtain ⟨i, hi⟩ := Option.isSome_iff_exists.mp hsome
  obtain ⟨hlen, hfirst, -⟩ := List.findIdx?_eq_some_iff_getElem.mp hi
  have hlinks := updateLinkActivity_propagationLinks t linkId nowMs
  rw [hi] at hlinks
  obtain ⟨before, link, after, hsplit, hbefore, hmodify⟩ :=
    List.exists_of_modify (touch linkId nowMs) hlen
  have hlink : link.linkId = linkId := by
    rw [List.getElem_of_append hsplit hbefore] at hfirst
    exact of_decide_eq_true hfirst
  have htouch : touch linkId nowMs link
      = { link with lastActivityMs := nowMs } := if_pos hlink
  dsimp only at hlinks
  rw [hmodify, htouch] at hlinks
  exact renewed_records hsplit hlinks hlink

theorem updateLinkActivity_not_propagation
    (h : ¬ t.hasPropagationLink linkId = true) :
    (t.updateLinkActivity linkId nowMs).activePropagationLinks
      = t.activePropagationLinks := by
  unfold hasPropagationLink at h
  rw [← List.findIdx?_isSome, Bool.not_eq_true, Option.isSome_eq_false_iff,
    Option.isNone_iff_eq_none] at h
  rw [updateLinkActivity_propagationLinks, h]

/-- A link that closes keeps its id and its time. -/
theorem processLinkEvent_closed {event : LinkEventData}
    (h : event.event = .closed) :
    (t.processLinkEvent nowMs event).directLinks = t.directLinks
      ∧ ∀ linkId time,
        (t.processLinkEvent nowMs event).propagationHeld linkId time
          ↔ t.propagationHeld linkId time := by
  unfold processLinkEvent
  rw [h]
  refine ⟨rfl, fun linkId time => ?_⟩
  unfold propagationHeld
  dsimp only
  have hkeeps (link : PropagationLinkInfo) :
      (if link.linkId = event.id then { link with isClosed := true }
        else link).linkId = link.linkId
      ∧ (if link.linkId = event.id then { link with isClosed := true }
        else link).lastActivityMs = link.lastActivityMs := by
    split
    case isTrue => exact ⟨rfl, rfl⟩
    case isFalse => exact ⟨rfl, rfl⟩
  constructor
  · rintro ⟨_, hfound, hid, htime⟩
    obtain ⟨link, hlink, rfl⟩ := List.mem_map.mp hfound
    rw [(hkeeps link).1] at hid
    rw [(hkeeps link).2] at htime
    exact ⟨link, hlink, hid, htime⟩
  · rintro ⟨link, hlink, hid, htime⟩
    refine ⟨_, List.mem_map.mpr ⟨link, hlink, rfl⟩, ?_, ?_⟩
    · rw [(hkeeps link).1, hid]
    · rw [(hkeeps link).2, htime]

end LinkTracker

-- =========================================================== one sweep

namespace LxmfRouter

variable {σ : Type} {r : LxmfRouter σ} {nowMs : Nat}

/-- More than the limit has passed. -/
def inactive (nowMs lastActivityMs limitS : Nat) : Bool :=
  decide (limitS * 1000 < nowMs - lastActivityMs)

/-- The direct links that `clean_links` closes. -/
def inactiveDirect (r : LxmfRouter σ) (nowMs : Nat) : List Hash16 :=
  (r.linkTracker.directLinks.entries.filter fun e =>
    inactive nowMs e.2.lastActivityMs linkMaxInactivity).map (·.1)

theorem cleanLinks_links (r : LxmfRouter σ) (nowMs : Nat) :
    (r.cleanLinks nowMs).linkTracker.directLinks
        = (r.inactiveDirect nowMs).foldl (fun m id => m.erase id)
          r.linkTracker.directLinks
      ∧ (r.cleanLinks nowMs).linkTracker.activePropagationLinks
        = r.linkTracker.activePropagationLinks.filter fun link =>
          !inactive nowMs link.lastActivityMs pLinkMaxInactivity := by
  unfold cleanLinks cleanOutboundLink
  dsimp only
  split
  case h_1 =>
    split
    case isTrue => exact ⟨rfl, rfl⟩
    case isFalse => exact ⟨rfl, rfl⟩
  case h_2 => exact ⟨rfl, rfl⟩

theorem mem_inactiveDirect {linkId : Hash16} {info : DirectLinkInfo}
    (hinfo : r.linkTracker.directLinks.lookup linkId = some info) :
    linkId ∈ r.inactiveDirect nowMs
      ↔ linkMaxInactivity * 1000 < nowMs - info.lastActivityMs := by
  unfold inactiveDirect
  rw [List.mem_map]
  constructor
  · rintro ⟨e, he, rfl⟩
    obtain ⟨hmem, hlapsed⟩ := List.mem_filter.mp he
    have hfound : r.linkTracker.directLinks.lookup e.1 = some e.2 :=
      AList.mem_lookup_iff.mpr hmem
    rw [hinfo] at hfound
    injection hfound with hsame
    rw [hsame]
    exact of_decide_eq_true hlapsed
  · intro hlapsed
    exact ⟨⟨linkId, info⟩, List.mem_filter.mpr
      ⟨AList.mem_lookup_iff.mp hinfo, decide_eq_true hlapsed⟩, rfl⟩

theorem cleanLinks_sweeps_direct (r : LxmfRouter σ) (nowMs : Nat) :
    Swept (linkMaxInactivity * 1000) nowMs r.linkTracker.directHeld
      (r.cleanLinks nowMs).linkTracker.directHeld := by
  intro linkId time
  unfold LinkTracker.directHeld
  rw [(cleanLinks_links r nowMs).1]
  constructor
  · rintro ⟨info, hinfo, rfl⟩
    obtain ⟨hbefore, hkept⟩ := AList.lookup_of_lookup_foldl_erase hinfo
    rw [mem_inactiveDirect hbefore, Nat.not_lt] at hkept
    exact ⟨⟨info, hbefore, rfl⟩, hkept⟩
  · rintro ⟨⟨info, hinfo, rfl⟩, hrecent⟩
    have hkept : linkId ∉ r.inactiveDirect nowMs := by
      rw [mem_inactiveDirect hinfo]
      exact Nat.not_lt.mpr hrecent
    exact ⟨info, (AList.lookup_foldl_erase hkept).trans hinfo, rfl⟩

theorem cleanLinks_sweeps_propagation (r : LxmfRouter σ) (nowMs : Nat) :
    Swept (pLinkMaxInactivity * 1000) nowMs r.linkTracker.propagationHeld
      (r.cleanLinks nowMs).linkTracker.propagationHeld := by
  intro linkId time
  unfold LinkTracker.propagationHeld
  rw [(cleanLinks_links r nowMs).2]
  have hkept (link : PropagationLinkInfo) :
      (!inactive nowMs link.lastActivityMs pLinkMaxInactivity) = true
        ↔ nowMs - link.lastActivityMs ≤ pLinkMaxInactivity * 1000 := by
    unfold inactive
    rw [Bool.not_eq_true', decide_eq_false_iff_not, Nat.not_lt]
  constructor
  · rintro ⟨link, hlink, hid, rfl⟩
    obtain ⟨hbefore, hrecent⟩ := List.mem_filter.mp hlink
    exact ⟨⟨link, hbefore, hid, rfl⟩, (hkept link).mp hrecent⟩
  · rintro ⟨⟨link, hlink, hid, rfl⟩, hrecent⟩
    exact ⟨link, List.mem_filter.mpr ⟨hlink, (hkept link).mpr hrecent⟩,
      hid, rfl⟩

end LxmfRouter

-- =========================================================== the calls

theorem LinkHistory.activity_direct (h : LinkHistory) (t : LinkTracker)
    (linkId : Hash16) (nowMs : Nat) :
    (h.activity t linkId nowMs).direct
      = if t.hasDirectLink linkId then
          Function.update h.direct linkId (some nowMs)
        else h.direct := by
  unfold activity
  dsimp only
  split_ifs
  case pos => rfl
  case neg => rfl
  case pos => rfl
  case neg => rfl

theorem LinkHistory.activity_propagation (h : LinkHistory)
    (t : LinkTracker) (linkId : Hash16) (nowMs : Nat) :
    (h.activity t linkId nowMs).propagation
      = if t.hasPropagationLink linkId then
          Function.update h.propagation linkId (some nowMs)
        else h.propagation := by
  unfold activity
  dsimp only
  split_ifs
  case pos => rfl
  case neg => rfl
  case pos => rfl
  case neg => rfl

namespace LinkTracker

variable {t t' : LinkTracker} {h : LinkHistory} {nowMs : Nat}

/-- The tracker holds what its history says. -/
structure Exact (t : LinkTracker) (h : LinkHistory) (nowMs : Nat) :
    Prop where
  direct : Tells h.direct t.directHeld (linkMaxInactivity * 1000) nowMs
  propagation : Tells h.propagation t.propagationHeld
    (pLinkMaxInactivity * 1000) nowMs

theorem Exact.later (hexact : t.Exact h nowMs) {next : Nat}
    (hle : nowMs ≤ next) : t.Exact h next :=
  ⟨hexact.direct.later hle, hexact.propagation.later hle⟩

theorem Exact.addDirectLink (hexact : t.Exact h nowMs) (linkId : Hash16) :
    (t.addDirectLink linkId nowMs).Exact (h.addDirect linkId nowMs) nowMs :=
  ⟨hexact.direct.record (directHeld_insert rfl rfl), hexact.propagation⟩

theorem Exact.addPropagationLink (hexact : t.Exact h nowMs)
    (linkId : Hash16) :
    (t.addPropagationLink linkId nowMs).Exact
      (h.addPropagation linkId nowMs) nowMs :=
  ⟨hexact.direct, hexact.propagation.record addPropagationLink_records⟩

theorem Exact.updateLinkActivity (hexact : t.Exact h nowMs)
    (linkId : Hash16) :
    (t.updateLinkActivity linkId nowMs).Exact (h.activity t linkId nowMs)
      nowMs := by
  constructor
  · rw [LinkHistory.activity_direct]
    split
    case isTrue hd =>
      exact hexact.direct.record (updateLinkActivity_direct hd)
    case isFalse hd =>
      refine hexact.direct.congr fun other time => ?_
      unfold directHeld
      rw [updateLinkActivity_not_direct hd]
  · rw [LinkHistory.activity_propagation]
    split
    case isTrue hp =>
      exact hexact.propagation.record (updateLinkActivity_propagation hp)
    case isFalse hp =>
      refine hexact.propagation.congr fun other time => ?_
      unfold propagationHeld
      rw [updateLinkActivity_not_propagation hp]

theorem Exact.processLinkEvent (hexact : t.Exact h nowMs)
    (event : LinkEventData) :
    (t.processLinkEvent nowMs event).Exact (h.event t nowMs event)
      nowMs := by
  cases hevent : event.event with
  | data =>
      have hfirst := hexact.updateLinkActivity event.id
      unfold LinkTracker.processLinkEvent LinkHistory.event
      rw [hevent]
      dsimp only
      split
      case isTrue => exact hfirst
      case isFalse => exact hfirst.updateLinkActivity event.addressHash
  | activated =>
      unfold LinkTracker.processLinkEvent LinkHistory.event
      rw [hevent]
      dsimp only
      split
      case isTrue => exact hexact.updateLinkActivity event.addressHash
      case isFalse => exact hexact.addDirectLink event.addressHash
  | closed =>
      obtain ⟨hdirect, hpropagation⟩ := processLinkEvent_closed hevent
      unfold LinkHistory.event
      rw [hevent]
      refine ⟨hexact.direct.congr fun other time => ?_,
        hexact.propagation.congr hpropagation⟩
      unfold directHeld
      rw [hdirect]

theorem Exact.processLinkEvents (hexact : t.Exact h nowMs)
    (events : List LinkEventData) :
    (events.foldl (LinkTracker.processLinkEvent nowMs) t).Exact
      (LinkHistory.events nowMs events t h) nowMs := by
  induction events generalizing t h with
  | nil => exact hexact
  | cons event events ih => exact ih (hexact.processLinkEvent event)

end LinkTracker

-- =============================================================== the runs

/-- What is done to the links of a router. -/
inductive LinkAction where
  | addDirectLink (linkId : Hash16)
  | addPropagationLink (linkId : Hash16)
  | updateLinkActivity (linkId : Hash16)
  | processLinkEvents (events : List LinkEventData)
  | cleanLinks

/-- What an action records of the links of a tracker. -/
def LinkHistory.after (h : LinkHistory) (t : LinkTracker) (nowMs : Nat) :
    LinkAction → LinkHistory
  | .addDirectLink linkId => h.addDirect linkId nowMs
  | .addPropagationLink linkId => h.addPropagation linkId nowMs
  | .updateLinkActivity linkId => h.activity t linkId nowMs
  | .processLinkEvents events => LinkHistory.events nowMs events t h
  | .cleanLinks => h

/-- A router, the time of the last action, and what was recorded. -/
structure LinkRun (σ : Type) where
  router : LxmfRouter σ
  nowMs : Nat
  history : LinkHistory

namespace LinkRun

variable {σ : Type} {s : LinkRun σ}

def start (r : LxmfRouter σ) (nowMs : Nat) : LinkRun σ :=
  ⟨r, nowMs, .empty⟩

/-- The router after an action. -/
def routerAfter (r : LxmfRouter σ) (nowMs : Nat) : LinkAction → LxmfRouter σ
  | .addDirectLink linkId => r.mapLinks (·.addDirectLink linkId nowMs)
  | .addPropagationLink linkId =>
      r.mapLinks (·.addPropagationLink linkId nowMs)
  | .updateLinkActivity linkId =>
      r.mapLinks (·.updateLinkActivity linkId nowMs)
  | .processLinkEvents events => r.processLinkEvents events nowMs
  | .cleanLinks => r.cleanLinks nowMs

def apply (call : LinkAction × Nat) (s : LinkRun σ) : Option (LinkRun σ) :=
  some {
    router := routerAfter s.router call.2 call.1
    nowMs := call.2
    history := s.history.after s.router.linkTracker call.2 call.1 }

/-- The clock does not go back. -/
def InOrder (s : LinkRun σ) (call : LinkAction × Nat) : Prop :=
  s.nowMs ≤ call.2

def Exact (s : LinkRun σ) : Prop :=
  s.router.linkTracker.Exact s.history s.nowMs

theorem Exact.apply (h : s.Exact) {call : LinkAction × Nat}
    (hcall : s.InOrder call) {s' : LinkRun σ}
    (happly : LinkRun.apply call s = some s') : s'.Exact := by
  cases happly
  obtain ⟨action, nowMs⟩ := call
  have hnow : s.router.linkTracker.Exact s.history nowMs :=
    LinkTracker.Exact.later h hcall
  cases action with
  | addDirectLink linkId => exact hnow.addDirectLink linkId
  | addPropagationLink linkId => exact hnow.addPropagationLink linkId
  | updateLinkActivity linkId => exact hnow.updateLinkActivity linkId
  | processLinkEvents events => exact hnow.processLinkEvents events
  | cleanLinks =>
      exact ⟨hnow.direct.sweep (LxmfRouter.cleanLinks_sweeps_direct _ _),
        hnow.propagation.sweep
          (LxmfRouter.cleanLinks_sweeps_propagation _ _)⟩

theorem exact_of_reaches {r : LxmfRouter σ} {nowMs : Nat}
    (hdirect : r.linkTracker.directLinks = ∅)
    (hpropagation : r.linkTracker.activePropagationLinks = [])
    (h : Run.Reaches apply InOrder (start r nowMs) s) : s.Exact := by
  refine h.invariant ⟨?_, ?_⟩ fun _ _ _ hs hcall => hs.apply hcall
  · refine (Leases.tells_empty _ nowMs).congr fun linkId time => ?_
    show (∃ info, r.linkTracker.directLinks.lookup linkId = some info
      ∧ info.lastActivityMs = time) ↔ False
    rw [hdirect]
    simp
  · refine (Leases.tells_empty _ nowMs).congr fun linkId time => ?_
    show (∃ link ∈ r.linkTracker.activePropagationLinks,
      link.linkId = linkId ∧ link.lastActivityMs = time) ↔ False
    rw [hpropagation]
    simp

/-- Whatever was done to the links of a router that had none, right after
`clean_links` an id is tracked as a direct link, or as a propagation
link, exactly when its last add or activity as such is within the
limit. -/
theorem link_tracking_exact {r : LxmfRouter σ} {startMs nowMs : Nat}
    (hdirect : r.linkTracker.directLinks = ∅)
    (hpropagation : r.linkTracker.activePropagationLinks = [])
    (h : Run.Reaches apply InOrder (start r startMs) s)
    (hnow : s.nowMs ≤ nowMs) (linkId : Hash16) :
    ((s.router.cleanLinks nowMs).linkTracker.hasDirectLink linkId = true
        ↔ ∃ last, s.history.direct linkId = some last
          ∧ nowMs - last ≤ linkMaxInactivity * 1000)
      ∧ ((s.router.cleanLinks nowMs).linkTracker.hasPropagationLink linkId
          = true
        ↔ ∃ last, s.history.propagation linkId = some last
          ∧ nowMs - last ≤ pLinkMaxInactivity * 1000) := by
  have hexact := (exact_of_reaches hdirect hpropagation h).later hnow
  rw [LinkTracker.hasDirectLink_iff, LinkTracker.hasPropagationLink_iff]
  exact ⟨hexact.direct.held_iff (LxmfRouter.cleanLinks_sweeps_direct _ _)
      linkId,
    hexact.propagation.held_iff
      (LxmfRouter.cleanLinks_sweeps_propagation _ _) linkId⟩

section Instance

def docTrackedLink : Hash16 := List.Vector.replicate 16 0x07

/-- A link with two records, of which activity renews the first; then it
is activated, and tracked in both ways. -/
theorem link_tracking_exact_doc :
    ∃ s : LinkRun InMemoryStore,
      s.history.direct docTrackedLink = some 150000
      ∧ s.history.propagation docTrackedLink = some 100000
      ∧ ((s.router.cleanLinks 300000).linkTracker.hasDirectLink
            docTrackedLink = true
          ↔ ∃ last, s.history.direct docTrackedLink = some last
            ∧ 300000 - last ≤ linkMaxInactivity * 1000)
      ∧ ((s.router.cleanLinks 300000).linkTracker.hasPropagationLink
            docTrackedLink = true
          ↔ ∃ last, s.history.propagation docTrackedLink = some last
            ∧ 300000 - last ≤ pLinkMaxInactivity * 1000) := by
  have hadded : Run.Reaches apply InOrder (start docNode 0) _ :=
    Run.Reaches.start.step (.addPropagationLink docTrackedLink, 1000)
      (Nat.zero_le _) rfl
  have htwice := hadded.step (.addPropagationLink docTrackedLink, 50000)
    (show (1000 : Nat) ≤ 50000 by decide) rfl
  have hactive := htwice.step (.updateLinkActivity docTrackedLink, 100000)
    (show (50000 : Nat) ≤ 100000 by decide) rfl
  have hactivated := hactive.step (.processLinkEvents
    [⟨docTrackedLink, docTrackedLink, .activated⟩], 150000)
    (show (100000 : Nat) ≤ 150000 by decide) rfl
  refine ⟨_, ?_, ?_, link_tracking_exact rfl rfl hactivated
    (show (150000 : Nat) ≤ 300000 by decide) docTrackedLink⟩
  · rfl
  · rfl

end Instance

end LinkRun

end Lxmf
