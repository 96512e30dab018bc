/-
A broadcast channel that keeps its newest values, as one of its receivers
sees it.

# The channel

A `Channel` is the entry points of an implementation. What is asked of it
(`Lawful`) is stated over the values that a receiver has yet to read:
sending appends to them, a read takes the first of them, and a read by a
receiver that is further behind than the channel keeps fails, tells how
many values were dropped, and goes on with the oldest that is kept.

# Full in front

A read that lagged leaves the receiver exactly `capacity` values behind.
So the next one lags again as soon as one more value is sent
(`Lawful.length_unread_lagged`).

# One that computes

`positions` is a channel whose receivers have a position each in all that
was sent. It is lawful.
-/
import Mathlib.Data.List.Basic

namespace Broadcast

inductive TryRecvError where
  | empty
  | closed
  | lagged (missed : Nat)
deriving DecidableEq

/-- A channel of a capacity, whose senders are kept. -/
structure Channel (α : Type) (capacity : Nat) where
  Receiver : Type
  subscribe : Receiver
  /-- What a `send` is for the receiver. -/
  send : Receiver → α → Receiver
  tryRecv : Receiver → Except TryRecvError α × Receiver

variable {α : Type} {capacity : Nat}

/-- What a read took. -/
def takenOf : Except TryRecvError α → List α
  | .ok value => [value]
  | .error _ => []

/-- How many values a read passed over. -/
def missedOf : Except TryRecvError α → Nat
  | .error (.lagged missed) => missed
  | .error .empty => 0
  | .error .closed => 0
  | .ok _ => 0

namespace Channel

variable (channel : Channel α capacity)

/-- Several values are sent. -/
def sendAll (r : channel.Receiver) (values : List α) : channel.Receiver :=
  values.foldl channel.send r

/-- The channel reads as documented, where `unread` is what a receiver has
yet to read, the values that are no longer kept among them. -/
structure Lawful (unread : channel.Receiver → List α) : Prop where
  subscribe : unread channel.subscribe = []
  send (r : channel.Receiver) (value : α) :
    unread (channel.send r value) = unread r ++ [value]
  lagged (r : channel.Receiver) (h : capacity < (unread r).length) :
    (channel.tryRecv r).1
        = .error (.lagged ((unread r).length - capacity))
      ∧ unread (channel.tryRecv r).2
        = (unread r).drop ((unread r).length - capacity)
  next (r : channel.Receiver) (value : α) (rest : List α)
    (h : unread r = value :: rest) (hkept : rest.length < capacity) :
    (channel.tryRecv r).1 = .ok value ∧ unread (channel.tryRecv r).2 = rest
  empty (r : channel.Receiver) (h : unread r = []) :
    (channel.tryRecv r).1 = .error .empty
      ∧ unread (channel.tryRecv r).2 = []

namespace Lawful

variable {channel} {unread : channel.Receiver → List α}

theorem sendAll (h : channel.Lawful unread) (r : channel.Receiver)
    (values : List α) :
    unread (channel.sendAll r values) = unread r ++ values := by
  induction values generalizing r with
  | nil => exact (List.append_nil _).symm
  | cons value values ih =>
      show unread (channel.sendAll (channel.send r value) values) = _
      rw [ih, h.send, List.append_assoc, List.singleton_append]

/-- A receiver that is too far behind reads nothing. -/
theorem takenOf_lagged (h : channel.Lawful unread) {r : channel.Receiver}
    (hlag : capacity < (unread r).length) :
    takenOf (channel.tryRecv r).1 = [] := by
  rw [(h.lagged r hlag).1]
  rfl

/-- After that the channel is full in front of it. -/
theorem length_unread_lagged (h : channel.Lawful unread)
    {r : channel.Receiver} (hlag : capacity < (unread r).length) :
    (unread (channel.tryRecv r).2).length = capacity := by
  rw [(h.lagged r hlag).2, List.length_drop]
  omega

/-- A read takes the first unread value, or drops the oldest, or finds
none. -/
theorem tryRecv_cases (h : channel.Lawful unread) (r : channel.Receiver) :
    (∃ value, unread r = value :: unread (channel.tryRecv r).2
        ∧ (channel.tryRecv r).1 = .ok value)
      ∨ (∃ dropped, unread r = dropped ++ unread (channel.tryRecv r).2
        ∧ (channel.tryRecv r).1 = .error (.lagged dropped.length)
        ∧ capacity < (unread r).length)
      ∨ unread r = [] ∧ unread (channel.tryRecv r).2 = []
        ∧ (channel.tryRecv r).1 = .error .empty := by
  by_cases hlag : capacity < (unread r).length
  · obtain ⟨hread, hunread⟩ := h.lagged r hlag
    refine .inr (.inl ⟨(unread r).take ((unread r).length - capacity),
      ?_, ?_, hlag⟩)
    · rw [hunread, List.take_append_drop]
    · rw [hread, List.length_take, Nat.min_eq_left (Nat.sub_le ..)]
  · cases hunread : unread r with
    | nil =>
        obtain ⟨hread, hempty⟩ := h.empty r hunread
        exact .inr (.inr ⟨rfl, hempty, hread⟩)
    | cons value rest =>
        rw [hunread, List.length_cons] at hlag
        obtain ⟨hread, hrest⟩ := h.next r value rest hunread (by omega)
        exact .inl ⟨value, by rw [hrest], hread⟩

/-- What is taken and what stays unread keep their order. -/
theorem tryRecv_sublist (h : channel.Lawful unread)
    (r : channel.Receiver) :
    (takenOf (channel.tryRecv r).1
      ++ unread (channel.tryRecv r).2).Sublist (unread r) := by
  rcases h.tryRecv_cases r with ⟨value, hunread, hread⟩
    | ⟨dropped, hunread, hread, -⟩ | ⟨hunread, hempty, hread⟩
  · rw [hunread, hread]
    exact .refl _
  · rw [hunread, hread]
    exact List.sublist_append_right ..
  · rw [hunread, hempty, hread]
    exact .refl _

/-- What was unread is taken, missed or unread still. -/
theorem tryRecv_counted (h : channel.Lawful unread)
    (r : channel.Receiver) :
    (takenOf (channel.tryRecv r).1).length
        + missedOf (channel.tryRecv r).1
        + (unread (channel.tryRecv r).2).length
      = (unread r).length := by
  rcases h.tryRecv_cases r with ⟨value, hunread, hread⟩
    | ⟨dropped, hunread, hread, -⟩ | ⟨hunread, hempty, hread⟩
  · rw [hunread, hread, List.length_cons]
    exact Nat.add_comm ..
  · rw [hunread, hread, List.length_append]
    exact congrArg (· + _) (Nat.zero_add _)
  · rw [hunread, hempty, hread]
    rfl

/-- Nothing is missed by a receiver that is not too far behind. -/
theorem missedOf_kept (h : channel.Lawful unread) {r : channel.Receiver}
    (hkept : (unread r).length ≤ capacity) :
    missedOf (channel.tryRecv r).1 = 0 := by
  rcases h.tryRecv_cases r with ⟨value, -, hread⟩
    | ⟨dropped, -, -, hlag⟩ | ⟨-, -, hread⟩
  · rw [hread]
    rfl
  · exact absurd hlag (Nat.not_lt.mpr hkept)
  · rw [hread]
    rfl

end Lawful

end Channel

-- ========================================================== positions

/-- A receiver with a position in all that was sent since it
subscribed. -/
structure Position (α : Type) where
  sent : List α
  /-- The position it reads next. -/
  next : Nat
deriving DecidableEq

namespace Position

def unread (r : Position α) : List α := r.sent.drop r.next

def send (r : Position α) (value : α) : Position α :=
  { r with sent := r.sent ++ [value] }

/-- The position of the oldest value that the channel keeps. -/
def oldest (capacity : Nat) (r : Position α) : Nat :=
  r.sent.length - capacity

def tryRecv (capacity : Nat) (r : Position α) :
    Except TryRecvError α × Position α :=
  if r.next < r.oldest capacity then
    (.error (.lagged (r.oldest capacity - r.next)),
      ⟨r.sent, r.oldest capacity⟩)
  else if h : r.next < r.sent.length then
    (.ok r.sent[r.next], ⟨r.sent, r.next + 1⟩)
  else (.error .empty, r)

end Position

/-- A position is not past the end of what was sent. -/
def positions (α : Type) (capacity : Nat) : Channel α capacity where
  Receiver := { r : Position α // r.next ≤ r.sent.length }
  subscribe := ⟨⟨[], 0⟩, Nat.le_refl 0⟩
  send r value := ⟨r.val.send value, by
    show r.val.next ≤ (r.val.sent ++ [value]).length
    rw [List.length_append]
    exact Nat.le_add_right_of_le r.property⟩
  tryRecv r := ((r.val.tryRecv capacity).1,
    ⟨(r.val.tryRecv capacity).2, by
      obtain ⟨r, hle⟩ := r
      unfold Position.tryRecv
      split
      case isTrue => exact Nat.sub_le ..
      case isFalse =>
        split
        case isTrue h => exact h
        case isFalse => exact hle⟩)

theorem positions_lawful (α : Type) (capacity : Nat) :
    (positions α capacity).Lawful fun r => r.val.unread where
  subscribe := rfl
  send r value := by
    show (r.val.sent ++ [value]).drop r.val.next = _
    rw [List.drop_append_of_le_length r.property]
    rfl
  lagged r hlag := by
    obtain ⟨⟨sent, next⟩, hle⟩ := r
    simp only [Position.unread, List.length_drop] at hlag
    have hnext : next ≤ sent.length := hle
    have hold : next < sent.length - capacity := by omega
    have htry : Position.tryRecv capacity ⟨sent, next⟩
        = (.error (.lagged (sent.length - capacity - next)),
          ⟨sent, sent.length - capacity⟩) := if_pos hold
    constructor
    · show (Position.tryRecv capacity ⟨sent, next⟩).1 = _
      rw [htry]
      simp only [Position.unread, List.length_drop]
      congr 2
      omega
    · show (Position.tryRecv capacity ⟨sent, next⟩).2.unread = _
      rw [htry]
      simp only [Position.unread, List.length_drop, List.drop_drop]
      congr 1
      omega
  next r value rest hunread hkept := by
    obtain ⟨⟨sent, next⟩, hle⟩ := r
    have hdrop : sent.drop next = value :: rest := hunread
    have hlength := congrArg List.length hdrop
    rw [List.length_drop, List.length_cons] at hlength
    have hsome : next < sent.length := by omega
    rw [List.drop_eq_getElem_cons hsome] at hdrop
    injection hdrop with hvalue hrest
    have htry : Position.tryRecv capacity ⟨sent, next⟩
        = (.ok sent[next], ⟨sent, next + 1⟩) := by
      unfold Position.tryRecv
      rw [if_neg (by show ¬ next < sent.length - capacity; omega),
        dif_pos hsome]
    constructor
    · show (Position.tryRecv capacity ⟨sent, next⟩).1 = _
      rw [htry, hvalue]
    · show (Position.tryRecv capacity ⟨sent, next⟩).2.unread = _
      rw [htry]
      exact hrest
  empty r hunread := by
    obtain ⟨⟨sent, next⟩, hle⟩ := r
    have hend : sent.length ≤ next := List.drop_eq_nil_iff.mp hunread
    have htry : Position.tryRecv capacity ⟨sent, next⟩
        = (.error .empty, ⟨sent, next⟩) := by
      unfold Position.tryRecv
      rw [if_neg (by show ¬ next < sent.length - capacity; omega),
        dif_neg (Nat.not_lt.mpr hend)]
    constructor
    · show (Position.tryRecv capacity ⟨sent, next⟩).1 = _
      rw [htry]
    · show (Position.tryRecv capacity ⟨sent, next⟩).2.unread = _
      rw [htry]
      exact hunread

end Broadcast
