/-
A list cut into pieces of one length, and slots the pieces are put into.

Pieces arrive in any order and more than once. A slot keeps what it got
first, a counter follows the filled slots, and when the counter reaches
the number of slots the joined slots are the list. What the slots hold
is compared with a function from the index to the piece, so that the
lemmas also serve a list that was cut some other way.
-/
import Mathlib.Data.List.Basic
import Mathlib.Data.Nat.Basic

namespace Assembly

variable {α : Type}

-- ============================================================== pieces

/-- The `i`-th piece of length `n`; the last one may be shorter. -/
def piece (n : Nat) (l : List α) (i : Nat) : List α :=
  (l.drop (i * n)).take n

/-- How many pieces of length `n` cover a list of length `len`. -/
def pieceCount (n len : Nat) : Nat := (len + n - 1) / n

/-- The first `k` pieces are the first `k * n` elements. -/
theorem flatten_pieces_take (n k : Nat) (l : List α) :
    ((List.range k).map (piece n l)).flatten = l.take (k * n) := by
  induction k with
  | zero => simp
  | succ k ih =>
      rw [List.range_succ, List.map_append, List.flatten_append, ih,
        Nat.succ_mul, List.take_add]
      simp [piece]

theorem le_pieceCount_mul {n : Nat} (hn : 0 < n) (len : Nat) :
    len ≤ pieceCount n len * n := by
  have hdiv := Nat.div_add_mod (len + n - 1) n
  have hmod := Nat.mod_lt (len + n - 1) hn
  rw [Nat.mul_comm] at hdiv
  unfold pieceCount
  omega

theorem pieceCount_le {n : Nat} (hn : 0 < n) (len : Nat) :
    pieceCount n len ≤ len := by
  unfold pieceCount
  rw [Nat.div_le_iff_le_mul_add_pred hn]
  have hmul : len ≤ n * len := Nat.le_mul_of_pos_left len hn
  omega

/-- All pieces together are the list. -/
theorem flatten_pieces {n : Nat} (hn : 0 < n) (l : List α) :
    ((List.range (pieceCount n l.length)).map (piece n l)).flatten
      = l := by
  rw [flatten_pieces_take]
  exact List.take_of_length_le (le_pieceCount_mul hn l.length)

-- =============================================================== slots

/-- How many slots are filled. -/
def filled (slots : List (Option (List α))) : Nat :=
  slots.countP Option.isSome

/-- What is in the slots, in their order. -/
def joined (slots : List (Option (List α))) : List α :=
  (slots.filterMap id).flatten

/-- Every filled slot holds its piece. -/
def Holds (part : Nat → List α) (slots : List (Option (List α))) : Prop :=
  ∀ i x, slots[i]? = some (some x) → x = part i

theorem filled_replicate (n : Nat) :
    filled (List.replicate n (none : Option (List α))) = 0 := by
  simp [filled, List.countP_replicate]

theorem holds_replicate (part : Nat → List α) (n : Nat) :
    Holds part (List.replicate n none) := by
  intro i x h
  rw [List.getElem?_replicate] at h
  split at h
  case isTrue => cases h
  case isFalse => cases h

/-- Filling an empty slot counts. -/
theorem filled_set {slots : List (Option (List α))} {i : Nat}
    {x : List α} (h : slots[i]? = some none) :
    filled (slots.set i (some x)) = filled slots + 1 := by
  induction slots generalizing i with
  | nil => cases h
  | cons slot slots ih =>
      cases i with
      | zero =>
          injection h with h
          subst h
          simp [filled]
      | succ i =>
          have hrest := ih (i := i) (by simpa using h)
          simp only [filled, List.set_cons_succ, List.countP_cons] at hrest ⊢
          omega

/-- A slot may get its piece. -/
theorem Holds.set {part : Nat → List α} {slots : List (Option (List α))}
    (h : Holds part slots) (i : Nat) {x : List α} (hx : x = part i) :
    Holds part (slots.set i (some x)) := by
  intro j y hj
  rw [List.getElem?_set] at hj
  split at hj
  case isTrue hij =>
    split at hj
    case isTrue =>
      injection hj with hj
      injection hj with hj
      rw [← hj, hx, hij]
    case isFalse => cases hj
  case isFalse => exact h j y hj

/-- With every slot filled, the slots are the pieces in order. -/
theorem eq_map_of_full {part : Nat → List α}
    {slots : List (Option (List α))} (h : Holds part slots)
    (hfull : filled slots = slots.length) :
    slots = (List.range slots.length).map fun i => some (part i) := by
  have hall : ∀ slot ∈ slots, slot.isSome = true :=
    List.countP_eq_length.mp hfull
  apply List.ext_getElem?
  intro i
  rw [List.getElem?_map]
  cases hslot : slots[i]? with
  | none =>
      have hlen : slots.length ≤ i := List.getElem?_eq_none_iff.mp hslot
      rw [List.getElem?_eq_none_iff.mpr (by simpa using hlen)]
      rfl
  | some slot =>
      have hmem : slot ∈ slots := List.mem_of_getElem? hslot
      obtain ⟨x, rfl⟩ := Option.isSome_iff_exists.mp (hall slot hmem)
      have hlt : i < slots.length := by
        by_contra hge
        rw [List.getElem?_eq_none_iff.mpr (by omega)] at hslot
        cases hslot
      rw [List.getElem?_range hlt, h i x hslot]
      rfl

/-- With every slot filled, the joined slots are the joined pieces. -/
theorem joined_of_full {part : Nat → List α}
    {slots : List (Option (List α))} (h : Holds part slots)
    (hfull : filled slots = slots.length) :
    joined slots = ((List.range slots.length).map part).flatten := by
  have hmap : ∀ l : List Nat,
      (l.map fun i => some (part i)).filterMap id = l.map part := by
    intro l
    induction l with
    | nil => rfl
    | cons i l ih => simp
  unfold joined
  rw [eq_map_of_full h hfull, hmap, List.length_map, List.length_range]

end Assembly
