/-
Chained blocks with padding: a mode of operation over any block cipher.

# Blocks

`blocks` cuts a list into vectors of one length and `joined` puts them
together again; on whole multiples they undo each other
(`joined_blocks`, `blocks_joined`).

# Chaining

Each block is mixed with the one enciphered before it. Deciphering undoes
this from any starting block, as soon as the cipher undoes itself and
mixing twice does nothing (`decrypt_encrypt`).

# Padding

A list is filled up to a whole number of blocks, by at least one letter,
with letters that say how many they are (`unpad_pad`).
-/
import Mathlib.Data.Vector.Basic

namespace Cbc

variable {α : Type*} {n : Nat}

-- ============================================================= blocks

/-- The first block of a list, filled up. -/
def block (fill : α) (data : List α) : List.Vector α n :=
  ⟨data.take n ++ List.replicate (n - data.length) fill, by
    rw [List.length_append, List.length_take, List.length_replicate]
    omega⟩

/-- The first `k` blocks of a list. -/
def blocks (fill : α) : Nat → List α → List (List.Vector α n)
  | 0, _ => []
  | k + 1, data => block fill data :: blocks fill k (data.drop n)

def joined (bs : List (List.Vector α n)) : List α :=
  bs.flatMap List.Vector.toList

theorem toList_block (fill : α) {data : List α} (h : n ≤ data.length) :
    (block fill data : List.Vector α n).toList = data.take n := by
  show List.take n data ++ List.replicate (n - data.length) fill = _
  rw [Nat.sub_eq_zero_of_le h, List.replicate_zero, List.append_nil]

theorem joined_cons (b : List.Vector α n) (bs : List (List.Vector α n)) :
    joined (b :: bs) = b.toList ++ joined bs := rfl

theorem joined_blocks (fill : α) (k : Nat) {data : List α}
    (h : data.length = n * k) :
    joined (blocks fill k data : List (List.Vector α n)) = data := by
  induction k generalizing data with
  | zero =>
      rw [Nat.mul_zero, List.length_eq_zero_iff] at h
      exact h.symm
  | succ k ih =>
      rw [Nat.mul_succ] at h
      have hrest : (data.drop n).length = n * k := by
        rw [List.length_drop]
        omega
      rw [blocks, joined_cons, ih hrest, toList_block fill (by omega),
        List.take_append_drop]

theorem length_joined (bs : List (List.Vector α n)) :
    (joined bs).length = n * bs.length := by
  induction bs with
  | nil => rfl
  | cons b bs ih =>
      rw [joined_cons, List.length_append, b.toList_length, ih,
        List.length_cons, Nat.mul_succ, Nat.add_comm]

theorem blocks_joined (fill : α) (bs : List (List.Vector α n)) :
    blocks fill bs.length (joined bs) = bs := by
  induction bs with
  | nil => rfl
  | cons b bs ih =>
      have hlength : n ≤ (b.toList ++ joined bs).length := by
        rw [List.length_append, b.toList_length]
        omega
      have hfirst : block fill (b.toList ++ joined bs) = b := by
        apply Subtype.ext
        show (block fill (b.toList ++ joined bs)).toList = b.toList
        rw [toList_block fill hlength, List.take_left' b.toList_length]
      rw [joined_cons, List.length_cons, blocks, hfirst,
        List.drop_left' b.toList_length, ih]

@[simp] theorem length_blocks (fill : α) (k : Nat) (data : List α) :
    (blocks fill k data : List (List.Vector α n)).length = k := by
  induction k generalizing data with
  | zero => rfl
  | succ k ih => rw [blocks, List.length_cons, ih]

-- =========================================================== chaining

section Chaining

variable {β : Type*} (mix : β → β → β) (cipher decipher : β → β)

/-- Encipher blocks, each mixed with the enciphered one before it. -/
def encrypt : β → List β → List β
  | _, [] => []
  | before, b :: bs =>
      cipher (mix b before) :: encrypt (cipher (mix b before)) bs

def decrypt : β → List β → List β
  | _, [] => []
  | before, b :: bs => mix (decipher b) before :: decrypt b bs

variable {mix cipher decipher}

theorem decrypt_encrypt (hmix : ∀ a b, mix (mix a b) b = a)
    (hcipher : ∀ b, decipher (cipher b) = b) (before : β) (bs : List β) :
    decrypt mix decipher before (encrypt mix cipher before bs) = bs := by
  induction bs generalizing before with
  | nil => rfl
  | cons b bs ih => rw [encrypt, decrypt, hcipher, hmix, ih]

@[simp] theorem length_encrypt (before : β) (bs : List β) :
    (encrypt mix cipher before bs).length = bs.length := by
  induction bs generalizing before with
  | nil => rfl
  | cons b bs ih => rw [encrypt, List.length_cons, ih, List.length_cons]

end Chaining

-- ============================================================ padding

section Padding

variable (letter : Nat → α) (number : α → Nat)

/-- Fill up to a multiple of `n`, by one letter at least. -/
def pad (n : Nat) (data : List α) : List α :=
  data ++ List.replicate (n - data.length % n)
    (letter (n - data.length % n))

variable {letter}

theorem length_pad (hn : 0 < n) (data : List α) :
    (pad letter n data).length = n * (data.length / n + 1) := by
  have hmod := Nat.mod_lt data.length hn
  have hdiv := Nat.div_add_mod data.length n
  unfold pad
  rw [List.length_append, List.length_replicate, Nat.mul_succ]
  omega

variable [DecidableEq α]

/-- Take the padding off, if it is one. -/
def unpad (n : Nat) (data : List α) : Option (List α) :=
  match data.getLast? with
  | none => none
  | some last =>
      if number last = 0 ∨ n < number last then none
      else if (data.drop (data.length - number last)).all (· = last) then
        some (data.take (data.length - number last))
      else none

variable {number}

theorem unpad_pad (hn : 0 < n)
    (hnumber : ∀ k, 0 < k → k ≤ n → number (letter k) = k)
    (data : List α) : unpad number n (pad letter n data) = some data := by
  have hmod := Nat.mod_lt data.length hn
  have hread := hnumber (n - data.length % n) (by omega) (by omega)
  have hlast : (pad letter n data).getLast?
      = some (letter (n - data.length % n)) := by
    unfold pad
    rw [List.getLast?_append, List.getLast?_replicate,
      if_neg (by omega)]
    rfl
  have hlength : (pad letter n data).length - (n - data.length % n)
      = data.length := by
    unfold pad
    rw [List.length_append, List.length_replicate, Nat.add_sub_cancel]
  unfold unpad
  simp only [hlast, hread, hlength]
  rw [if_neg (by omega)]
  unfold pad
  rw [List.drop_left, List.take_left, if_pos (by simp)]

end Padding

end Cbc
