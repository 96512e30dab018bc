/-
The arithmetic of stamps, on every hash and every cost
(lxmf-rs/src/message.rs: `stamp_value`, `stamp_valid`).

The validity check compares the hash with a target of one set bit, byte
by byte; the value counts zero bits, byte by byte. Read as a big-endian
number the hash decides both: it passes at a cost when it is at most the
power of two the cost leaves, and its value is what its binary size
leaves of 256. They differ at one number for each cost, the target
itself.
-/
import Mathlib.Data.Nat.Size
import Lxmf.Proofs.TransientIds

namespace Lxmf

variable {P : Platform}

-- ======================================================== counting bits

/-- The bits of a byte, the highest first. -/
def byteBits (b : UInt8) : List Bool :=
  (List.range 8).map fun i => b.toNat.testBit (7 - i)

/-- The number of zero bits at the front. -/
def leadingZeroBits (bs : Bytes) : Nat :=
  ((bs.flatMap byteBits).takeWhile fun bit => !bit).length

theorem length_byteBits (b : UInt8) : (byteBits b).length = 8 := by
  unfold byteBits
  rw [List.length_map, List.length_range]

/-- `u8::leading_zeros` counts the zero bits of a byte. -/
theorem leadingZeros_eq {b : UInt8} (hb : b ≠ 0) :
    ((byteBits b).takeWhile fun bit => !bit).length = leadingZeros b := by
  have hall : ∀ n < 256, n ≠ 0 →
      (((List.range 8).map fun i => n.testBit (7 - i)).takeWhile
        fun bit => !bit).length = 7 - n.log2 := by
    decide +kernel
  refine hall b.toNat b.toNat_lt fun h => hb ?_
  exact UInt8.toNat_inj.mp h

theorem leadingZeros_lt (b : UInt8) : leadingZeros b < 8 := by
  unfold leadingZeros
  omega

/-- The counting loop counts the zero bits at the front. -/
theorem countZeroBits_eq (bs : Bytes) :
    countZeroBits bs = leadingZeroBits bs := by
  induction bs with
  | nil => rfl
  | cons b bs ih =>
      unfold countZeroBits leadingZeroBits
      rw [List.flatMap_cons, List.takeWhile_append, length_byteBits]
      by_cases hb : b = 0
      · rw [if_pos hb, hb, if_pos (by decide), List.length_append,
          length_byteBits, ih]
        rfl
      · have hlt := leadingZeros_lt b
        rw [if_neg hb, leadingZeros_eq hb, if_neg (by omega),
          leadingZeros_eq hb]

theorem size_byte {b : UInt8} (hb : b ≠ 0) :
    leadingZeros b = 8 - b.toNat.size := by
  have hne : b.toNat ≠ 0 := fun h => hb (UInt8.toNat_inj.mp h)
  have hle : b.toNat.size ≤ b.toNat.log2 + 1 :=
    Nat.size_le.mpr Nat.lt_log2_self
  have hge : b.toNat.log2 < b.toNat.size :=
    Nat.lt_size.mpr (Nat.log2_self_le hne)
  unfold leadingZeros
  omega

theorem size_bigEndian_le (bs : Bytes) :
    (bigEndian bs).size ≤ 8 * bs.length := by
  rw [Nat.size_le, pow_mul]
  exact bigEndian_lt bs

/-- A number is as long as its digits and its first digit. -/
theorem size_digit {m r n : Nat} (hm : m ≠ 0) (hr : r < 256 ^ n) :
    (m * 256 ^ n + r).size = m.size + 8 * n := by
  have hpow : 256 ^ n = 2 ^ (8 * n) := by rw [pow_mul]; rfl
  refine Nat.le_antisymm (Nat.size_le.mpr ?_) ?_
  · have hlt := Nat.lt_size_self m
    have hmul : (m + 1) * 256 ^ n ≤ 2 ^ m.size * 256 ^ n :=
      Nat.mul_le_mul_right _ hlt
    rw [pow_add, ← hpow]
    rw [Nat.add_mul] at hmul
    omega
  · have hpos : 0 < m.size := Nat.size_pos.mpr (Nat.pos_of_ne_zero hm)
    have hle : 2 ^ (m.size - 1) ≤ m :=
      Nat.lt_size.mp (Nat.sub_lt hpos Nat.one_pos)
    have hlt : m.size - 1 + 8 * n < (m * 256 ^ n + r).size := by
      rw [Nat.lt_size, pow_add, ← hpow]
      exact (Nat.mul_le_mul_right _ hle).trans (Nat.le_add_right _ _)
    omega

/-- What the size of the number leaves is what the loop counts. -/
theorem countZeroBits_eq_size (bs : Bytes) :
    countZeroBits bs = 8 * bs.length - (bigEndian bs).size := by
  induction bs with
  | nil => rfl
  | cons b bs ih =>
      have hsize := size_bigEndian_le bs
      unfold countZeroBits bigEndian
      rw [List.length_cons]
      by_cases hb : b = 0
      · have hzero : b.toNat = 0 := by rw [hb]; rfl
        rw [if_pos hb, ih, hzero, Nat.zero_mul, Nat.zero_add]
        omega
      · have hne : b.toNat ≠ 0 := fun h => hb (UInt8.toNat_inj.mp h)
        rw [if_neg hb, size_digit hne (bigEndian_lt bs), size_byte hb]
        omega

/-- A value is reached when the number is below its power of two. -/
theorem le_countZeroBits_iff {bs : Bytes} {cost : Nat}
    (h : cost ≤ 8 * bs.length) :
    cost ≤ countZeroBits bs
      ↔ bigEndian bs < 2 ^ (8 * bs.length - cost) := by
  have hsize := size_bigEndian_le bs
  rw [countZeroBits_eq_size, ← Nat.size_le]
  omega

theorem countZeroBits_pow {bs : Bytes} {shift : Nat}
    (h : bigEndian bs = 2 ^ shift) :
    countZeroBits bs = 8 * bs.length - (shift + 1) := by
  rw [countZeroBits_eq_size, h, Nat.size_pow]

-- ================================================= stamps and their costs

/-- The hash of a stamp as a number. -/
def stampNumber (P : Platform) (workblock stamp : Bytes) : Nat :=
  bigEndian (fullHash P (workblock ++ stamp)).toList

/-- The check against the target, at the costs that have one. -/
theorem stampValid_iff {cost : Nat} (hpos : 1 ≤ cost) (hmax : cost ≤ 256)
    (workblock stamp : Bytes) :
    stampValid P workblock stamp cost = true
      ↔ stampNumber P workblock stamp ≤ 2 ^ (256 - cost) := by
  have hlen : (fullHash P (workblock ++ stamp)).toList.length
      = (stampTarget (256 - cost)).length := by
    rw [length_stampTarget]
    exact List.Vector.toList_length _
  unfold stampValid stampNumber
  rw [if_neg (by omega), if_neg (by omega)]
  dsimp only
  rw [if_neg (by omega), atMostTarget_iff hlen,
    bigEndian_stampTarget (by omega)]

/-- How the value of a stamp, its validity and its hash agree. -/
structure StampsExactly (P : Platform) (workblock stamp : Bytes) :
    Prop where
  valid_iff : ∀ cost, 1 ≤ cost → cost ≤ 256 →
    (stampValid P workblock stamp cost = true
      ↔ stampNumber P workblock stamp ≤ 2 ^ (256 - cost))
  value_eq : stampValue P workblock stamp
    = leadingZeroBits (fullHash P (workblock ++ stamp)).toList
  value_zero : stampNumber P workblock stamp = 0 →
    stampValue P workblock stamp = 256
  /-- Away from the target the check is a bound on the value. -/
  valid_iff_value : ∀ cost, 1 ≤ cost → cost ≤ 256 →
    stampNumber P workblock stamp ≠ 2 ^ (256 - cost) →
    (stampValid P workblock stamp cost = true
      ↔ cost ≤ stampValue P workblock stamp)
  /-- At the target the value is one short. -/
  at_target : ∀ cost, 1 ≤ cost → cost ≤ 256 →
    stampNumber P workblock stamp = 2 ^ (256 - cost) →
    stampValid P workblock stamp cost = true
      ∧ stampValue P workblock stamp = cost - 1
  free : stampValid P workblock stamp 0 = true
  beyond : ∀ cost, 256 < cost → stampValid P workblock stamp cost = false
  antitone : ∀ lower cost, lower ≤ cost →
    stampValid P workblock stamp cost = true →
    stampValid P workblock stamp lower = true

theorem stamps_exactly (P : Platform) (workblock stamp : Bytes) :
    StampsExactly P workblock stamp := by
  have hlen : (fullHash P (workblock ++ stamp)).toList.length = 32 :=
    List.Vector.toList_length _
  refine
    { valid_iff := fun cost hpos hmax => stampValid_iff hpos hmax _ _
      value_eq := countZeroBits_eq _
      value_zero := fun hzero => ?_
      valid_iff_value := fun cost hpos hmax hne => ?_
      at_target := fun cost hpos hmax heq => ?_
      free := rfl
      beyond := fun cost hcost => ?_
      antitone := fun lower cost hle => stampValid_mono hle }
  · unfold stampNumber at hzero
    unfold stampValue
    rw [countZeroBits_eq_size, hzero, hlen]
    rfl
  · unfold stampNumber at hne
    unfold stampValue
    rw [stampValid_iff hpos hmax, le_countZeroBits_iff (by omega), hlen]
    exact Nat.lt_iff_le_and_ne.trans (and_iff_left hne) |>.symm
  · rw [stampValid_iff hpos hmax, heq]
    unfold stampNumber at heq
    unfold stampValue
    rw [countZeroBits_pow heq, hlen]
    omega
  · unfold stampValid
    rw [if_neg (by omega), if_pos hcost]

end Lxmf
