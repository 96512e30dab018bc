/-
Bytes, fixed-length byte arrays, exact times and the constants of the
LXMF wire format (lxmf-rs/src/constants.rs).

# Times

An `f64` is modelled by its value: a rational, an infinity or NaN. Sums
of times and the weights of stored messages are exact; the comparisons
are IEEE 754's, false as soon as one side is NaN. A product that is cut
to an integer rounds, and so does the integer-to-float cast, since a
remote chooses the numbers both are applied to. An `f32` is carried by
the same type: widening it does not change its value.

# Machine integers

`u8` is `UInt8`. The wider counters (`u32`, `u64`, `usize`) are `Nat`,
with the source's saturating operations spelled out where it uses them.
-/
import Mathlib.Data.Vector.Basic
import Mathlib.Data.Rat.Floor
import Mathlib.Data.List.AList
import Mathlib.Data.Finset.Basic

namespace Lxmf

-- ============================================================= bytes

/-- `Vec<u8>` and `&[u8]`. -/
abbrev Bytes := List UInt8

/-- `[u8; N]`. -/
abbrev FixedBytes (n : Nat) := List.Vector UInt8 n

/-- `slice.try_into::<[u8; N]>()`: succeeds on exactly `n` bytes. -/
def toFixed (n : Nat) (b : Bytes) : Option (FixedBytes n) :=
  if h : b.length = n then some ⟨b, h⟩ else none

/-- `HashMap<K, V>`. Its iteration order is the list's, and a `HashMap`
may iterate in any order, so no statement relies on it. -/
abbrev HashMap (K V : Type) := AList fun _ : K => V

/-- `HashMap::retain`. -/
def HashMap.retain {K V : Type} [DecidableEq K] (m : HashMap K V)
    (keep : K → V → Bool) : HashMap K V :=
  ((m.entries.filter fun e => !keep e.1 e.2).map (·.1)).foldl
    (fun m k => m.erase k) m

theorem HashMap.mem_iff_lookup {K V : Type} [DecidableEq K]
    {m : HashMap K V} {k : K} : k ∈ m ↔ ∃ v, m.lookup k = some v :=
  AList.lookup_isSome.symm.trans Option.isSome_iff_exists

/-- What is left after a removal was there, under another key. -/
theorem HashMap.lookup_of_lookup_erase {K V : Type} [DecidableEq K]
    {m : HashMap K V} {k key : K} {v : V}
    (h : (m.erase k).lookup key = some v) :
    key ≠ k ∧ m.lookup key = some v := by
  by_cases hkey : key = k
  · rw [hkey, AList.lookup_erase] at h
    cases h
  · rw [AList.lookup_erase_ne hkey] at h
    exact ⟨hkey, h⟩

theorem HashMap.mem_of_mem_retain {K V : Type} [DecidableEq K]
    {m : HashMap K V} {keep : K → V → Bool} {k : K}
    (h : k ∈ m.retain keep) : k ∈ m := by
  unfold HashMap.retain at h
  revert h
  generalize (m.entries.filter fun e => !keep e.1 e.2).map (·.1) = ks
  intro h
  induction ks generalizing m with
  | nil => exact h
  | cons first ks ih => exact (AList.mem_erase.mp (ih h)).2

theorem HashMap.entries_erase {K V : Type} [DecidableEq K]
    (m : HashMap K V) (k : K) :
    (m.erase k).entries = m.entries.filter fun e => e.1 ≠ k := by
  obtain ⟨entries, hnodup⟩ := m
  show entries.kerase k = _
  induction entries with
  | nil => rfl
  | cons e entries ih =>
      obtain ⟨hnew, hrest⟩ := List.nodupKeys_cons.mp hnodup
      by_cases h : e.1 = k
      · rw [List.kerase_cons_eq h.symm, List.filter_cons_of_neg (by simp [h])]
        refine (List.filter_eq_self.mpr fun other hother => ?_).symm
        rw [decide_eq_true_iff]
        intro heq
        rw [h, ← heq] at hnew
        exact hnew (List.mem_keys_of_mem hother)
      · rw [List.kerase_cons_ne (Ne.symm h),
          List.filter_cons_of_pos (by simp [h]), ih hrest]

theorem HashMap.entries_insert {K V : Type} [DecidableEq K]
    (m : HashMap K V) (k : K) (v : V) :
    (m.insert k v).entries
      = ⟨k, v⟩ :: m.entries.filter fun e => e.1 ≠ k := by
  rw [← HashMap.entries_erase]
  rfl

/-- The entries that are kept, in their order. -/
theorem HashMap.entries_retain {K V : Type} [DecidableEq K]
    (m : HashMap K V) (keep : K → V → Bool) :
    (m.retain keep).entries = m.entries.filter fun e => keep e.1 e.2 := by
  have herases (ks : List K) (m : HashMap K V) :
      (ks.foldl (fun m k => m.erase k) m).entries
        = m.entries.filter fun e => e.1 ∉ ks := by
    induction ks generalizing m with
    | nil => simp
    | cons k ks ih =>
        rw [List.foldl_cons, ih, HashMap.entries_erase, List.filter_filter]
        refine List.filter_congr fun e _ => ?_
        simp [Bool.and_comm, not_or]
  unfold HashMap.retain
  rw [herases]
  refine List.filter_congr fun e he => ?_
  rw [Bool.eq_iff_iff, decide_eq_true_iff]
  constructor
  · intro hout
    by_contra hdrop
    refine hout (List.mem_map.mpr ⟨e, List.mem_filter.mpr ⟨he, ?_⟩, rfl⟩)
    simpa using hdrop
  · intro hkeep hout
    obtain ⟨other, hother, hkey⟩ := List.mem_map.mp hout
    obtain ⟨hmem, hdrop⟩ := List.mem_filter.mp hother
    have heq : other = e :=
      m.nodupKeys.eq_of_fst_eq hmem he hkey
    rw [heq, hkeep] at hdrop
    cases hdrop

theorem HashMap.lookup_retain {K V : Type} [DecidableEq K]
    (m : HashMap K V) (keep : K → V → Bool) (k : K) :
    (m.retain keep).lookup k = (m.lookup k).filter (keep k) := by
  refine Option.ext fun v => ?_
  rw [Option.filter_eq_some_iff]
  refine AList.mem_lookup_iff.trans ?_
  rw [HashMap.entries_retain, List.mem_filter]
  exact and_congr AList.mem_lookup_iff.symm Iff.rfl

/-- Nothing went, so it is the same map. -/
theorem HashMap.retain_eq_self {K V : Type} [DecidableEq K]
    {m : HashMap K V} {keep : K → V → Bool}
    (h : m.keys.length ≤ (m.retain keep).keys.length) :
    m.retain keep = m := by
  refine AList.ext ?_
  rw [HashMap.entries_retain]
  refine List.filter_sublist.eq_of_length_le ?_
  have hkeys (m : HashMap K V) : m.keys.length = m.entries.length :=
    List.length_map ..
  rw [hkeys, hkeys, HashMap.entries_retain] at h
  exact h

@[simp] theorem toFixed_toList {n : Nat} (v : FixedBytes n) :
    toFixed n v.toList = some v := by
  unfold toFixed
  rw [dif_pos v.toList_length]
  rfl

-- ========================================================= constants

abbrev destinationLength : Nat := 16
abbrev signatureLength : Nat := 64
abbrev hashLength : Nat := 32
abbrev stampSize : Nat := 32
abbrev ticketLength : Nat := 16
abbrev timestampSize : Nat := 8
abbrev structOverhead : Nat := 8
abbrev lxmfOverhead : Nat :=
  2 * destinationLength + signatureLength + timestampSize + structOverhead

abbrev stateGenerating : UInt8 := 0x00
abbrev stateOutbound : UInt8 := 0x01
abbrev stateSending : UInt8 := 0x02
abbrev stateSent : UInt8 := 0x04
abbrev stateDelivered : UInt8 := 0x08
abbrev stateFailed : UInt8 := 0xff

abbrev reprUnknown : UInt8 := 0x00
abbrev reprPacket : UInt8 := 0x01
abbrev reprResource : UInt8 := 0x02

abbrev methodOpportunistic : UInt8 := 0x01
abbrev methodDirect : UInt8 := 0x02
abbrev methodPropagated : UInt8 := 0x03
abbrev methodPaper : UInt8 := 0x05

abbrev workblockExpandRounds : Nat := 3000
abbrev workblockExpandRoundsPn : Nat := 1000
abbrev workblockExpandRoundsPeering : Nat := 25

abbrev ticketExpiry : Nat := 21 * 24 * 60 * 60
abbrev ticketGrace : Nat := 5 * 24 * 60 * 60
abbrev ticketRenew : Nat := 14 * 24 * 60 * 60
abbrev ticketInterval : Nat := 1 * 24 * 60 * 60
abbrev costTicket : Nat := 0x100
abbrev messageExpiry : Nat := 30 * 24 * 60 * 60

abbrev fieldTicket : Nat := 0x0c

/-- A destination, identity, peer, link or request hash. -/
abbrev Hash16 := FixedBytes destinationLength

/-- A message id or a transient id. -/
abbrev Hash32 := FixedBytes hashLength

-- ================================================== saturating counters

def u32Max : Nat := 2 ^ 32 - 1
def u64Max : Nat := 2 ^ 64 - 1

/-- `u32::saturating_add`. -/
def satAdd32 (a b : Nat) : Nat := min (a + b) u32Max

/-- `u64::saturating_add` and, on a 64-bit target, `usize`'s. -/
def satAdd64 (a b : Nat) : Nat := min (a + b) u64Max

/-- `u64::saturating_mul`. -/
def satMul64 (a b : Nat) : Nat := min (a * b) u64Max

-- ============================================================= times

/-- An `f64` by its value. -/
inductive F64 where
  | nan
  | inf (negative : Bool)
  | fin (q : ℚ)
deriving DecidableEq

namespace F64

/-- `n as f64` for a count small enough to be exact. -/
def ofNat (n : Nat) : F64 := .fin n

/-- Round to 53 significant bits, ties to even. -/
def round53 (n : Nat) : Nat :=
  let e := n.log2 - 52
  let q := n / 2 ^ e
  let r := n % 2 ^ e
  if 2 ^ e < 2 * r ∨ (2 * r = 2 ^ e ∧ q % 2 = 1) then (q + 1) * 2 ^ e
  else q * 2 ^ e

/-- `v as f64` for an `i64`. -/
def ofI64 (v : Int) : F64 :=
  if v < 0 then .fin (-(round53 v.natAbs : ℚ)) else .fin (round53 v.natAbs)

/-- `2 ^ z`. -/
def exp2 (z : Int) : ℚ :=
  if 0 ≤ z then (2 ^ z.toNat : Nat) else 1 / (2 ^ (-z).toNat : Nat)

/-- The distance of the doubles around a positive `q`. -/
def ulp (q : ℚ) : ℚ :=
  let e : Int := (q.num.natAbs.log2 : Int) - (q.den.log2 : Int)
  let e := if exp2 e ≤ q then e else e - 1
  exp2 (if e < -1022 then -1074 else e - 52)

/-- The double nearest to a positive `q`, ties to even. -/
def nearest (q : ℚ) : ℚ :=
  let u := ulp q
  let n := ⌊q / u⌋
  let r := q / u - n
  if 1 / 2 < r ∨ (r = 1 / 2 ∧ n % 2 = 1) then (n + 1) * u else n * u

/-- The double nearest to `q`, an infinity past the largest of them. -/
def round (q : ℚ) : F64 :=
  let v := nearest |q|
  if exp2 1024 ≤ v then .inf (decide (q < 0))
  else .fin (if q < 0 then -v else v)

/-- `a < b`. -/
def lt : F64 → F64 → Bool
  | .fin a, .fin b => decide (a < b)
  | .inf true, .inf false | .inf true, .fin _ | .fin _, .inf false => true
  | _, _ => false

/-- `a <= b`. -/
def le : F64 → F64 → Bool
  | .fin a, .fin b => decide (a ≤ b)
  | .inf true, .inf _ | .inf _, .inf false => true
  | .inf true, .fin _ | .fin _, .inf false => true
  | _, _ => false

def neg : F64 → F64
  | .nan => .nan
  | .inf s => .inf !s
  | .fin a => .fin (-a)

def add : F64 → F64 → F64
  | .fin a, .fin b => .fin (a + b)
  | .inf a, .inf b => if a = b then .inf a else .nan
  | .inf a, .fin _ => .inf a
  | .fin _, .inf b => .inf b
  | .nan, _ | _, .nan => .nan

def sub (a b : F64) : F64 := add a (neg b)

/-- `a * b`, where `finite` is the product of two numbers. -/
def mulWith (finite : ℚ → F64) : F64 → F64 → F64
  | .fin a, .fin b => finite (a * b)
  | .inf a, .inf b => .inf (a != b)
  | .inf s, .fin q | .fin q, .inf s =>
      if q = 0 then .nan else .inf (s != decide (q < 0))
  | .nan, _ | _, .nan => .nan

/-- `a * b`. -/
def mul : F64 → F64 → F64 := mulWith round

/-- `a * b` without rounding, of times and weights, which are exact. -/
def exactMul : F64 → F64 → F64 := mulWith .fin

/-- `f64::max`: the other operand when one is NaN. -/
def max (a b : F64) : F64 :=
  match a, b with
  | .nan, b => b
  | a, .nan => a
  | a, b => if a.lt b then b else a

def isFinite : F64 → Bool
  | .fin _ => true
  | _ => false

/-- `x as u64` and `x as usize`: truncating, saturating, NaN to 0. -/
def toU64 : F64 → Nat
  | .nan | .inf true => 0
  | .inf false => u64Max
  | .fin q => min ⌊q⌋.toNat u64Max

-- ============================================ the decimal text of a time

/-- `10 ^ z`. -/
def exp10 (z : Int) : ℚ :=
  if 0 ≤ z then (10 ^ z.toNat : Nat) else 1 / (10 ^ (-z).toNat : Nat)

/-- The shortest decimal that reads back as the double nearest to `q`:
the digits as one integer and how many of them follow the point. The
search starts above the largest double and adds a digit per step. -/
def shortest (q : ℚ) : Nat → Int → Int × Int
  | 0, places => (⌊q * exp10 places⌋, places)
  | fuel + 1, places =>
      let below := ⌊q * exp10 places⌋
      let fits (n : Int) : Bool := nearest (n / exp10 places) = nearest q
      let closerAbove : Bool := 1 / 2 < q * exp10 places - below
      if closerAbove && fits (below + 1) then (below + 1, places)
      else if fits below then (below, places)
      else if fits (below + 1) then (below + 1, places)
      else shortest q fuel (places + 1)

/-- A positive number in positional notation. -/
def displayPositive (q : ℚ) : String :=
  let (digits, places) := shortest q 1400 (-309)
  let digits := digits.toNat
  if places ≤ 0 then toString (digits * 10 ^ (-places).toNat)
  else
    let scale := 10 ^ places.toNat
    let fraction := toString (digits % scale)
    toString (digits / scale) ++ "."
      ++ String.ofList (List.replicate (places.toNat - fraction.length) '0')
      ++ fraction

/-- `Display for f64`. -/
def display : F64 → String
  | .nan => "NaN"
  | .inf negative => if negative then "-inf" else "inf"
  | .fin q =>
      if q = 0 then "0"
      else if q < 0 then "-" ++ displayPositive (-q)
      else displayPositive q

end F64

/-- `now_ms as f64 / 1000.0`. -/
def nowS (nowMs : Nat) : F64 := .fin (nowMs / 1000)

end Lxmf
