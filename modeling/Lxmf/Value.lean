/-
The MessagePack value tree of the `rmpv` crate and the conversions the
source applies to it (lxmf-rs/src/rns/mod.rs, lxmf-rs/src/message.rs).

# Two families of conversions

`message.rs` and `rns/mod.rs` each define a `value_to_bytes` and a
`value_to_f64`. They disagree on strings: the message codec reads a
UTF-8 string as bytes, the protocol codecs accept binaries only. The
message codec's pair lives in Message.lean, this file has the other.
-/
import Lxmf.Basic

namespace Lxmf

-- ============================================================ values

/-- `rmpv::Integer`: a `u64` or a negative `i64`. -/
@[ext] structure Integer where
  val : Int
  lo : -2 ^ 63 ≤ val
  hi : val < 2 ^ 64
deriving DecidableEq

/-- `rmpv::Utf8String`: a string as it came off the wire, valid UTF-8 or
not. -/
inductive Utf8String where
  | valid (s : String)
  | invalid (raw : Bytes)
deriving DecidableEq

/-- `rmpv::Value`. -/
inductive Value where
  | nil
  | boolean (b : Bool)
  | integer (i : Integer)
  | f32 (v : F64)
  | f64 (v : F64)
  | string (s : Utf8String)
  | binary (b : Bytes)
  | array (vs : List Value)
  | map (es : List (Value × Value))
  | ext (ty : Int) (data : Bytes)

namespace Integer

/-- `Integer::from` on a `u8`. -/
def ofU8 (n : UInt8) : Integer :=
  ⟨n.toNat, by omega, by have := n.toNat_lt; omega⟩

/-- `Integer::from` on an `i64`. -/
def ofI64 (n : BitVec 64) : Integer :=
  ⟨n.toInt,
    by have := BitVec.le_toInt n; omega,
    by have := BitVec.toInt_lt (x := n); omega⟩

/-- `Integer::from(n as i64)` on a `u64`: the cast keeps the low 64 bits
and reads them as two's complement. -/
def ofU64AsI64 (n : Nat) : Integer := ofI64 (BitVec.ofNat 64 n)

/-- `Integer::from` on a `u64`. -/
def ofU64 (n : Nat) : Integer :=
  ⟨(n % 2 ^ 64 : Nat), by omega, by omega⟩

def asI64 (i : Integer) : Option Int :=
  if i.val < 2 ^ 63 then some i.val else none

def asU64 (i : Integer) : Option Nat :=
  if 0 ≤ i.val then some i.val.toNat else none

@[simp] theorem asU64_ofU8 (n : UInt8) : (ofU8 n).asU64 = some n.toNat := by
  simp [asU64, ofU8]

end Integer

/-- `Utf8String::as_str`. -/
def Utf8String.asStr : Utf8String → Option String
  | .valid s => some s
  | .invalid _ => none

/-- `str::as_bytes`. -/
def strBytes (s : String) : Bytes := s.toUTF8.data.toList

namespace Value

/-- `Value::as_i64`. -/
def asI64 : Value → Option Int
  | .integer i => i.asI64
  | _ => none

/-- `Value::from` on a string literal. -/
def str (s : String) : Value := .string (.valid s)

/-- `Value::from(n as i64)` on a `u64`, `u32` or `usize`. -/
def ofNat (n : Nat) : Value := .integer (Integer.ofU64AsI64 n)

end Value

-- ================================================ decidable equality

/-
The deriving handler does not cross the nested lists, so the equality
test is written out, with its correctness by the same recursion.
-/

mutual

def Value.beq : Value → Value → Bool
  | .nil, .nil => true
  | .boolean a, .boolean b => decide (a = b)
  | .integer a, .integer b => decide (a = b)
  | .f32 a, .f32 b => decide (a = b)
  | .f64 a, .f64 b => decide (a = b)
  | .string a, .string b => decide (a = b)
  | .binary a, .binary b => decide (a = b)
  | .array a, .array b => Value.beqList a b
  | .map a, .map b => Value.beqPairs a b
  | .ext a d, .ext b e => decide (a = b) && decide (d = e)
  | _, _ => false

def Value.beqList : List Value → List Value → Bool
  | [], [] => true
  | a :: as, b :: bs => Value.beq a b && Value.beqList as bs
  | _, _ => false

def Value.beqPairs : List (Value × Value) → List (Value × Value) → Bool
  | [], [] => true
  | (a, a') :: as, (b, b') :: bs =>
      Value.beq a b && Value.beq a' b' && Value.beqPairs as bs
  | _, _ => false

end

mutual

theorem Value.beq_iff : (a b : Value) → (Value.beq a b = true ↔ a = b)
  | .array a, b => by
      cases b with
      | array b => simpa [Value.beq] using Value.beqList_iff a b
      | _ => simp [Value.beq]
  | .map a, b => by
      cases b with
      | map b => simpa [Value.beq] using Value.beqPairs_iff a b
      | _ => simp [Value.beq]
  | .nil, b | .boolean _, b | .integer _, b | .f32 _, b | .f64 _, b
  | .string _, b | .binary _, b | .ext _ _, b => by
      cases b <;> simp [Value.beq]

theorem Value.beqList_iff :
    (a b : List Value) → (Value.beqList a b = true ↔ a = b)
  | [], b => by cases b <;> simp [Value.beqList]
  | a :: as, [] => by simp [Value.beqList]
  | a :: as, b :: bs => by
      have h := Value.beq_iff a b
      have hs := Value.beqList_iff as bs
      simp [Value.beqList, h, hs]

theorem Value.beqPairs_iff :
    (a b : List (Value × Value)) → (Value.beqPairs a b = true ↔ a = b)
  | [], b => by cases b <;> simp [Value.beqPairs]
  | a :: as, [] => by simp [Value.beqPairs]
  | (a, a') :: as, (b, b') :: bs => by
      have h := Value.beq_iff a b
      have h' := Value.beq_iff a' b'
      have hs := Value.beqPairs_iff as bs
      simp [Value.beqPairs, h, h', hs]

end

instance : DecidableEq Value := fun a b =>
  decidable_of_iff (Value.beq a b = true) (Value.beq_iff a b)

-- ================================= the protocol codecs' conversions

/-- `rns::value_to_bytes`: binaries only. -/
def valueToBytes : Value → Option Bytes
  | .binary b => some b
  | _ => none

/-- `rns::value_to_fixed_bytes`. -/
def valueToFixedBytes (n : Nat) (v : Value) : Option (FixedBytes n) := do
  let b ← valueToBytes v
  toFixed n b

/-- `rns::value_to_f64`. -/
def valueToF64 : Value → Option F64
  | .f64 v => some v
  | .f32 v => some v
  | .integer i => i.asI64.map F64.ofI64
  | _ => none

/-- `rns::value_to_opt_u64`: negative integers are not a `u64`. -/
def valueToOptU64 (v : Value) : Option Nat := do
  let i ← v.asI64
  if 0 ≤ i then some i.toNat else none

/-- `rns::value_to_opt_string`. -/
def valueToOptString : Value → Option String
  | .string s => s.asStr
  | _ => none

@[simp] theorem valueToFixedBytes_binary {n : Nat} (v : FixedBytes n) :
    valueToFixedBytes n (.binary v.toList) = some v := by
  show toFixed n v.toList = some v
  rw [toFixed_toList]

end Lxmf
