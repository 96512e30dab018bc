/-
A platform to compute with: SHA-256 and HKDF from the library, a
MessagePack codec, a signature table.

# The codec

`encodeValue` and `decodeValue` are MessagePack, in the shortest form of
each marker. `RmpvCodec` asks for more than MessagePack can give: an
array of 2^32 elements, or a rational that is no double, has no
encoding. `writeValue` therefore checks its output by reading it back,
and falls back to a marker MessagePack reserves (0xc1) followed by a
number in unary, under an injective numbering of the values.

# Signatures

The signing key of the crate's documentation example has the public key
and the signatures that Ed25519 gives it on the messages below; any
other signature is a hash of key and message.
-/
import Lxmf.Library.Sha256
import Lxmf.Platform
import Mathlib.Data.Rat.Encodable
import Mathlib.Data.Nat.Pairing
import Mathlib.Logic.Encodable.Basic
import Mathlib.Logic.Equiv.Basic
import Mathlib.Logic.Equiv.List
import Mathlib.Logic.Function.Basic

namespace Lxmf.Reference

-- ============================================================= numbers

/-- The low `k` bytes of `n`, most significant first. -/
def beBytes : Nat → Nat → Bytes
  | 0, _ => []
  | k + 1, n => UInt8.ofNat (n / 256 ^ k) :: beBytes k n

def beNat (b : Bytes) : Nat := b.foldl (fun n x => n * 256 + x.toNat) 0

/-- A binary floating point format: widths of exponent and fraction. -/
structure Format where
  exponent : Nat
  fraction : Nat

def double : Format := ⟨11, 52⟩
def single : Format := ⟨8, 23⟩

def Format.bias (f : Format) : Nat := 2 ^ (f.exponent - 1) - 1

/-- The value of a bit pattern. -/
def Format.decode (f : Format) (bits : Nat) : F64 :=
  let negative := bits / 2 ^ (f.exponent + f.fraction) = 1
  let e := bits / 2 ^ f.fraction % 2 ^ f.exponent
  let m := bits % 2 ^ f.fraction
  if e = 2 ^ f.exponent - 1 then
    if m = 0 then .inf (decide negative) else .nan
  else
    let m := if e = 0 then m else m + 2 ^ f.fraction
    let e := Nat.max e 1
    let q : ℚ :=
      if f.bias + f.fraction ≤ e then
        mkRat (m * 2 ^ (e - (f.bias + f.fraction))) 1
      else mkRat m (2 ^ (f.bias + f.fraction - e))
    .fin (if negative then -q else q)

/-- The bit pattern of a value, when it is zero, infinite, NaN or a
normal number of the format. -/
def Format.encode (f : Format) : F64 → Nat
  | .nan => (2 ^ f.exponent - 1) * 2 ^ f.fraction + 2 ^ (f.fraction - 1)
  | .inf s => (if s then 2 ^ (f.exponent + f.fraction) else 0)
      + (2 ^ f.exponent - 1) * 2 ^ f.fraction
  | .fin q =>
      let n := q.num.natAbs
      let d := q.den
      if n = 0 then 0
      else
        -- `n / d` lies in `[2 ^ (k - 1), 2 ^ (k + 1))` for this `k`
        let k : Int := (n.log2 : Int) - d.log2
        let scaled (e : Int) : Nat :=
          let s := (f.fraction : Int) - e
          if 0 ≤ s then n * 2 ^ s.toNat / d else n / (d * 2 ^ (-s).toNat)
        let e := if scaled k < 2 ^ f.fraction then k - 1 else k
        (if q.num < 0 then 2 ^ (f.exponent + f.fraction) else 0)
          + (e + f.bias).toNat * 2 ^ f.fraction
          + scaled e % 2 ^ f.fraction

-- ============================================================ encoding

def encodeInteger (v : Int) : Bytes :=
  if 0 ≤ v then
    let n := v.toNat
    if n < 128 then [UInt8.ofNat n]
    else if n < 2 ^ 8 then 0xcc :: beBytes 1 n
    else if n < 2 ^ 16 then 0xcd :: beBytes 2 n
    else if n < 2 ^ 32 then 0xce :: beBytes 4 n
    else 0xcf :: beBytes 8 n
  else if -32 ≤ v then [UInt8.ofNat (256 + v).toNat]
  else if -2 ^ 7 ≤ v then 0xd0 :: beBytes 1 (2 ^ 8 + v).toNat
  else if -2 ^ 15 ≤ v then 0xd1 :: beBytes 2 (2 ^ 16 + v).toNat
  else if -2 ^ 31 ≤ v then 0xd2 :: beBytes 4 (2 ^ 32 + v).toNat
  else 0xd3 :: beBytes 8 (2 ^ 64 + v).toNat

def encodeString (b : Bytes) : Bytes :=
  let n := b.length
  (if n < 32 then [UInt8.ofNat (0xa0 + n)]
    else if n < 2 ^ 8 then 0xd9 :: beBytes 1 n
    else if n < 2 ^ 16 then 0xda :: beBytes 2 n
    else 0xdb :: beBytes 4 n) ++ b

def encodeBinary (b : Bytes) : Bytes :=
  let n := b.length
  (if n < 2 ^ 8 then 0xc4 :: beBytes 1 n
    else if n < 2 ^ 16 then 0xc5 :: beBytes 2 n
    else 0xc6 :: beBytes 4 n) ++ b

def encodeArrayLength (n : Nat) : Bytes :=
  if n < 16 then [UInt8.ofNat (0x90 + n)]
  else if n < 2 ^ 16 then 0xdc :: beBytes 2 n
  else 0xdd :: beBytes 4 n

def encodeMapLength (n : Nat) : Bytes :=
  if n < 16 then [UInt8.ofNat (0x80 + n)]
  else if n < 2 ^ 16 then 0xde :: beBytes 2 n
  else 0xdf :: beBytes 4 n

def encodeExt (ty : Int) (b : Bytes) : Bytes :=
  let n := b.length
  (if n = 1 then [0xd4] else if n = 2 then [0xd5] else if n = 4 then [0xd6]
    else if n = 8 then [0xd7] else if n = 16 then [0xd8]
    else if n < 2 ^ 8 then 0xc7 :: beBytes 1 n
    else if n < 2 ^ 16 then 0xc8 :: beBytes 2 n
    else 0xc9 :: beBytes 4 n) ++ UInt8.ofNat (256 + ty).toNat :: b

mutual

def encodeValue : Value → Bytes
  | .nil => [0xc0]
  | .boolean b => if b then [0xc3] else [0xc2]
  | .integer i => encodeInteger i.val
  | .f32 v => 0xca :: beBytes 4 (single.encode v)
  | .f64 v => 0xcb :: beBytes 8 (double.encode v)
  | .string (.valid s) => encodeString (strBytes s)
  | .string (.invalid raw) => encodeString raw
  | .binary b => encodeBinary b
  | .array vs => encodeArrayLength vs.length ++ encodeList vs
  | .map es => encodeMapLength es.length ++ encodePairs es
  | .ext ty b => encodeExt ty b

def encodeList : List Value → Bytes
  | [] => []
  | v :: vs => encodeValue v ++ encodeList vs

def encodePairs : List (Value × Value) → Bytes
  | [] => []
  | (k, v) :: es => encodeValue k ++ encodeValue v ++ encodePairs es

end

-- ============================================================ decoding

/-- The next `n` bytes. -/
def takeBytes (n : Nat) (b : Bytes) : Option (Bytes × Bytes) :=
  if b.length < n then none else some (b.take n, b.drop n)

/-- The next `n` bytes as a number. -/
def takeNat (n : Nat) (b : Bytes) : Option (Nat × Bytes) :=
  (takeBytes n b).map fun (x, rest) => (beNat x, rest)

def integer (v : Int) : Option Value :=
  if h : -2 ^ 63 ≤ v ∧ v < 2 ^ 64 then
    some (.integer ⟨v, h.1, h.2⟩)
  else none

/-- `n` bytes of two's complement. -/
def signed (n x : Nat) : Int :=
  if x < 2 ^ (8 * n - 1) then x else (x : Int) - 2 ^ (8 * n)

def string (b : Bytes) : Value :=
  match String.fromUTF8? ⟨b.toArray⟩ with
  | some s => .string (.valid s)
  | none => .string (.invalid b)

/-- Run a reader `n` times. -/
def repeatRead {α : Type} (read : Bytes → Option (α × Bytes)) :
    Nat → Bytes → Option (List α × Bytes)
  | 0, b => some ([], b)
  | n + 1, b => do
      let (x, b) ← read b
      let (xs, b) ← repeatRead read n b
      some (x :: xs, b)

def readPair (read : Bytes → Option (Value × Bytes)) (b : Bytes) :
    Option ((Value × Value) × Bytes) := do
  let (k, b) ← read b
  let (v, b) ← read b
  some ((k, v), b)

/-- One value off the front. The fuel bounds the nesting. -/
def decodeValue : Nat → Bytes → Option (Value × Bytes)
  | 0, _ | _, [] => none
  | fuel + 1, marker :: b =>
      let unsigned (n : Nat) := do
        let (x, b) ← takeNat n b
        let v ← integer x
        some (v, b)
      let negative (n : Nat) := do
        let (x, b) ← takeNat n b
        let v ← integer (signed n x)
        some (v, b)
      let bytes (mk : Bytes → Value) (n : Nat) := do
        let (n, b) ← takeNat n b
        let (x, b) ← takeBytes n b
        some (mk x, b)
      let ext (n : Nat) (b : Bytes) := do
        let (ty, b) ← takeNat 1 b
        let (x, b) ← takeBytes n b
        some (.ext (signed 1 ty) x, b)
      let array (n : Nat) (b : Bytes) := do
        let (vs, b) ← repeatRead (decodeValue fuel) n b
        some (.array vs, b)
      let map (n : Nat) (b : Bytes) := do
        let (es, b) ← repeatRead (readPair (decodeValue fuel)) n b
        some (.map es, b)
      match marker.toNat with
      | 0xc0 => some (.nil, b)
      | 0xc1 => none
      | 0xc2 => some (.boolean false, b)
      | 0xc3 => some (.boolean true, b)
      | 0xc4 => bytes .binary 1
      | 0xc5 => bytes .binary 2
      | 0xc6 => bytes .binary 4
      | 0xc7 => do
          let (n, b) ← takeNat 1 b
          ext n b
      | 0xc8 => do
          let (n, b) ← takeNat 2 b
          ext n b
      | 0xc9 => do
          let (n, b) ← takeNat 4 b
          ext n b
      | 0xca => do
          let (x, b) ← takeNat 4 b
          some (.f32 (single.decode x), b)
      | 0xcb => do
          let (x, b) ← takeNat 8 b
          some (.f64 (double.decode x), b)
      | 0xcc => unsigned 1
      | 0xcd => unsigned 2
      | 0xce => unsigned 4
      | 0xcf => unsigned 8
      | 0xd0 => negative 1
      | 0xd1 => negative 2
      | 0xd2 => negative 4
      | 0xd3 => negative 8
      | 0xd4 => ext 1 b
      | 0xd5 => ext 2 b
      | 0xd6 => ext 4 b
      | 0xd7 => ext 8 b
      | 0xd8 => ext 16 b
      | 0xd9 => bytes string 1
      | 0xda => bytes string 2
      | 0xdb => bytes string 4
      | 0xdc => do
          let (n, b) ← takeNat 2 b
          array n b
      | 0xdd => do
          let (n, b) ← takeNat 4 b
          array n b
      | 0xde => do
          let (n, b) ← takeNat 2 b
          map n b
      | 0xdf => do
          let (n, b) ← takeNat 4 b
          map n b
      | n =>
          if n < 0x80 then (integer n).map (·, b)
          else if n < 0x90 then map (n - 0x80) b
          else if n < 0xa0 then array (n - 0x90) b
          else if n < 0xc0 then do
            let (x, b) ← takeBytes (n - 0xa0) b
            some (string x, b)
          else (integer ((n : Int) - 256)).map (·, b)

-- =========================================================== numbering

def codeBytes (b : Bytes) : Nat := Encodable.encode (b.map UInt8.toNat)

def codeF64 : F64 → Nat
  | .nan => Nat.pair 0 0
  | .inf s => Nat.pair 1 (Encodable.encode s)
  | .fin q => Nat.pair 2 (Encodable.encode q)

def codeString : Utf8String → Nat
  | .valid s => Nat.pair 0 (Encodable.encode (s.toList.map Char.toNat))
  | .invalid raw => Nat.pair 1 (codeBytes raw)

mutual

def code : Value → Nat
  | .nil => Nat.pair 0 0
  | .boolean b => Nat.pair 1 (Encodable.encode b)
  | .integer i => Nat.pair 2 (Encodable.encode i.val)
  | .f32 v => Nat.pair 3 (codeF64 v)
  | .f64 v => Nat.pair 4 (codeF64 v)
  | .string s => Nat.pair 5 (codeString s)
  | .binary b => Nat.pair 6 (codeBytes b)
  | .array vs => Nat.pair 7 (codeList vs)
  | .map es => Nat.pair 8 (codePairs es)
  | .ext ty b => Nat.pair 9 (Nat.pair (Encodable.encode ty) (codeBytes b))

def codeList : List Value → Nat
  | [] => 0
  | v :: vs => Nat.pair (code v) (codeList vs) + 1

def codePairs : List (Value × Value) → Nat
  | [] => 0
  | (k, v) :: es => Nat.pair (Nat.pair (code k) (code v)) (codePairs es) + 1

end

theorem codeBytes_inj {a b : Bytes} : codeBytes a = codeBytes b ↔ a = b := by
  unfold codeBytes
  rw [Encodable.encode_inj]
  refine List.map_inj_right fun x y h => UInt8.toNat_inj.mp h

theorem codeF64_inj {a b : F64} : codeF64 a = codeF64 b ↔ a = b := by
  cases a <;> cases b <;> simp [codeF64, Nat.pair_eq_pair]

theorem codeString_inj {a b : Utf8String} :
    codeString a = codeString b ↔ a = b := by
  cases a with
  | valid s =>
      cases b with
      | valid t =>
          have h : s.toList.map Char.toNat = t.toList.map Char.toNat
              ↔ s.toList = t.toList :=
            List.map_inj_right fun x y h => Char.toNat_inj.mp h
          simp [codeString, Nat.pair_eq_pair, h, String.toList_inj]
      | invalid raw => simp [codeString, Nat.pair_eq_pair]
  | invalid raw =>
      cases b <;> simp [codeString, Nat.pair_eq_pair, codeBytes_inj]

mutual

theorem code_inj : (a b : Value) → (code a = code b ↔ a = b)
  | .array a, b => by
      cases b with
      | array b =>
          simpa [code, Nat.pair_eq_pair] using codeList_inj a b
      | _ => simp [code, Nat.pair_eq_pair]
  | .map a, b => by
      cases b with
      | map b =>
          simpa [code, Nat.pair_eq_pair] using codePairs_inj a b
      | _ => simp [code, Nat.pair_eq_pair]
  | .integer ⟨i, _, _⟩, b => by
      cases b <;> simp [code, Nat.pair_eq_pair, Integer.ext_iff]
  | .nil, b | .boolean _, b | .f32 _, b | .f64 _, b | .string _, b
  | .binary _, b | .ext _ _, b => by
      cases b <;> simp [code, Nat.pair_eq_pair, codeBytes_inj, codeF64_inj,
        codeString_inj]

theorem codeList_inj :
    (a b : List Value) → (codeList a = codeList b ↔ a = b)
  | [], b => by cases b <;> simp [codeList]
  | a :: as, [] => by simp [codeList]
  | a :: as, b :: bs => by
      have h := code_inj a b
      have hs := codeList_inj as bs
      simp [codeList, Nat.pair_eq_pair, h, hs]

theorem codePairs_inj :
    (a b : List (Value × Value)) → (codePairs a = codePairs b ↔ a = b)
  | [], b => by cases b <;> simp [codePairs]
  | a :: as, [] => by simp [codePairs]
  | (a, a') :: as, (b, b') :: bs => by
      have h := code_inj a b
      have h' := code_inj a' b'
      have hs := codePairs_inj as bs
      simp [codePairs, Nat.pair_eq_pair, h, h', hs]

end

instance : Nonempty Value := ⟨.nil⟩

/-- The value of a number. -/
noncomputable def uncode : Nat → Value := Function.invFun code

theorem uncode_code (v : Value) : uncode (code v) = v :=
  Function.leftInverse_invFun (fun a b h => (code_inj a b).mp h) v

-- ========================================================== the codec

/-- MessagePack when it reads back, the numbering when it does not. -/
def writeValue (v : Value) : Bytes :=
  let b := encodeValue v
  if decodeValue (b.length + 1) b = some (v, []) then b
  else 0xc1 :: List.replicate (code v) 0

noncomputable def readValue : Bytes → Except String Value
  | 0xc1 :: b => .ok (uncode b.length)
  | b =>
      match decodeValue (b.length + 1) b with
      | some (v, _) => .ok v
      | none => .error "failed to read MessagePack data"

theorem readValue_of_decodeValue {b rest : Bytes} {v : Value}
    (h : decodeValue (b.length + 1) b = some (v, rest)) :
    readValue b = .ok v := by
  unfold readValue
  split
  case h_1 b =>
    -- no value starts with the reserved marker
    cases h
  case h_2 => rw [h]

theorem readValue_writeValue (v : Value) :
    readValue (writeValue v) = .ok v := by
  unfold writeValue
  simp only
  split
  case isTrue h => exact readValue_of_decodeValue h
  case isFalse =>
    simp only [readValue, List.length_replicate, uncode_code]

theorem writeValue_ne_nil (v : Value) : writeValue v ≠ [] := by
  unfold writeValue
  simp only
  split
  case isTrue h =>
    intro hb
    rw [hb] at h
    cases h
  case isFalse => exact List.cons_ne_nil _ _

-- ========================================================== signatures

/-- The signing key of the crate's documentation example. -/
def docKey : FixedBytes 32 := List.Vector.replicate 32 0x07

/-- The Ed25519 public key of `docKey`. -/
def docPublic : FixedBytes 32 := ⟨
  [0xea, 0x4a, 0x6c, 0x63, 0xe2, 0x9c, 0x52, 0x0a, 0xbe, 0xf5, 0x50, 0x7b,
   0x13, 0x2e, 0xc5, 0xf9, 0x95, 0x47, 0x76, 0xae, 0xbe, 0xbe, 0x7b, 0x92,
   0x42, 0x1e, 0xea, 0x69, 0x14, 0x46, 0xd2, 0x2c], rfl⟩

/-- What `docKey` signs for the example: two hashes, a payload, an
identity. -/
def docSigned : Bytes :=
  [0x11, 0x11, 0x11, 0x11, 0x11, 0x11, 0x11, 0x11, 0x11, 0x11, 0x11, 0x11,
   0x11, 0x11, 0x11, 0x11, 0x22, 0x22, 0x22, 0x22, 0x22, 0x22, 0x22, 0x22,
   0x22, 0x22, 0x22, 0x22, 0x22, 0x22, 0x22, 0x22, 0x94, 0xcb, 0x41, 0xd9,
   0x54, 0xfc, 0x40, 0x00, 0x00, 0x00, 0xc4, 0x02, 0x68, 0x69, 0xc4, 0x05,
   0x68, 0x65, 0x6c, 0x6c, 0x6f, 0x80, 0x15, 0x9a, 0xa8, 0xcd, 0xca, 0x86,
   0xb7, 0xdb, 0x80, 0xd7, 0x82, 0x39, 0x82, 0x6a, 0x08, 0x2e, 0xd6, 0x90,
   0xb3, 0x21, 0x84, 0xc3, 0x85, 0x3e, 0x82, 0x1a, 0x8a, 0x11, 0xbe, 0xee,
   0x81, 0x87]

/-- The Ed25519 signature of `docSigned` under `docKey`. -/
def docSignature : FixedBytes signatureLength := ⟨
  [0x87, 0x53, 0x6b, 0xb7, 0x6d, 0x2b, 0x90, 0xf6, 0x2e, 0x94, 0xfb, 0x45,
   0x52, 0x57, 0xfb, 0x62, 0x21, 0xa2, 0xd4, 0xed, 0x96, 0x3d, 0x8c, 0x2f,
   0xfd, 0x12, 0x01, 0x10, 0x46, 0xd6, 0xcd, 0xe2, 0xb9, 0x6a, 0x03, 0x27,
   0xfc, 0x96, 0x38, 0x1e, 0xce, 0xd6, 0xc0, 0x58, 0x5b, 0x5a, 0xac, 0x28,
   0xce, 0x27, 0x71, 0x09, 0x1e, 0xc0, 0x40, 0x8c, 0x12, 0x72, 0x92, 0xa1,
   0xbc, 0x87, 0x78, 0x08], rfl⟩

/-- The same for the example with a content of 2048 zero bytes. -/
def largeSigned : Bytes :=
  docSigned.take 46 ++ [0xc5, 0x08, 0x00] ++ List.replicate 2048 0x00
    ++ [0x80] ++
  [0xe2, 0x45, 0x2c, 0xa4, 0x66, 0xcd, 0x04, 0x87, 0xa1, 0x23, 0x2f, 0x32,
   0x11, 0x18, 0xc8, 0xf7, 0xee, 0x84, 0x18, 0xf5, 0xae, 0xc9, 0x07, 0x87,
   0xc5, 0xdc, 0xa9, 0x69, 0xcc, 0x19, 0x8a, 0x42]

def largeSignature : FixedBytes signatureLength := ⟨
  [0xd4, 0x44, 0x65, 0x34, 0x9c, 0x57, 0x52, 0xfa, 0x91, 0x93, 0x2a, 0x4f,
   0x8e, 0xe5, 0x60, 0xc1, 0xdd, 0x1a, 0x79, 0xbe, 0x56, 0x26, 0x60, 0x8a,
   0x18, 0x39, 0xb7, 0x5c, 0xb5, 0xa2, 0x1f, 0x47, 0xad, 0x6e, 0xcf, 0xe7,
   0x9b, 0x0f, 0xa5, 0x67, 0xe7, 0xca, 0xa5, 0x8a, 0x26, 0x3b, 0xa6, 0x04,
   0x4f, 0xa5, 0x7a, 0x07, 0xb2, 0x3d, 0x12, 0x77, 0x69, 0xf7, 0x0a, 0x58,
   0x63, 0x2a, 0x1c, 0x06], rfl⟩

def sign (key : FixedBytes 32) (msg : Bytes) : FixedBytes signatureLength :=
  if key = docKey ∧ msg = docSigned then docSignature
  else if key = docKey ∧ msg = largeSigned then largeSignature
  else ⟨(Sha256.digest (key.toList ++ msg)).toList
    ++ (Sha256.digest (msg ++ key.toList)).toList, by simp⟩

/-- `docKey` and its public key change places; any other key is its own
public key. -/
def verifyingKey : FixedBytes 32 → FixedBytes 32 :=
  Equiv.swap docKey docPublic

def verify (key : FixedBytes 32) (msg : Bytes)
    (signature : FixedBytes signatureLength) : Bool :=
  decide (signature = sign (Equiv.swap docKey docPublic key) msg)

-- ========================================================= the platform

noncomputable def platform : Platform where
  sha256 := Sha256.digest
  hkdf salt ikm := some (Sha256.hkdf256 salt ikm)
  verifyingKey := verifyingKey
  sign := sign
  verify := verify
  writeValue v := .ok (writeValue v)
  readValue := readValue

theorem platform_rmpvCodec : RmpvCodec platform where
  write_ok v := ⟨writeValue v, rfl⟩
  write_ne_nil v b h := by
    injection h with h
    rw [← h]
    exact writeValue_ne_nil v
  read_write v b h := by
    injection h with h
    rw [← h]
    exact readValue_writeValue v

theorem length_encodeList_mem {v : Value} {vs : List Value} (h : v ∈ vs) :
    (encodeValue v).length ≤ (encodeList vs).length := by
  induction vs with
  | nil => cases h
  | cons w vs ih =>
      unfold encodeList
      rw [List.length_append]
      rcases List.mem_cons.mp h with rfl | h
      · exact Nat.le_add_right _ _
      · exact (ih h).trans (Nat.le_add_left _ _)

theorem code_le_codeList {v : Value} {vs : List Value} (h : v ∈ vs) :
    code v ≤ codeList vs := by
  induction vs with
  | nil => cases h
  | cons w vs ih =>
      unfold codeList
      rcases List.mem_cons.mp h with rfl | h
      · exact (Nat.left_le_pair _ _).trans (Nat.le_succ _)
      · exact (ih h).trans ((Nat.right_le_pair _ _).trans (Nat.le_succ _))

theorem platform_writesBinaries : WritesBinaries platform := by
  intro vs b data h hmem
  injection h with h
  rw [← h]
  unfold writeValue
  dsimp only
  split
  case isTrue =>
    have hdata : data.length < (encodeValue (.binary data)).length := by
      unfold encodeValue encodeBinary
      dsimp only
      rw [List.length_append]
      split
      case isTrue => simp
      case isFalse => split <;> simp
    have hlist := length_encodeList_mem hmem
    unfold encodeValue at hdata ⊢
    rw [List.length_append]
    unfold encodeValue at hlist
    omega
  case isFalse =>
    have hdata : data.length ≤ code (.binary data) := by
      have hlen := Encodable.length_le_encode (data.map UInt8.toNat)
      rw [List.length_map] at hlen
      unfold code codeBytes
      exact hlen.trans (Nat.right_le_pair _ _)
    have hcode : codeList vs ≤ code (.array vs) := by
      rw [code]
      exact Nat.right_le_pair _ _
    have hmem := code_le_codeList hmem
    rw [List.length_cons, List.length_replicate]
    omega

theorem platform_signsHonestly : SignsHonestly platform := by
  intro key msg
  show decide (sign key msg = sign (Equiv.swap docKey docPublic
    (Equiv.swap docKey docPublic key)) msg) = true
  rw [Equiv.swap_apply_self, decide_eq_true_iff]

end Lxmf.Reference
