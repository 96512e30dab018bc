/-
SHA-256, HMAC and HKDF over lists of bytes.

# Evaluation

Words and bytes are natural numbers until the last line, so that the
kernel computes with its own arithmetic. `strict` forces a number before
it is passed on: without it a round would hand the next one an
unevaluated sum, and the term would grow with every round.
-/
import Mathlib.Data.Vector.Basic

namespace Sha256

-- ========================================================= evaluation

/-- Evaluate `n`, then go on with it. -/
def strict {α : Type} (n : Nat) (f : Nat → α) : α :=
  Nat.casesOn n (f 0) fun m => f (Nat.succ m)

-- ========================================================= compression

/-
A word times 2^32 + 1 is the word twice in a row, so its rotations are
shifts of that product.
-/

def bigSigma0 (x : Nat) : Nat :=
  strict (Nat.mul x 0x100000001) fun y => Nat.mod (Nat.xor (Nat.xor
    (Nat.shiftRight y 2) (Nat.shiftRight y 13)) (Nat.shiftRight y 22))
    0x100000000

def bigSigma1 (x : Nat) : Nat :=
  strict (Nat.mul x 0x100000001) fun y => Nat.mod (Nat.xor (Nat.xor
    (Nat.shiftRight y 6) (Nat.shiftRight y 11)) (Nat.shiftRight y 25))
    0x100000000

def smallSigma0 (x : Nat) : Nat :=
  strict (Nat.mul x 0x100000001) fun y => Nat.mod (Nat.xor (Nat.xor
    (Nat.shiftRight y 7) (Nat.shiftRight y 18)) (Nat.shiftRight x 3))
    0x100000000

def smallSigma1 (x : Nat) : Nat :=
  strict (Nat.mul x 0x100000001) fun y => Nat.mod (Nat.xor (Nat.xor
    (Nat.shiftRight y 17) (Nat.shiftRight y 19)) (Nat.shiftRight x 10))
    0x100000000

def choose (e f g : Nat) : Nat := Nat.xor g (Nat.land e (Nat.xor f g))

def majority (a b c : Nat) : Nat :=
  Nat.lor (Nat.land a b) (Nat.land c (Nat.lor a b))

def roundConstants : List Nat :=
  [0x428a2f98, 0x71374491, 0xb5c0fbcf, 0xe9b5dba5, 0x3956c25b, 0x59f111f1,
   0x923f82a4, 0xab1c5ed5, 0xd807aa98, 0x12835b01, 0x243185be, 0x550c7dc3,
   0x72be5d74, 0x80deb1fe, 0x9bdc06a7, 0xc19bf174, 0xe49b69c1, 0xefbe4786,
   0x0fc19dc6, 0x240ca1cc, 0x2de92c6f, 0x4a7484aa, 0x5cb0a9dc, 0x76f988da,
   0x983e5152, 0xa831c66d, 0xb00327c8, 0xbf597fc7, 0xc6e00bf3, 0xd5a79147,
   0x06ca6351, 0x14292967, 0x27b70a85, 0x2e1b2138, 0x4d2c6dfc, 0x53380d13,
   0x650a7354, 0x766a0abb, 0x81c2c92e, 0x92722c85, 0xa2bfe8a1, 0xa81a664b,
   0xc24b8b70, 0xc76c51a3, 0xd192e819, 0xd6990624, 0xf40e3585, 0x106aa070,
   0x19a4c116, 0x1e376c08, 0x2748774c, 0x34b0bcb5, 0x391c0cb3, 0x4ed8aa4a,
   0x5b9cca4f, 0x682e6ff3, 0x748f82ee, 0x78a5636f, 0x84c87814, 0x8cc70208,
   0x90befffa, 0xa4506ceb, 0xbef9a3f7, 0xc67178f2]

/-- The eight working variables. -/
structure Working where
  a : Nat
  b : Nat
  c : Nat
  d : Nat
  e : Nat
  f : Nat
  g : Nat
  h : Nat

def initial : Working :=
  ⟨0x6a09e667, 0xbb67ae85, 0x3c6ef372, 0xa54ff53a,
   0x510e527f, 0x9b05688c, 0x1f83d9ab, 0x5be0cd19⟩

/-- One round for each constant: the window of sixteen schedule words
slides by one, the working variables rotate. Words and variables are
arguments of their own, which saves the kernel a projection each. -/
def rounds (ks : List Nat) : (w0 w1 w2 w3 w4 w5 w6 w7 w8 w9 w10 w11 w12
    w13 w14 w15 a b c d e f g h : Nat) → Working :=
  match ks with
  | [] => fun _ _ _ _ _ _ _ _ _ _ _ _ _ _ _ _ a b c d e f g h =>
      ⟨a, b, c, d, e, f, g, h⟩
  | k :: ks => fun w0 w1 w2 w3 w4 w5 w6 w7 w8 w9 w10 w11 w12 w13 w14 w15
      a b c d e f g h =>
      strict (Nat.add (Nat.add (Nat.add h (bigSigma1 e)) (choose e f g))
        (Nat.add k w0)) fun t1 =>
      strict (Nat.mod (Nat.add t1 (Nat.add (bigSigma0 a)
        (majority a b c))) 0x100000000) fun a' =>
      strict (Nat.mod (Nat.add d t1) 0x100000000) fun e' =>
      strict (Nat.mod (Nat.add (Nat.add (smallSigma1 w14) w9)
        (Nat.add (smallSigma0 w1) w0)) 0x100000000) fun w16 =>
      rounds ks w1 w2 w3 w4 w5 w6 w7 w8 w9 w10 w11 w12 w13 w14 w15 w16
        a' a b c e' e f g

def Working.add : Working → Working → Working
  | ⟨a, b, c, d, e, f, g, h⟩, ⟨a', b', c', d', e', f', g', h'⟩ =>
      strict (Nat.mod (Nat.add a a') 0x100000000) fun a =>
      strict (Nat.mod (Nat.add b b') 0x100000000) fun b =>
      strict (Nat.mod (Nat.add c c') 0x100000000) fun c =>
      strict (Nat.mod (Nat.add d d') 0x100000000) fun d =>
      strict (Nat.mod (Nat.add e e') 0x100000000) fun e =>
      strict (Nat.mod (Nat.add f f') 0x100000000) fun f =>
      strict (Nat.mod (Nat.add g g') 0x100000000) fun g =>
      strict (Nat.mod (Nat.add h h') 0x100000000) fun h =>
      ⟨a, b, c, d, e, f, g, h⟩

-- ============================================================ messages

/-- Absorb whole blocks of sixteen words; a shorter rest is left. -/
def absorb : Working → List Nat → Working
  | ⟨a, b, c, d, e, f, g, h⟩, w0 :: w1 :: w2 :: w3 :: w4 :: w5 :: w6
      :: w7 :: w8 :: w9 :: w10 :: w11 :: w12 :: w13 :: w14 :: w15
      :: rest =>
      absorb (Working.add ⟨a, b, c, d, e, f, g, h⟩ (rounds roundConstants
        w0 w1 w2 w3 w4 w5 w6 w7 w8 w9 w10 w11 w12 w13 w14 w15
        a b c d e f g h)) rest
  | s, _ => s

/-- Bytes to big-endian words. -/
def words : List Nat → List Nat
  | b0 :: b1 :: b2 :: b3 :: rest =>
      strict (Nat.add (Nat.mul (Nat.add (Nat.mul (Nat.add (Nat.mul
        b0 256) b1) 256) b2) 256) b3) fun w =>
      w :: words rest
  | _ => []

/-- A word as four bytes, most significant first, before `rest`. -/
def wordBytes (x : Nat) (rest : List Nat) : List Nat :=
  Nat.mod (Nat.shiftRight x 24) 256 :: Nat.mod (Nat.shiftRight x 16) 256
    :: Nat.mod (Nat.shiftRight x 8) 256 :: Nat.mod x 256 :: rest

/-- `n` zeros before `rest`. -/
def zeros (rest : List Nat) : Nat → List Nat
  | 0 => rest
  | n + 1 => 0 :: zeros rest n

/-- A message and its padding: a one bit, zeros, the length in bits. Of
the hashed message `n` bytes came before. -/
def pad : (n : Nat) → List Nat → List Nat
  | n, [] =>
      strict n fun n =>
      0x80 :: zeros (wordBytes (Nat.shiftRight (Nat.mul 8 n) 32)
        (wordBytes (Nat.mul 8 n) []))
        (Nat.mod (Nat.sub 119 (Nat.mod n 64)) 64)
  | n, b :: rest => strict (Nat.succ n) fun n => b :: pad n rest

def Working.bytes : Working → List Nat
  | ⟨a, b, c, d, e, f, g, h⟩ =>
      wordBytes a <| wordBytes b <| wordBytes c <| wordBytes d <|
        wordBytes e <| wordBytes f <| wordBytes g <| wordBytes h []

/-- Finish a hash of which `n` bytes are already in `s`. -/
def finish (s : Working) (n : Nat) (m : List Nat) : List Nat :=
  (absorb s (words (pad n m))).bytes

def digestNat (m : List Nat) : List Nat := finish initial 0 m

@[simp] theorem finish_length (s : Working) (n : Nat) (m : List Nat) :
    (finish s n m).length = 32 := by
  simp [finish, Working.bytes, wordBytes]

-- ======================================================= HMAC and HKDF

/-- The hash states after the two padded keys. -/
structure HmacKey where
  inner : Working
  outer : Working

def hmacKey (key : List Nat) : HmacKey :=
  let k := if 64 < key.length then digestNat key else key
  let k := k ++ List.replicate (64 - k.length) 0
  { inner := absorb initial (words (k.map (Nat.xor 0x36)))
    outer := absorb initial (words (k.map (Nat.xor 0x5c))) }

def hmac (key : HmacKey) (m : List Nat) : List Nat :=
  finish key.outer 64 (finish key.inner 64 m)

/-- HKDF-Expand with an empty info string: `n` further blocks. -/
def expand (prk : HmacKey) (previous : List Nat) (i : Nat) :
    Nat → List Nat
  | 0 => []
  | n + 1 =>
      let t := hmac prk (previous ++ [i])
      t ++ expand prk t (i + 1) n

/-- HKDF-Extract, then `n` blocks of HKDF-Expand. -/
def hkdfNat (salt ikm : List Nat) (n : Nat) : List Nat :=
  expand (hmacKey (hmac (hmacKey salt) ikm)) [] 1 n

theorem expand_length (prk : HmacKey) (previous : List Nat)
    (i n : Nat) : (expand prk previous i n).length = 32 * n := by
  induction n generalizing previous i with
  | zero => rfl
  | succ n ih =>
      simp only [expand, hmac, List.length_append, finish_length, ih]
      omega

-- ======================================================== on `u8` bytes

def digest (m : List UInt8) : List.Vector UInt8 32 :=
  ⟨(digestNat (m.map UInt8.toNat)).map UInt8.ofNat, by
    simp [digestNat]⟩

/-- HKDF with a 256-byte output. -/
def hkdf256 (salt ikm : List UInt8) : List.Vector UInt8 256 :=
  ⟨(hkdfNat (salt.map UInt8.toNat) (ikm.map UInt8.toNat) 8).map
      UInt8.ofNat, by
    simp [hkdfNat, expand_length]⟩

end Sha256
