/-
The crates the program links against, as parameters.

# What is a parameter

`sha2`, `hkdf`, `ed25519-dalek`, `rmpv` and `rand_core` are not part of
the repository. A `Platform` carries one function for each entry point
the source calls, and every definition that reaches one of them takes
the platform as an argument. Nothing is assumed about a platform unless
a statement says so by name: `RmpvCodec` for the MessagePack codec,
`WritesBinaries` for its lengths, `SignsHonestly` for the signature
scheme, `NoCollision` for one pair of hashed strings. SHA-256 is never
assumed injective, which no function into 32 bytes is.

# Randomness

`OsRng` is a stream of bytes fixed per call: a statement over every
stream is a statement over every outcome of the generator.
-/
import Lxmf.Value

namespace Lxmf

/-- The foreign functions the source calls. -/
structure Platform where
  /-- `Sha256::digest`. -/
  sha256 : Bytes → Hash32
  /-- `Hkdf::<Sha256>::new(Some(salt), ikm)`, then `expand(&[], ..)`
  into a 256-byte buffer. -/
  hkdf : Bytes → Bytes → Option (FixedBytes 256)
  /-- `SigningKey::verifying_key`. -/
  verifyingKey : FixedBytes 32 → FixedBytes 32
  /-- `SigningKey::sign`. -/
  sign : FixedBytes 32 → Bytes → FixedBytes signatureLength
  /-- `VerifyingKey::verify(..).is_ok()`. -/
  verify : FixedBytes 32 → Bytes → FixedBytes signatureLength → Bool
  /-- `rmpv::encode::write_value` into a fresh buffer. -/
  writeValue : Value → Except String Bytes
  /-- `rmpv::decode::read_value`, which leaves trailing bytes alone. -/
  readValue : Bytes → Except String Value

/-- `OsRng`, as the bytes it yields within one call. -/
abbrev OsRng := Nat → UInt8

/-- `OsRng.fill_bytes` on an `n`-byte buffer, for the `k`-th time. -/
def OsRng.fillBytes (rng : OsRng) (n k : Nat) : FixedBytes n :=
  List.Vector.ofFn fun i => rng (n * k + i)

-- ======================================================= assumptions

/-- `rmpv` writes every value into a buffer, as at least one byte, and
reads it back. -/
structure RmpvCodec (P : Platform) : Prop where
  write_ok : ∀ v, ∃ b, P.writeValue v = .ok b
  write_ne_nil : ∀ v b, P.writeValue v = .ok b → b ≠ []
  read_write : ∀ v b, P.writeValue v = .ok b → P.readValue b = .ok v

/-- `rmpv` writes the bytes of a binary into an array it is in, behind the
markers of both. -/
def WritesBinaries (P : Platform) : Prop :=
  ∀ vs b data, P.writeValue (.array vs) = .ok b →
    Value.binary data ∈ vs → data.length < b.length

/-- A signature verifies under the signer's key, over the same bytes. -/
def SignsHonestly (P : Platform) : Prop :=
  ∀ key msg, P.verify (P.verifyingKey key) msg (P.sign key msg) = true

/-- These two strings do not collide. -/
def NoCollision (P : Platform) (a b : Bytes) : Prop :=
  P.sha256 a = P.sha256 b → a = b

/-- Two values with one encoding are one value. -/
theorem RmpvCodec.write_inj {P : Platform} (hP : RmpvCodec P) {v w : Value}
    (h : P.writeValue v = P.writeValue w) : v = w := by
  obtain ⟨b, hv⟩ := hP.write_ok v
  have hr := hP.read_write v b hv
  rw [hP.read_write w b (h ▸ hv)] at hr
  injection hr with hr
  exact hr.symm

end Lxmf
