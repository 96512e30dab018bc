/-
The cryptography to compute with.

# What is real

SHA-256, HMAC, HKDF and the chaining of padded blocks are the library's.
Of X25519, Ed25519 and AES-256 there are the keys, secrets, signatures and
blocks that they give on the inputs below: one exchange, two announces,
and what is sealed under two keys.

# What is not

On other inputs the functions have the laws of the real ones and no
more. A public key is its own secret; two secrets share their exclusive
or; a message has a signature that is out of the range of Ed25519; a
block is its own cipher text.
-/
import Lxmf.Node
import Lxmf.Reference
import Mathlib.Logic.Equiv.Basic

namespace Lxmf.Reference

open Reticulum

-- ============================================================== agreement

def firstSecret : SecretKey := List.Vector.replicate 32 0x01
def secondSecret : SecretKey := List.Vector.replicate 32 0x02
def thirdSecret : SecretKey := List.Vector.replicate 32 0x03

/-- The X25519 public keys of the three. -/
def firstPublic : PublicKey := ⟨
  [0xa4, 0xe0, 0x92, 0x92, 0xb6, 0x51, 0xc2, 0x78, 0xb9, 0x77, 0x2c, 0x56,
   0x9f, 0x5f, 0xa9, 0xbb, 0x13, 0xd9, 0x06, 0xb4, 0x6a, 0xb6, 0x8c, 0x9d,
   0xf9, 0xdc, 0x2b, 0x44, 0x09, 0xf8, 0xa2, 0x09], rfl⟩

def secondPublic : PublicKey := ⟨
  [0xce, 0x8d, 0x3a, 0xd1, 0xcc, 0xb6, 0x33, 0xec, 0x7b, 0x70, 0xc1, 0x78,
   0x14, 0xa5, 0xc7, 0x6e, 0xcd, 0x02, 0x96, 0x85, 0x05, 0x0d, 0x34, 0x47,
   0x45, 0xba, 0x05, 0x87, 0x0e, 0x58, 0x7d, 0x59], rfl⟩

def thirdPublic : PublicKey := ⟨
  [0x5d, 0xfe, 0xdd, 0x3b, 0x6b, 0xd4, 0x7f, 0x6f, 0xa2, 0x8e, 0xe1, 0x5d,
   0x96, 0x9d, 0x5b, 0xb0, 0xea, 0x53, 0x77, 0x4d, 0x48, 0x8b, 0xda, 0xf9,
   0xdf, 0x1c, 0x6e, 0x01, 0x24, 0xb3, 0xef, 0x22], rfl⟩

/-- What the first two share. -/
def firstSecondShared : FixedBytes 32 := ⟨
  [0x2e, 0xd7, 0x6a, 0xb5, 0x49, 0xb1, 0xe7, 0x3c, 0x03, 0x1e, 0xb4, 0x9c,
   0x94, 0x48, 0xf0, 0x79, 0x8a, 0xea, 0x81, 0xb6, 0x98, 0x27, 0x9a, 0x0c,
   0x3d, 0xc3, 0xe4, 0x9f, 0xbf, 0xc4, 0xb9, 0x53], rfl⟩

/-- A secret and its public key change places. -/
def publicKeys : Equiv.Perm (FixedBytes 32) :=
  (Equiv.swap firstSecret firstPublic).trans
    ((Equiv.swap secondSecret secondPublic).trans
      (Equiv.swap thirdSecret thirdPublic))

def shared (a b : SecretKey) : FixedBytes 32 :=
  if (a = firstSecret ∧ b = secondSecret)
      ∨ (a = secondSecret ∧ b = firstSecret) then firstSecondShared
  else List.Vector.ofFn fun i => a.get i ^^^ b.get i

theorem shared_comm (a b : SecretKey) : shared a b = shared b a := by
  unfold shared
  by_cases h : (a = firstSecret ∧ b = secondSecret)
      ∨ (a = secondSecret ∧ b = firstSecret)
  · rw [if_pos h, if_pos]
    exact h.elim (fun h => .inr ⟨h.2, h.1⟩) fun h => .inl ⟨h.2, h.1⟩
  · rw [if_neg h, if_neg]
    · exact congrArg List.Vector.ofFn (funext fun i => UInt8.xor_comm ..)
    · exact fun h' => h (h'.elim (fun h => .inr ⟨h.2, h.1⟩)
        fun h => .inl ⟨h.2, h.1⟩)

-- ============================================================= signatures

def askerKey : SecretKey := List.Vector.replicate 32 0x04

/-- The Ed25519 public key of `askerKey`. -/
def askerPublic : PublicKey := ⟨
  [0xca, 0x93, 0xac, 0x17, 0x05, 0x18, 0x70, 0x71, 0xd6, 0x7b, 0x83, 0xc7,
   0xff, 0x0e, 0xfe, 0x81, 0x08, 0xe8, 0xec, 0x45, 0x30, 0x57, 0x5d, 0x77,
   0x26, 0x87, 0x93, 0x33, 0xdb, 0xda, 0xbe, 0x7c], rfl⟩

def verifyingKeys : Equiv.Perm (FixedBytes 32) :=
  (Equiv.swap docKey docPublic).trans (Equiv.swap askerKey askerPublic)

/-- What a destination with `docKey` and `thirdSecret` signs to prove a
link that the first asks for and the second secret answers. -/
def proofSigned : Bytes :=
  [0x1b, 0xe2, 0xc7, 0xbc, 0x9f, 0xa2, 0x06, 0xed, 0x64, 0xdb, 0x7a, 0xfe,
   0x86, 0x41, 0x05, 0xc6, 0xce, 0x8d, 0x3a, 0xd1, 0xcc, 0xb6, 0x33, 0xec,
   0x7b, 0x70, 0xc1, 0x78, 0x14, 0xa5, 0xc7, 0x6e, 0xcd, 0x02, 0x96, 0x85,
   0x05, 0x0d, 0x34, 0x47, 0x45, 0xba, 0x05, 0x87, 0x0e, 0x58, 0x7d, 0x59,
   0xea, 0x4a, 0x6c, 0x63, 0xe2, 0x9c, 0x52, 0x0a, 0xbe, 0xf5, 0x50, 0x7b,
   0x13, 0x2e, 0xc5, 0xf9, 0x95, 0x47, 0x76, 0xae, 0xbe, 0xbe, 0x7b, 0x92,
   0x42, 0x1e, 0xea, 0x69, 0x14, 0x46, 0xd2, 0x2c]

def proofSignature : Signature := ⟨
  [0x9e, 0xef, 0x92, 0xe1, 0xcf, 0xd4, 0x8d, 0xed, 0x5f, 0xd0, 0x81, 0x09,
   0x77, 0x2c, 0x7b, 0x58, 0xbc, 0xf3, 0xe0, 0x5a, 0x93, 0x3e, 0x3b, 0xd7,
   0xe8, 0x81, 0x16, 0x83, 0x99, 0x37, 0x7b, 0xaf, 0x2a, 0xb1, 0x3e, 0xe7,
   0x4b, 0x59, 0x1f, 0x5b, 0x96, 0x4e, 0x25, 0x1e, 0x17, 0x5b, 0xa1, 0x10,
   0x0b, 0xda, 0xd3, 0xef, 0xfe, 0x64, 0xbf, 0xd7, 0x68, 0x7d, 0x9f, 0x57,
   0x12, 0x31, 0x71, 0x09], rfl⟩

/-- What the same destination signs to announce itself with two bytes. -/
def announceSigned : Bytes :=
  [0x65, 0xbd, 0xce, 0x4d, 0xcc, 0x97, 0x40, 0x78, 0x8e, 0xbd, 0x4d, 0xfe,
   0x9a, 0x28, 0xa1, 0xc4, 0x5d, 0xfe, 0xdd, 0x3b, 0x6b, 0xd4, 0x7f, 0x6f,
   0xa2, 0x8e, 0xe1, 0x5d, 0x96, 0x9d, 0x5b, 0xb0, 0xea, 0x53, 0x77, 0x4d,
   0x48, 0x8b, 0xda, 0xf9, 0xdf, 0x1c, 0x6e, 0x01, 0x24, 0xb3, 0xef, 0x22,
   0xea, 0x4a, 0x6c, 0x63, 0xe2, 0x9c, 0x52, 0x0a, 0xbe, 0xf5, 0x50, 0x7b,
   0x13, 0x2e, 0xc5, 0xf9, 0x95, 0x47, 0x76, 0xae, 0xbe, 0xbe, 0x7b, 0x92,
   0x42, 0x1e, 0xea, 0x69, 0x14, 0x46, 0xd2, 0x2c, 0x6e, 0xc6, 0x0b, 0xc3,
   0x18, 0xe2, 0xc0, 0xf0, 0xd9, 0x08, 0x05, 0x05, 0x05, 0x05, 0x05, 0x05,
   0x05, 0x05, 0x05, 0x05, 0x68, 0x69]

def announceSignature : Signature := ⟨
  [0x6a, 0x41, 0xf5, 0x1c, 0xf3, 0xfc, 0x6e, 0x4b, 0x43, 0x9d, 0x60, 0xaf,
   0xd3, 0x98, 0x9f, 0xef, 0x44, 0x0f, 0x2f, 0x3f, 0x70, 0x55, 0x3c, 0xcb,
   0x1d, 0xc3, 0xc9, 0xcd, 0xb7, 0x04, 0x25, 0x01, 0x87, 0x6f, 0x10, 0xae,
   0xce, 0x49, 0xeb, 0x3a, 0x65, 0xdb, 0xe8, 0x4a, 0x12, 0x8c, 0x03, 0x3a,
   0xf4, 0xba, 0x98, 0x81, 0x83, 0xa3, 0x79, 0x04, 0xec, 0xc4, 0x0a, 0x78,
   0x29, 0xa3, 0x7a, 0x04], rfl⟩

/-- What it signs to announce itself without data. -/
def bareSigned : Bytes :=
  [0x65, 0xbd, 0xce, 0x4d, 0xcc, 0x97, 0x40, 0x78, 0x8e, 0xbd, 0x4d, 0xfe,
   0x9a, 0x28, 0xa1, 0xc4, 0x5d, 0xfe, 0xdd, 0x3b, 0x6b, 0xd4, 0x7f, 0x6f,
   0xa2, 0x8e, 0xe1, 0x5d, 0x96, 0x9d, 0x5b, 0xb0, 0xea, 0x53, 0x77, 0x4d,
   0x48, 0x8b, 0xda, 0xf9, 0xdf, 0x1c, 0x6e, 0x01, 0x24, 0xb3, 0xef, 0x22,
   0xea, 0x4a, 0x6c, 0x63, 0xe2, 0x9c, 0x52, 0x0a, 0xbe, 0xf5, 0x50, 0x7b,
   0x13, 0x2e, 0xc5, 0xf9, 0x95, 0x47, 0x76, 0xae, 0xbe, 0xbe, 0x7b, 0x92,
   0x42, 0x1e, 0xea, 0x69, 0x14, 0x46, 0xd2, 0x2c, 0x6e, 0xc6, 0x0b, 0xc3,
   0x18, 0xe2, 0xc0, 0xf0, 0xd9, 0x08, 0x05, 0x05, 0x05, 0x05, 0x05, 0x05,
   0x05, 0x05, 0x05, 0x05]

def bareSignature : Signature := ⟨
  [0x5e, 0x38, 0xaa, 0x00, 0x4c, 0x80, 0xb6, 0xd6, 0x3c, 0x68, 0x86, 0x46,
   0xc4, 0x43, 0x61, 0xc9, 0xc5, 0x49, 0xb9, 0x67, 0xde, 0x13, 0x30, 0x71,
   0x05, 0xfd, 0x1d, 0x0a, 0x4c, 0xe9, 0x50, 0x9f, 0x65, 0x97, 0x9d, 0xd9,
   0xeb, 0xfd, 0x16, 0x5c, 0x54, 0xc4, 0x0b, 0xe3, 0x88, 0xb6, 0xa5, 0x75,
   0x8f, 0x16, 0x5d, 0x00, 0x5c, 0x52, 0x2a, 0x21, 0x78, 0x0c, 0x65, 0x77,
   0xc1, 0xe9, 0xd5, 0x0f], rfl⟩

/-- What someone with `askerKey` signs to announce the same address. -/
def takenSigned : Bytes :=
  [0x65, 0xbd, 0xce, 0x4d, 0xcc, 0x97, 0x40, 0x78, 0x8e, 0xbd, 0x4d, 0xfe,
   0x9a, 0x28, 0xa1, 0xc4, 0xa4, 0xe0, 0x92, 0x92, 0xb6, 0x51, 0xc2, 0x78,
   0xb9, 0x77, 0x2c, 0x56, 0x9f, 0x5f, 0xa9, 0xbb, 0x13, 0xd9, 0x06, 0xb4,
   0x6a, 0xb6, 0x8c, 0x9d, 0xf9, 0xdc, 0x2b, 0x44, 0x09, 0xf8, 0xa2, 0x09,
   0xca, 0x93, 0xac, 0x17, 0x05, 0x18, 0x70, 0x71, 0xd6, 0x7b, 0x83, 0xc7,
   0xff, 0x0e, 0xfe, 0x81, 0x08, 0xe8, 0xec, 0x45, 0x30, 0x57, 0x5d, 0x77,
   0x26, 0x87, 0x93, 0x33, 0xdb, 0xda, 0xbe, 0x7c, 0x6e, 0xc6, 0x0b, 0xc3,
   0x18, 0xe2, 0xc0, 0xf0, 0xd9, 0x08, 0x05, 0x05, 0x05, 0x05, 0x05, 0x05,
   0x05, 0x05, 0x05, 0x05]

def takenSignature : Signature := ⟨
  [0x10, 0xc8, 0x35, 0x16, 0x67, 0x32, 0xea, 0x04, 0x5c, 0xd7, 0x05, 0x17,
   0xd4, 0x73, 0xbb, 0x44, 0x5b, 0x8f, 0xdc, 0x2a, 0xb7, 0x9b, 0x15, 0xab,
   0x85, 0xe0, 0x8e, 0x14, 0x22, 0x97, 0xb8, 0x9f, 0xdc, 0xa1, 0x74, 0x39,
   0x64, 0xba, 0x55, 0x22, 0xbe, 0xa9, 0xc6, 0xc4, 0x9b, 0x57, 0x59, 0x7d,
   0x51, 0x4c, 0x24, 0xc3, 0xe7, 0xc6, 0x62, 0x89, 0xd1, 0x06, 0xe7, 0x45,
   0x9a, 0x2f, 0x01, 0x08], rfl⟩

/-- The messages that are signed, and their Ed25519 signatures. -/
def signatures : List ((SecretKey × Bytes) × Signature) :=
  [((docKey, proofSigned), proofSignature),
    ((docKey, announceSigned), announceSignature),
    ((docKey, bareSigned), bareSignature),
    ((askerKey, takenSigned), takenSignature)]

/-- No Ed25519 signature ends in this byte. -/
def unsigned (key : SecretKey) (msg : Bytes) : Signature := ⟨
  (Sha256.digest (key.toList ++ msg)).toList
    ++ (Sha256.digest (msg ++ key.toList)).toList.take 31 ++ [0xff],
  by simp⟩

def signWith (key : SecretKey) (msg : Bytes) : Signature :=
  match signatures.lookup (key, msg) with
  | some signature => signature
  | none => unsigned key msg

def verifyWith (key : PublicKey) (msg : Bytes) (signature : Signature) :
    Bool :=
  decide (signature = signWith (verifyingKeys.symm key) msg)

-- ================================================================ blocks

/-- The AES-256 key of the link that the first two secrets make. -/
def linkKey : FixedBytes 32 := ⟨
  [0x57, 0xe7, 0xe1, 0x7b, 0x81, 0x34, 0x24, 0x77, 0x71, 0x28, 0x40, 0x26,
   0xc6, 0xfc, 0xa0, 0x40, 0xce, 0x89, 0xdd, 0x92, 0x02, 0x4f, 0x15, 0x4b,
   0x07, 0xd6, 0x34, 0x23, 0x95, 0x32, 0xa0, 0xe3], rfl⟩

/-- A round trip time of 250 ms, padded, and its cipher text under
`linkKey`. -/
def rttBlock : Block := ⟨
  [0xc3, 0x37, 0x89, 0x09, 0x09, 0x02, 0x02, 0x02, 0x02, 0x02, 0x02, 0x02,
   0x02, 0x02, 0x02, 0x02], rfl⟩

def rttLinkBlock : Block := ⟨
  [0x73, 0x23, 0x53, 0x83, 0x29, 0x24, 0x6b, 0x9c, 0x4d, 0xcd, 0x4a, 0x4b,
   0xc1, 0xae, 0xad, 0x35], rfl⟩

/-- Two bytes, padded, and their cipher text under `linkKey` and under
the zero key. -/
def textBlock : Block := ⟨
  [0x61, 0x60, 0x07, 0x07, 0x07, 0x07, 0x07, 0x07, 0x07, 0x07, 0x07, 0x07,
   0x07, 0x07, 0x07, 0x07], rfl⟩

def textLinkBlock : Block := ⟨
  [0xc7, 0xcd, 0x55, 0xb0, 0xf1, 0x5c, 0x9f, 0xcc, 0xe3, 0xcf, 0xa3, 0x00,
   0x12, 0xd6, 0x49, 0xb3], rfl⟩

def textZeroBlock : Block := ⟨
  [0xe0, 0x9e, 0xb4, 0xe1, 0xf2, 0xc7, 0xf4, 0x0c, 0x09, 0x5c, 0xd2, 0x7c,
   0xc7, 0x34, 0x48, 0x14], rfl⟩

def blocks (key : FixedBytes 32) : Equiv.Perm Block :=
  if key = linkKey then
    (Equiv.swap rttBlock rttLinkBlock).trans
      (Equiv.swap textBlock textLinkBlock)
  else if key = List.Vector.replicate 32 0 then
    Equiv.swap textBlock textZeroBlock
  else .refl _

-- =============================================================== chains

def xorBlock (a b : Block) : Block :=
  List.Vector.ofFn fun i => a.get i ^^^ b.get i

theorem xorBlock_xorBlock (a b : Block) : xorBlock (xorBlock a b) b = a := by
  refine List.Vector.ext fun i => ?_
  unfold xorBlock
  rw [List.Vector.get_ofFn, List.Vector.get_ofFn, UInt8.xor_assoc,
    UInt8.xor_self, UInt8.xor_zero]

theorem toNat_ofNat_blockSize (k : Nat) (_ : 0 < k) (hle : k ≤ blockSize) :
    (UInt8.ofNat k).toNat = k := by
  rw [UInt8.toNat_ofNat']
  exact Nat.mod_eq_of_lt (Nat.lt_of_le_of_lt hle (by decide))

/-- The blocks of a padded text, chained. -/
def chain (key : FixedBytes 32) (iv : Block) (text : Bytes) : List Block :=
  Cbc.encrypt xorBlock (blocks key) iv
    (Cbc.blocks 0 (text.length / blockSize + 1)
      (Cbc.pad UInt8.ofNat blockSize text))

theorem length_chain (key : FixedBytes 32) (iv : Block) (text : Bytes) :
    (chain key iv text).length = text.length / blockSize + 1 := by
  unfold chain
  rw [Cbc.length_encrypt, Cbc.length_blocks]

def unchain (key : FixedBytes 32) (iv : Block) (cipherText : Bytes) :
    Option Bytes :=
  if cipherText.length % blockSize ≠ 0 then none
  else
    Cbc.unpad UInt8.toNat blockSize
      (Cbc.joined (Cbc.decrypt xorBlock (blocks key).symm iv
        (Cbc.blocks 0 (cipherText.length / blockSize) cipherText)))

theorem unchain_chain (key : FixedBytes 32) (iv : Block) (text : Bytes) :
    unchain key iv (Cbc.joined (chain key iv text)) = some text := by
  have hlength := Cbc.length_joined (chain key iv text)
  have hpad : (Cbc.pad UInt8.ofNat blockSize text).length
      = blockSize * (text.length / blockSize + 1) :=
    Cbc.length_pad (by decide) text
  unfold unchain
  rw [hlength, if_neg (by rw [Nat.mul_mod_right]; exact fun h => h rfl),
    Nat.mul_div_cancel_left _ (by decide), Cbc.blocks_joined]
  unfold chain
  rw [Cbc.decrypt_encrypt xorBlock_xorBlock (blocks key).symm_apply_apply,
    Cbc.joined_blocks 0 _ hpad,
    Cbc.unpad_pad (by decide) toNat_ofNat_blockSize]

-- ============================================================ the crypto

noncomputable def crypto : Crypto where
  toPlatform := { platform with
    verifyingKey := verifyingKeys
    sign := signWith
    verify := verifyWith }
  publicKey := publicKeys
  diffieHellman secret publicKey := shared secret (publicKeys.symm publicKey)
  hkdfKey salt ikm := ⟨(Sha256.hkdfNat (salt.map UInt8.toNat)
    (ikm.toList.map UInt8.toNat) 2).map UInt8.ofNat, by
      simp [Sha256.hkdfNat, Sha256.expand_length]⟩
  hmac key msg := ⟨(Sha256.hmac (Sha256.hmacKey (key.toList.map
    UInt8.toNat)) (msg.map UInt8.toNat)).map UInt8.ofNat, by
      simp [Sha256.hmac]⟩
  cbcEncrypt key iv text := ⟨Cbc.joined (chain key iv text), by
    rw [Cbc.length_joined, length_chain]
    rfl⟩
  cbcDecrypt := unchain
  validKey _ := true
  defaultKey := ⟨0x01 :: List.replicate 31 0x00, rfl⟩
  verifyStrict := verifyWith

theorem crypto_exchangeCommutes : ExchangeCommutes crypto := by
  intro a b
  show shared a (publicKeys.symm (publicKeys b))
    = shared b (publicKeys.symm (publicKeys a))
  rw [Equiv.symm_apply_apply, Equiv.symm_apply_apply]
  exact shared_comm a b

theorem crypto_decryptsTexts : DecryptsTexts crypto := unchain_chain

theorem crypto_signsStrictly : SignsStrictly crypto := by
  intro key msg
  show decide (signWith key msg
    = signWith (verifyingKeys.symm (verifyingKeys key)) msg) = true
  rw [Equiv.symm_apply_apply, decide_eq_true_iff]

theorem crypto_makesValidKeys : MakesValidKeys crypto := fun _ => rfl

/-- A signature is one of the table's, or out of range. -/
theorem signWith_cases (key : SecretKey) (msg : Bytes) :
    ((key, msg), signWith key msg) ∈ signatures
      ∨ signWith key msg = unsigned key msg := by
  unfold signWith
  split
  case h_1 signature h =>
    refine .inl ?_
    obtain ⟨before, after, hsplit, -⟩ := List.lookup_eq_some_iff.mp h
    rw [hsplit]
    exact List.mem_append_right before List.mem_cons_self
  case h_2 => exact .inr rfl

/-- What verifies is in the table, if an Ed25519 signature can be it. -/
theorem mem_signatures {key : SecretKey} {msg : Bytes}
    {signature : Signature}
    (h : verifyWith (verifyingKeys key) msg signature = true)
    (hrange : signature.toList.getLast? ≠ some 0xff) :
    ((key, msg), signature) ∈ signatures := by
  unfold verifyWith at h
  rw [decide_eq_true_iff, Equiv.symm_apply_apply] at h
  subst h
  refine (signWith_cases key msg).resolve_right fun hunsigned => hrange ?_
  rw [hunsigned]
  exact List.getLast?_concat

-- ============================================================== two nodes

/-- A destination, and an identity that asks for a link to it. -/
noncomputable def server : SingleInputDestination where
  identity := { privateKey := thirdSecret, signKey := docKey }
  name := .new crypto "lxmf" "delivery"

def asker : PrivateIdentity where
  privateKey := firstSecret
  signKey := askerKey

/-- The destination of that identity that has the same name. -/
noncomputable def intruder : SingleInputDestination where
  identity := asker
  name := server.name

def drawnHash : FixedBytes randHashLength := List.Vector.replicate _ 0x05

def drawnIv : Block := List.Vector.replicate _ 0x09

def drawn : Reticulum.Draws where
  secret := secondSecret
  ivs _ := drawnIv
  writeF32 ms := ⟨0xca :: beBytes 4 (single.encode (.fin (mkRat ms 1000))),
    rfl⟩

def iface : Hash16 := List.Vector.replicate _ 0xee

/-- The link that the identity asks for, and its request as the server
gets it. -/
noncomputable def askedLink : Link :=
  ((Link.new crypto (server.desc crypto) asker 0).request crypto 0).1

noncomputable def request : RxMessage :=
  ⟨iface, askedLink.requestPacket crypto⟩

end Lxmf.Reference
