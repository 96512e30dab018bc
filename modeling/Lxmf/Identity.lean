/-
Identities, derived keys and the tokens encrypted under them
(reticulum-patched/src/identity.rs, crypt/fernet.rs).

# What is a parameter

`x25519-dalek`, `ed25519-dalek`, `hkdf`, `hmac`, `aes` and `cbc` are
foreign: `Crypto` adds their entry points to a `Platform`. How long a text
gets when it is padded is in the type of `cbcEncrypt`.

# Random keys

A secret or an initialisation vector that the source draws from `OsRng`
is an argument of the call.

# Buffers

A call that writes into a slice takes the length of that slice. A slice
that is too short is an error where the source checks it and a panic
where it does not.
-/
import Lxmf.Library.Cbc
import Lxmf.Wire

namespace Lxmf.Reticulum

-- ==================================================== foreign functions

abbrev SecretKey := FixedBytes 32
abbrev PublicKey := FixedBytes 32
abbrev Signature := FixedBytes signatureLength

abbrev blockSize : Nat := 16
abbrev Block := FixedBytes blockSize

/-- The length of a text after PKCS #7 padding. -/
def paddedLength (length : Nat) : Nat := blockSize * (length / blockSize + 1)

/-- The primitives, which are foreign. -/
structure Crypto extends Platform where
  /-- `x25519_dalek::PublicKey::from(&StaticSecret)`. -/
  publicKey : SecretKey → PublicKey
  /-- `StaticSecret::diffie_hellman`. -/
  diffieHellman : SecretKey → PublicKey → FixedBytes 32
  /-- `Hkdf::<Sha256>::new(Some(salt), ikm)`, then `expand(&[], ..)`
  into 64 bytes. -/
  hkdfKey : Bytes → FixedBytes 32 → FixedBytes 64
  /-- `Hmac::<Sha256>` under a 32-byte key. -/
  hmac : FixedBytes 32 → Bytes → FixedBytes 32
  /-- `cbc::Encryptor::<Aes256>` with a key and a vector, then
  `encrypt_padded_b2b_mut::<Pkcs7>` of a text. -/
  cbcEncrypt : FixedBytes 32 → Block → (text : Bytes) →
    FixedBytes (paddedLength text.length)
  /-- `cbc::Decryptor::<Aes256>` with a key and a vector, then
  `decrypt_padded_b2b_mut::<Pkcs7>`. -/
  cbcDecrypt : FixedBytes 32 → Block → Bytes → Option Bytes
  /-- `VerifyingKey::from_bytes(..).is_ok()`. -/
  validKey : PublicKey → Bool
  /-- `VerifyingKey::default()`. -/
  defaultKey : PublicKey
  /-- `VerifyingKey::verify_strict(..).is_ok()`. -/
  verifyStrict : PublicKey → Bytes → Signature → Bool

/-- Both ends of an exchange get one secret. -/
def ExchangeCommutes (C : Crypto) : Prop :=
  ∀ a b, C.diffieHellman a (C.publicKey b)
    = C.diffieHellman b (C.publicKey a)

/-- What is encrypted is decrypted under the same key and vector. -/
def DecryptsTexts (C : Crypto) : Prop :=
  ∀ key iv text,
    C.cbcDecrypt key iv (C.cbcEncrypt key iv text).toList = some text

/-- A signature verifies strictly under the signer's key. -/
def SignsStrictly (C : Crypto) : Prop :=
  ∀ key msg, C.verifyStrict (C.verifyingKey key) msg (C.sign key msg)

/-- The verifying key of a signing key is a point of the curve. -/
def MakesValidKeys (C : Crypto) : Prop :=
  ∀ key, C.validKey (C.verifyingKey key)

-- ========================================================== identities

section Identities

variable (C : Crypto)

/-- What others know of an identity. -/
structure Identity where
  publicKey : PublicKey
  verifyingKey : PublicKey
  addressHash : Hash16
deriving DecidableEq

/-- The address is made of both keys. -/
def Identity.new (publicKey verifyingKey : PublicKey) : Identity where
  publicKey
  verifyingKey
  addressHash := addressHashOf
    (C.sha256 (publicKey.toList ++ verifyingKey.toList))

/-- `Identity::new_from_slices` on 32 bytes each. -/
def Identity.newFromSlices (publicKey verifyingKey : PublicKey) :
    Identity :=
  .new C publicKey
    (if C.validKey verifyingKey then verifyingKey else C.defaultKey)

/-- `Identity::default`. -/
def Identity.empty : Identity :=
  .new C (List.Vector.replicate 32 0) C.defaultKey

/-- `PrivateIdentity`; its public part is a function of the keys. -/
structure PrivateIdentity where
  privateKey : SecretKey
  signKey : SecretKey
deriving DecidableEq

/-- The public half. -/
def PrivateIdentity.asIdentity (id : PrivateIdentity) : Identity :=
  .new C (C.publicKey id.privateKey) (C.verifyingKey id.signKey)

-- ======================================================== derived keys

abbrev derivedKeyLength : Nat := 64
abbrev DerivedKey := FixedBytes derivedKeyLength

/-- The key of a link that was not proved. -/
def DerivedKey.empty : DerivedKey := List.Vector.replicate _ 0

/-- `PrivateIdentity::derive_key` with a salt. -/
def PrivateIdentity.deriveKey (id : PrivateIdentity)
    (publicKey : PublicKey) (salt : Bytes) : DerivedKey :=
  C.hkdfKey salt (C.diffieHellman id.privateKey publicKey)

/-- `Identity::derive_key`, with the ephemeral secret it draws. -/
def Identity.deriveKey (id : Identity) (ephemeral : SecretKey)
    (salt : Bytes) : DerivedKey :=
  C.hkdfKey salt (C.diffieHellman ephemeral id.publicKey)

end Identities

-- ============================================================== fernet

abbrev aesKeySize : Nat := 32
abbrev ivSize : Nat := 16
abbrev hmacSize : Nat := 32
abbrev fernetOverhead : Nat := ivSize + hmacSize

/-- A token cipher with the keys of its two halves. -/
structure Fernet where
  signKey : FixedBytes aesKeySize
  encKey : FixedBytes aesKeySize

/-- The array with a key copied to its start: `copy_from_slice` panics
when the key is longer. -/
def copyKey (key : Bytes) : Except Fault (FixedBytes aesKeySize) :=
  if h : key.length ≤ aesKeySize then
    .ok ⟨key ++ List.replicate (aesKeySize - key.length) 0, by
      rw [List.length_append, List.length_replicate]
      omega⟩
  else .error .panic

/-- A key that is too short is filled up with zeros. -/
def Fernet.newFromSlices (signKey encKey : Bytes) :
    Except Fault Fernet := do
  let signKey ← copyKey signKey
  let encKey ← copyKey encKey
  return { signKey, encKey }

section Fernet

variable (C : Crypto) (f : Fernet)

/-- `Fernet::encrypt` into a slice of `room` bytes. -/
def Fernet.encrypt (iv : Block) (text : Bytes) (room : Nat) :
    Except Fault Bytes :=
  if room ≤ fernetOverhead then .error (.error .invalidArgument)
  else
    let cipherText := (C.cbcEncrypt f.encKey iv text).toList
    -- the padded text has to fit, and then the tag
    if room < ivSize + cipherText.length then .error .panic
    else if room < ivSize + cipherText.length + hmacSize then .error .panic
    else
      let signed := iv.toList ++ cipherText
      .ok (signed ++ (C.hmac f.signKey signed).toList)

/-- `Fernet::verify`. The loop over both tags finds a difference or
none. -/
def Fernet.verify (token : Bytes) : Except Fault Bytes :=
  if token.length ≤ fernetOverhead then .error (.error .invalidArgument)
  else
    let expected := token.drop (token.length - hmacSize)
    let actual := C.hmac f.signKey (token.take (token.length - hmacSize))
    if expected = actual.toList then .ok token
    else .error (.error .incorrectSignature)

/-- The first 16 bytes of a token. -/
def tokenIv (token : Bytes) : Block :=
  Cbc.block 0 token

/-- `Fernet::decrypt` of a verified token into a slice of `room`
bytes. -/
def Fernet.decrypt (token : Bytes) (room : Nat) : Except Fault Bytes :=
  if token.length ≤ fernetOverhead then .error (.error .invalidArgument)
  else
    let cipherText := (token.take (token.length - hmacSize)).drop ivSize
    if room < cipherText.length then .error (.error .cryptoError)
    else
      match C.cbcDecrypt f.encKey (tokenIv token) cipherText with
      | some text => .ok text
      | none => .error (.error .cryptoError)

end Fernet

-- ========================================================== encryption

section Encryption

variable (C : Crypto)

/-- `PrivateIdentity::encrypt`: the key in two halves. -/
def encryptWithKey (key : DerivedKey) (iv : Block) (text : Bytes)
    (room : Nat) : Except Fault Bytes := do
  let fernet ← Fernet.newFromSlices
    (key.toList.take (derivedKeyLength / 2))
    (key.toList.drop (derivedKeyLength / 2))
  fernet.encrypt C iv text room

/-- `PrivateIdentity::decrypt`. -/
def decryptWithKey (key : DerivedKey) (data : Bytes) (room : Nat) :
    Except Fault Bytes := do
  if data.length ≤ publicKeyLength then
    throw (.error .invalidArgument)
  let fernet ← Fernet.newFromSlices
    (key.toList.take (derivedKeyLength / 2))
    (key.toList.drop (derivedKeyLength / 2))
  let token ← fernet.verify C data
  fernet.decrypt C token room

/-- `Identity::encrypt`: a fresh public key, then a token under the key
cut at 16 bytes. -/
def Identity.encrypt (ephemeral : SecretKey) (iv : Block)
    (key : DerivedKey) (text : Bytes) (room : Nat) :
    Except Fault Bytes := do
  if room < publicKeyLength then throw (.error .invalidArgument)
  let fernet ← Fernet.newFromSlices (key.toList.take 16)
    (key.toList.drop 16)
  let token ← fernet.encrypt C iv text (room - publicKeyLength)
  return (C.publicKey ephemeral).toList ++ token

/-- `ReticulumEncryptor::encrypt`: the encryptor of `RnsOutbound::new`.
Both ephemeral secrets are drawn. -/
def reticulumEncryptor (destination : Hash16) (identity : Identity)
    (deriving' ephemeral : SecretKey) (iv : Block) (plaintext : Bytes) :
    Except Fault Bytes :=
  let derived := identity.deriveKey C deriving' destination.toList
  Identity.encrypt C ephemeral iv derived plaintext
    (plaintext.length + 512)

end Encryption

end Lxmf.Reticulum
