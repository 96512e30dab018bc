/-
Tokens: what is encrypted under a derived key is read back under it.

# Lengths

A text grows to the next multiple of a block, and a token by a vector
and a tag more (`tokenLength`). So a token fits the data of a packet up
to a text of 1999 bytes, and beyond that encrypting panics
(`encryptWithKey_packet`).

# Round trip

`decryptWithKey_token` puts together what is known of the padded text, the
tag, and the two halves of the key.
-/
import Lxmf.Identity
import Lxmf.Library.Except

namespace Lxmf.Reticulum

variable {C : Crypto}

-- ============================================================== fernet

/-- The length of a token for a text. -/
def tokenLength (length : Nat) : Nat :=
  ivSize + paddedLength length + hmacSize

variable (f : Fernet)

/-- The token of a text. -/
def Fernet.token (C : Crypto) (iv : Block) (text : Bytes) : Bytes :=
  (iv.toList ++ (C.cbcEncrypt f.encKey iv text).toList)
    ++ (C.hmac f.signKey
        (iv.toList ++ (C.cbcEncrypt f.encKey iv text).toList)).toList

variable {f}

/-- A token is a vector, the padded text and a tag. -/
theorem length_token (iv : Block) (text : Bytes) :
    (f.token C iv text).length = tokenLength text.length := by
  unfold Fernet.token tokenLength
  simp only [List.length_append, List.Vector.toList_length]

theorem paddedLength_pos (length : Nat) : 0 < paddedLength length :=
  Nat.mul_pos (by decide) (Nat.succ_pos _)

/-- With room for its token a text is encrypted; with less, but more than
the overhead, encrypting panics. -/
theorem encrypt_of_fits {iv : Block} {text : Bytes} {room : Nat}
    (h : tokenLength text.length ≤ room) :
    f.encrypt C iv text room = .ok (f.token C iv text) := by
  have hpositive := paddedLength_pos text.length
  unfold tokenLength at h
  unfold Fernet.encrypt
  rw [if_neg (by unfold fernetOverhead; omega)]
  simp only [List.Vector.toList_length]
  rw [if_neg (by omega), if_neg (by omega)]
  rfl

theorem encrypt_of_lt {iv : Block} {text : Bytes} {room : Nat}
    (hroom : fernetOverhead < room) (h : room < tokenLength text.length) :
    f.encrypt C iv text room = .error .panic := by
  unfold tokenLength at h
  unfold Fernet.encrypt
  rw [if_neg (by omega)]
  simp only [List.Vector.toList_length]
  split
  case isTrue => rfl
  case isFalse => rfl

theorem overhead_lt_token (iv : Block) (text : Bytes) :
    fernetOverhead < (f.token C iv text).length := by
  have hpositive := paddedLength_pos text.length
  rw [length_token]
  unfold tokenLength fernetOverhead
  omega

/-- A token without its tag. -/
theorem take_token (iv : Block) (text : Bytes) :
    (f.token C iv text).take ((f.token C iv text).length - hmacSize)
      = iv.toList ++ (C.cbcEncrypt f.encKey iv text).toList := by
  have hlength := length_token (C := C) (f := f) iv text
  have hiv : ivSize = blockSize := rfl
  refine List.take_left' ?_
  rw [hlength, List.length_append, List.Vector.toList_length,
    List.Vector.toList_length]
  unfold tokenLength
  omega

/-- A token verifies, and tells its vector. -/
theorem verify_token (iv : Block) (text : Bytes) :
    f.verify C (f.token C iv text) = .ok (f.token C iv text) := by
  have hlength := length_token (C := C) (f := f) iv text
  have hiv : ivSize = blockSize := rfl
  unfold Fernet.verify
  rw [if_neg (Nat.not_le.mpr (overhead_lt_token iv text)), take_token]
  refine if_pos ?_
  refine List.drop_left' ?_
  rw [hlength, List.length_append, List.Vector.toList_length,
    List.Vector.toList_length]
  unfold tokenLength
  omega

theorem tokenIv_token (iv : Block) (text : Bytes) :
    tokenIv (f.token C iv text) = iv := by
  have hlength := overhead_lt_token (C := C) (f := f) iv text
  have hiv : ivSize = blockSize := rfl
  apply Subtype.ext
  show (tokenIv (f.token C iv text)).toList = iv.toList
  unfold tokenIv
  rw [Cbc.toList_block 0 (by unfold fernetOverhead at hlength; omega)]
  unfold Fernet.token
  rw [List.append_assoc]
  exact List.take_left' iv.toList_length

/-- It is decrypted where its padded text has room. -/
theorem decrypt_token (hC : DecryptsTexts C) {iv : Block} {text : Bytes}
    {room : Nat} (hroom : paddedLength text.length ≤ room) :
    f.decrypt C (f.token C iv text) room = .ok text := by
  unfold Fernet.decrypt
  rw [if_neg (Nat.not_le.mpr (overhead_lt_token iv text)), take_token,
    tokenIv_token]
  simp only [List.drop_left' iv.toList_length, List.Vector.toList_length]
  rw [if_neg (Nat.not_lt.mpr hroom), hC]

-- ======================================================= derived keys

/-- The two halves of a derived key. -/
def DerivedKey.fernet (key : DerivedKey) : Fernet where
  signKey := ⟨key.toList.take aesKeySize, by
    rw [List.length_take, key.toList_length]
    rfl⟩
  encKey := ⟨key.toList.drop aesKeySize, by
    rw [List.length_drop, key.toList_length]
    rfl⟩

/-- A key of the right length is copied whole. -/
theorem copyKey_toList (key : FixedBytes aesKeySize) :
    copyKey key.toList = .ok key := by
  unfold copyKey
  rw [dif_pos (by rw [key.toList_length])]
  congr 1
  apply Subtype.ext
  show key.toList ++ List.replicate _ 0 = key.toList
  rw [key.toList_length, Nat.sub_self, List.replicate_zero,
    List.append_nil]

/-- So the halves of a derived key make a `Fernet`. -/
theorem newFromSlices_halves (key : DerivedKey) :
    Fernet.newFromSlices (key.toList.take (derivedKeyLength / 2))
        (key.toList.drop (derivedKeyLength / 2))
      = .ok key.fernet := by
  show Fernet.newFromSlices key.fernet.signKey.toList
    key.fernet.encKey.toList = _
  unfold Fernet.newFromSlices
  rw [copyKey_toList, copyKey_toList]
  rfl

/-- The longest text whose token fits the data of a packet. -/
def linkPayloadMax : Nat := 1999

/-- Where a token fits a packet. -/
theorem tokenLength_le_packet {length : Nat} :
    tokenLength length ≤ packetMdu ↔ length ≤ linkPayloadMax := by
  unfold tokenLength paddedLength linkPayloadMax
  show 16 + 16 * (length / 16 + 1) + 32 ≤ 2048 ↔ _
  omega

theorem encryptWithKey_eq (key : DerivedKey) (iv : Block) (text : Bytes)
    (room : Nat) :
    encryptWithKey C key iv text room = key.fernet.encrypt C iv text room := by
  unfold encryptWithKey
  rw [newFromSlices_halves]
  rfl

/-- A text is encrypted for a packet, or is too long and panics. -/
theorem encryptWithKey_packet (key : DerivedKey) (iv : Block)
    (text : Bytes) :
    encryptWithKey C key iv text packetMdu
      = if text.length ≤ linkPayloadMax then
          .ok (key.fernet.token C iv text)
        else .error .panic := by
  rw [encryptWithKey_eq]
  split
  case isTrue h => exact encrypt_of_fits (tokenLength_le_packet.mpr h)
  case isFalse h =>
    refine encrypt_of_lt (by decide) (Nat.not_le.mp fun hle => h ?_)
    exact tokenLength_le_packet.mp hle

theorem decryptWithKey_eq {key : DerivedKey} {data : Bytes} {room : Nat}
    (h : publicKeyLength < data.length) :
    decryptWithKey C key data room
      = key.fernet.verify C data >>= fun token =>
          key.fernet.decrypt C token room := by
  unfold decryptWithKey
  rw [if_neg (Nat.not_le.mpr h), newFromSlices_halves]
  rfl

/-- The end of the round trip. -/
theorem decryptWithKey_token (hC : DecryptsTexts C) {key : DerivedKey}
    {iv : Block} {text : Bytes} (h : text.length ≤ linkPayloadMax) :
    decryptWithKey C key (key.fernet.token C iv text) packetMdu
      = .ok text := by
  have hlength := overhead_lt_token (C := C) (f := key.fernet) iv text
  have hfits := tokenLength_le_packet.mpr h
  have hkey : publicKeyLength < fernetOverhead := by decide
  unfold tokenLength at hfits
  rw [decryptWithKey_eq (by omega), verify_token, Except.ok_bind,
    decrypt_token hC (by omega)]

end Lxmf.Reticulum
