/-
# A concrete instance of the primitives

Small functions with the laws of the cryptography package, to run the model on: a
polynomial hash for HKDF, HMAC and SHA-256, a tag appended to the plaintext for
AES-GCM, and multiplication modulo a power of two for X25519.  They satisfy the laws
and hide nothing.

* `sample_lawfulAead`, `sample_lawfulHkdf`, `sample_lawfulHmac`, `sample_lawfulX25519`.
-/
import MatfVpn.Primitives
import Mathlib.Tactic.Ring

namespace MatfVpn

open BigEndian

/-- The multiplier of the hash. -/
def sampleMultiplier : ℕ :=
  0x9E3779B97F4A7C15F39CC0605CEDC8341082276BF3A27251F86C6A11D0C18E95

/-- A hash of a list of byte strings to `width` bytes. -/
def sampleHash (width : ℕ) (parts : List Bytes) : Bytes :=
  toBytes width (parts.foldl (fun acc part =>
    part.foldl (fun acc byte => (acc * sampleMultiplier + byte.toNat + 1) % 2 ^ 512)
      ((acc + part.length + 7) * sampleMultiplier % 2 ^ 512)) 1 / 2 ^ 128 % 256 ^ width)

@[simp] theorem length_sampleHash (width : ℕ) (parts : List Bytes) :
    (sampleHash width parts).length = width := length_toBytes _ _

/-- The base of the sample key exchange. -/
def sampleBase : ℕ := 0xB7E151628AED2A6ABF7158809CF4F3C762E7160F38B4DA56A784D9045190CFEF

/-- The sample primitives. -/
def sample : Primitives where
  aesGcmEncrypt key nonce plaintext header :=
    plaintext ++ sampleHash aesGcmTagSize [key, nonce, plaintext, header]
  aesGcmDecrypt key nonce ciphertext header :=
    let plaintext := ciphertext.take (ciphertext.length - aesGcmTagSize)
    if ciphertext = plaintext ++ sampleHash aesGcmTagSize [key, nonce, plaintext, header] then
      some plaintext
    else none
  hkdf length salt info secret := sampleHash length [salt, info, secret]
  hmacSha256 key message := sampleHash 32 [key, message]
  sha256 message := sampleHash 32 [message]
  x25519Public privateKey := toBytes 32 (sampleBase * fromBytes privateKey % 256 ^ 32)
  x25519Exchange privateKey peerPublicKey :=
    some (toBytes 32 (fromBytes privateKey * fromBytes peerPublicKey % 256 ^ 32))

theorem sample_lawfulAead : sample.LawfulAead where
  length_encrypt key nonce plaintext header := by simp [sample]
  decrypt_iff key nonce ciphertext header plaintext := by
    simp only [sample]
    constructor
    · intro h
      split at h
      · rename_i heq
        rw [← Option.some.inj h]
        exact heq
      · cases h
    · intro h
      have htake : ciphertext.take (ciphertext.length - aesGcmTagSize) = plaintext := by
        rw [h, List.length_append, length_sampleHash, Nat.add_sub_cancel, List.take_left]
      rw [htake, if_pos h]

theorem sample_lawfulHkdf : sample.LawfulHkdf where
  length_hkdf _ _ _ _ := length_sampleHash _ _

theorem sample_lawfulHmac : sample.LawfulHmac where
  length_hmac _ _ := length_sampleHash _ _

theorem sample_lawfulX25519 : sample.LawfulX25519 where
  length_public _ := length_toBytes _ _
  exchange_comm a b := by
    simp only [sample, fromBytes_toBytes, Nat.mod_mod, Nat.mul_mod_mod]
    congr 3
    ring

end MatfVpn
