/-
# The cryptography package

The functions that the code calls in `cryptography`, `hashlib` and `hmac`, as a
parameter of the model, and the documented behaviour that results rely on.  Nothing
here says what AES-GCM or X25519 compute.
-/
import MatfVpn.Python

namespace MatfVpn

/-- `AES_KEY_SIZE`. -/
def aesKeySize : ℕ := 32

/-- `AES_GCM_TAG_SIZE`. -/
def aesGcmTagSize : ℕ := 16

/-- `X25519_KEY_SIZE`. -/
def x25519KeySize : ℕ := 32

/-- The cryptographic functions the code calls. -/
structure Primitives where
  /-- `AESGCM(key).encrypt(nonce, plaintext, header)`. -/
  aesGcmEncrypt : (key nonce plaintext header : Bytes) → Bytes
  /-- `AESGCM(key).decrypt(nonce, ciphertext, header)`, with `none` for `InvalidTag`. -/
  aesGcmDecrypt : (key nonce ciphertext header : Bytes) → Option Bytes
  /-- `HKDF(SHA256, length, salt, info).derive(secret)`. -/
  hkdf : (length : ℕ) → (salt info secret : Bytes) → Bytes
  /-- `hmac.new(key, message, sha256).digest()`. -/
  hmacSha256 : (key message : Bytes) → Bytes
  /-- `hashlib.sha256(message).digest()`. -/
  sha256 : (message : Bytes) → Bytes
  /-- The public key of an X25519 private key. -/
  x25519Public : (privateKey : Bytes) → Bytes
  /-- `X25519PrivateKey.exchange`, with `none` for the `ValueError` of a zero result. -/
  x25519Exchange : (privateKey peerPublicKey : Bytes) → Option Bytes

namespace Primitives

/-- Ideal AES-GCM: decryption accepts exactly the encryptions under the same key,
nonce and header, and the tag adds 16 bytes. -/
structure LawfulAead (P : Primitives) : Prop where
  length_encrypt : ∀ key nonce plaintext header,
    (P.aesGcmEncrypt key nonce plaintext header).length = plaintext.length + aesGcmTagSize
  decrypt_iff : ∀ key nonce ciphertext header plaintext,
    P.aesGcmDecrypt key nonce ciphertext header = some plaintext
      ↔ ciphertext = P.aesGcmEncrypt key nonce plaintext header

/-- HKDF returns as many bytes as asked for. -/
structure LawfulHkdf (P : Primitives) : Prop where
  length_hkdf : ∀ length salt info secret, (P.hkdf length salt info secret).length = length

/-- HMAC-SHA256 tags have 32 bytes. -/
structure LawfulHmac (P : Primitives) : Prop where
  length_hmac : ∀ key message, (P.hmacSha256 key message).length = 32

/-- X25519 keys have 32 bytes, and both sides of an exchange get the same result. -/
structure LawfulX25519 (P : Primitives) : Prop where
  length_public : ∀ privateKey, (P.x25519Public privateKey).length = x25519KeySize
  exchange_comm : ∀ a b,
    P.x25519Exchange a (P.x25519Public b) = P.x25519Exchange b (P.x25519Public a)

end Primitives

/-! ## The log of the calls -/

/-- The arguments of one `AESGCM.encrypt` call. -/
structure AesCall where
  key : Bytes
  nonce : Bytes
  plaintext : Bytes
  header : Bytes
  deriving DecidableEq, Repr

/-- The arguments of one HKDF derivation. -/
structure HkdfCall where
  length : ℕ
  salt : Bytes
  info : Bytes
  secret : Bytes
  deriving DecidableEq, Repr

/-- A logged call into the cryptography package. -/
inductive CryptoCall where
  | aesGcmEncrypt (call : AesCall)
  | hkdf (call : HkdfCall)
  deriving DecidableEq, Repr

namespace CryptoCall

/-- The AES-GCM encryption that a call makes. -/
def aes? : CryptoCall → Option AesCall
  | aesGcmEncrypt call => some call
  | hkdf _ => none

/-- The HKDF derivation that a call makes. -/
def hkdf? : CryptoCall → Option HkdfCall
  | aesGcmEncrypt _ => none
  | hkdf call => some call

end CryptoCall

end MatfVpn
