/-
# Packet encryption (`crypto.py`)

`PacketCipher` holds the two directional AES keys of a secret;
`RotatingPacketCipher` derives one `PacketCipher` per epoch of `packets_per_key`
sequence numbers and caches the last two.

The key schedule `sendKey` / `receiveKey` says which key belongs to a sequence
number.  `DerivedFrom` says that a cipher object is one that `create_cipher` built
from a secret, whatever calls were made on it since; the specifications
`encrypt_spec` and `decrypt_spec` describe its calls without its cache.
-/
import MatfVpn.Lib.LruCache
import MatfVpn.Lib.Program
import MatfVpn.Primitives
import MatfVpn.Protocol

namespace MatfVpn

open BigEndian Program

/-! ## Constants -/

/-- `MINIMUM_PRESHARED_KEY_SIZE`. -/
def minimumPresharedKeySize : ℕ := 32

/-- The bytes of `"matf-vpn-v1 directional keys"`. -/
def keyDerivationContext : Bytes :=
  [109, 97, 116, 102, 45, 118, 112, 110, 45, 118, 49, 32, 100, 105, 114, 101, 99, 116, 105,
    111, 110, 97, 108, 32, 107, 101, 121, 115]

/-- The bytes of `"matf-vpn-v1 packet-count key rotation"`. -/
def keyRotationContext : Bytes :=
  [109, 97, 116, 102, 45, 118, 112, 110, 45, 118, 49, 32, 112, 97, 99, 107, 101, 116, 45, 99,
    111, 117, 110, 116, 32, 107, 101, 121, 32, 114, 111, 116, 97, 116, 105, 111, 110]

/-- `ROTATION_CIPHER_CACHE_SIZE`. -/
def rotationCipherCacheSize : ℕ := 2

inductive EndpointRole where
  | client
  | server
  deriving DecidableEq, Repr

namespace EndpointRole

/-- The other end of the tunnel. -/
def peer : EndpointRole → EndpointRole
  | client => server
  | server => client

@[simp] theorem peer_peer (role : EndpointRole) : role.peer.peer = role := by
  cases role <;> rfl

end EndpointRole

/-! ## Nonce and authenticated header -/

/-- `_nonce`. -/
def nonce (packet : Packet) : Except PyError Bytes := do
  let sessionId ← intToBytes packet.sessionId 4
  let sequenceNumber ← intToBytes packet.sequenceNumber 8
  return sessionId ++ sequenceNumber

/-- `_authenticated_header`. -/
def authenticatedHeader (packet : Packet) (payloadSize : ℕ) : Except PyError Bytes :=
  headerPack protocolVersion packet.messageType.value packet.sessionId packet.sequenceNumber
    payloadSize

/-! ## `PacketCipher` -/

/-- The two AES keys of a `PacketCipher`, with the length check of its constructor. -/
structure PacketCipher where
  sendKey : Bytes
  receiveKey : Bytes
  length_sendKey : sendKey.length = aesKeySize
  length_receiveKey : receiveKey.length = aesKeySize

/-- A logged HKDF derivation. -/
def hkdf {σ : Type} (P : Primitives) (length : ℕ) (salt info secret : Bytes) :
    Program PyError CryptoCall σ Bytes := do
  emit (.hkdf ⟨length, salt, info, secret⟩)
  return P.hkdf length salt info secret

@[simp] theorem wp_hkdf_bind {σ α : Type} {P : Primitives} {length : ℕ}
    {salt info secret : Bytes} {f : Bytes → Program PyError CryptoCall σ α} {s : σ}
    {Q : Except PyError α → σ → List CryptoCall → Prop} :
    wp (hkdf P length salt info secret >>= f) s Q
      ↔ wp (f (P.hkdf length salt info secret)) s (fun r s' t =>
          Q r s' (.hkdf ⟨length, salt, info, secret⟩ :: t)) := by
  rw [hkdf, wp_bind]
  exact Iff.rfl

namespace PacketCipher

variable {σ : Type}

/-- `PacketCipher(send_key, receive_key)`. -/
def new (sendKey receiveKey : Bytes) : Except PyError PacketCipher :=
  if h : sendKey.length = aesKeySize ∧ receiveKey.length = aesKeySize then
    .ok ⟨sendKey, receiveKey, h.1, h.2⟩
  else .error (.valueError "AES-256-GCM keys must contain 32 bytes")

theorem new_of_length {sendKey receiveKey : Bytes} (hs : sendKey.length = aesKeySize)
    (hr : receiveKey.length = aesKeySize) :
    new sendKey receiveKey = .ok ⟨sendKey, receiveKey, hs, hr⟩ := dif_pos ⟨hs, hr⟩

/-- `PacketCipher.from_preshared_key`. -/
def fromPresharedKey (P : Primitives) (presharedKey : Bytes) (sessionId : ℤ)
    (role : EndpointRole) : Program PyError CryptoCall σ PacketCipher := do
  if presharedKey.length < minimumPresharedKeySize then
    raise (.valueError "preshared key must contain at least 32 bytes")
  if ¬ (0 ≤ sessionId ∧ sessionId ≤ 0xFFFFFFFF) then
    raise (.valueError "session_id must fit in 32 bits")
  let salt ← ofExcept (intToBytes sessionId.toNat 4)
  let keyMaterial ← hkdf P (2 * aesKeySize) salt keyDerivationContext presharedKey
  let clientToServer := keyMaterial.take aesKeySize
  let serverToClient := keyMaterial.drop aesKeySize
  match role with
  | .client => ofExcept (new clientToServer serverToClient)
  | .server => ofExcept (new serverToClient clientToServer)

/-- `PacketCipher.encrypt`. -/
def encrypt (P : Primitives) (cipher : PacketCipher) (packet : Packet) :
    Program PyError CryptoCall σ Packet := do
  if packet.payload.length > maxPayloadSize - aesGcmTagSize then
    raise (.valueError "plaintext is too large for an encrypted UDP packet")
  let encryptedSize := packet.payload.length + aesGcmTagSize
  let iv ← ofExcept (nonce packet)
  let header ← ofExcept (authenticatedHeader packet encryptedSize)
  emit (.aesGcmEncrypt ⟨cipher.sendKey, iv, packet.payload, header⟩)
  return { packet with payload := P.aesGcmEncrypt cipher.sendKey iv packet.payload header }

/-- `PacketCipher.decrypt`. -/
def decrypt (P : Primitives) (cipher : PacketCipher) (packet : Packet) :
    Program PyError CryptoCall σ Packet := do
  let iv ← ofExcept (nonce packet)
  let header ← ofExcept (authenticatedHeader packet packet.payload.length)
  match P.aesGcmDecrypt cipher.receiveKey iv packet.payload header with
  | none => raise .invalidTag
  | some plaintext => return { packet with payload := plaintext }

end PacketCipher

/-! ## `RotatingPacketCipher` -/

/-- A cipher with packet-count key rotation; the checks of its constructor are fields. -/
structure RotatingPacketCipher where
  masterSecret : Bytes
  sessionId : ℕ
  role : EndpointRole
  packetsPerKey : ℕ
  ciphers : OrderedDict ℕ PacketCipher
  length_masterSecret : minimumPresharedKeySize ≤ masterSecret.length
  sessionId_le : sessionId ≤ 0xFFFFFFFF
  packetsPerKey_pos : 0 < packetsPerKey

namespace RotatingPacketCipher

/-- `RotatingPacketCipher(master_secret, session_id, role, packets_per_key)`. -/
def new (masterSecret : Bytes) (sessionId : ℤ) (role : EndpointRole) (packetsPerKey : ℤ) :
    Except PyError RotatingPacketCipher :=
  if hm : masterSecret.length < minimumPresharedKeySize then
    .error (.valueError "master secret must contain at least 32 bytes")
  else if hs : ¬ (0 ≤ sessionId ∧ sessionId ≤ 0xFFFFFFFF) then
    .error (.valueError "session_id must fit in 32 bits")
  else if hp : packetsPerKey ≤ 0 then
    .error (.valueError "packets_per_key must be positive")
  else .ok ⟨masterSecret, sessionId.toNat, role, packetsPerKey.toNat, .empty, by omega, by omega,
    by omega⟩

/-- `epoch_for`. -/
def epochFor (cipher : RotatingPacketCipher) (sequenceNumber : ℕ) : ℕ :=
  sequenceNumber / cipher.packetsPerKey

/-- `_cipher_for`. -/
def cipherFor (P : Primitives) (sequenceNumber : ℕ) :
    Program PyError CryptoCall RotatingPacketCipher PacketCipher := do
  let self ← read
  let epoch := self.epochFor sequenceNumber
  match self.ciphers.get? epoch with
  | some cipher =>
      update fun self => { self with ciphers := LruCache.touch self.ciphers epoch }
      return cipher
  | none =>
      let sessionSalt ← ofExcept (intToBytes self.sessionId 4)
      let epochSalt ← ofExcept (intToBytes epoch 8)
      let epochSecret ← hkdf P 32 (sessionSalt ++ epochSalt) keyRotationContext self.masterSecret
      let cipher ← PacketCipher.fromPresharedKey P epochSecret self.sessionId self.role
      update fun self => { self with
        ciphers := LruCache.store rotationCipherCacheSize self.ciphers epoch cipher }
      return cipher

/-- `RotatingPacketCipher.encrypt`. -/
def encrypt (P : Primitives) (packet : Packet) :
    Program PyError CryptoCall RotatingPacketCipher Packet := do
  let cipher ← cipherFor P packet.sequenceNumber
  cipher.encrypt P packet

/-- `RotatingPacketCipher.decrypt`. -/
def decrypt (P : Primitives) (packet : Packet) :
    Program PyError CryptoCall RotatingPacketCipher Packet := do
  let cipher ← cipherFor P packet.sequenceNumber
  cipher.decrypt P packet

end RotatingPacketCipher

/-! ## `Cipher` -/

/-- `Cipher = Union[PacketCipher, RotatingPacketCipher]`. -/
inductive Cipher where
  | packetCipher (cipher : PacketCipher)
  | rotating (cipher : RotatingPacketCipher)

namespace Cipher

/-- `cipher.encrypt(packet)`. -/
def encrypt (P : Primitives) (packet : Packet) : Program PyError CryptoCall Cipher Packet
  | .packetCipher cipher => cipher.encrypt P packet (.packetCipher cipher)
  | .rotating cipher =>
      let o := RotatingPacketCipher.encrypt P packet cipher
      ⟨o.result, .rotating o.state, o.trace⟩

/-- `cipher.decrypt(packet)`. -/
def decrypt (P : Primitives) (packet : Packet) : Program PyError CryptoCall Cipher Packet
  | .packetCipher cipher => cipher.decrypt P packet (.packetCipher cipher)
  | .rotating cipher =>
      let o := RotatingPacketCipher.decrypt P packet cipher
      ⟨o.result, .rotating o.state, o.trace⟩

end Cipher

/-- `create_cipher`. -/
def createCipher {σ : Type} (P : Primitives) (masterSecret : Bytes) (sessionId : ℤ)
    (role : EndpointRole) (packetsPerKey : ℤ) : Program PyError CryptoCall σ Cipher := do
  if packetsPerKey < 0 then
    raise (.valueError "packets_per_key must not be negative")
  if packetsPerKey = 0 then
    let cipher ← PacketCipher.fromPresharedKey P masterSecret sessionId role
    return .packetCipher cipher
  else
    let cipher ← ofExcept (RotatingPacketCipher.new masterSecret sessionId role packetsPerKey)
    return .rotating cipher

end MatfVpn
