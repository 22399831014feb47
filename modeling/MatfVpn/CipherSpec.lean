/-
# The key schedule and the ciphers built from it

What the cipher objects compute, without their caches.  `sendKey` is the AES key that
an endpoint encrypts a sequence number with; a cipher `DerivedFrom` a secret uses these
keys after any sequence of calls.

* `createCipher_spec` : `create_cipher` builds a cipher derived from its secret;
* `encrypt_spec`, `decrypt_spec` : the calls of a derived cipher depend on the packet
  only, and leave a derived cipher.
-/
import MatfVpn.Crypto

namespace MatfVpn

open BigEndian Program

/-! ## The key schedule -/

/-- The secret that the directional keys of a sequence number come from: the master
secret, or the secret of its epoch when keys rotate. -/
def epochSecret (P : Primitives) (secret : Bytes) (sessionId packetsPerKey sequenceNumber : ℕ) :
    Bytes :=
  if packetsPerKey = 0 then secret
  else P.hkdf 32 (toBytes 4 sessionId ++ toBytes 8 (sequenceNumber / packetsPerKey))
    keyRotationContext secret

/-- The AES key that the endpoint in `role` encrypts with. -/
def directionalKey (P : Primitives) (secret : Bytes) (sessionId : ℕ) : EndpointRole → Bytes
  | .client =>
      (P.hkdf (2 * aesKeySize) (toBytes 4 sessionId) keyDerivationContext secret).take aesKeySize
  | .server =>
      (P.hkdf (2 * aesKeySize) (toBytes 4 sessionId) keyDerivationContext secret).drop aesKeySize

/-- The AES key that the endpoint in `role` encrypts the given sequence number with. -/
def sendKey (P : Primitives) (secret : Bytes) (sessionId : ℕ) (role : EndpointRole)
    (packetsPerKey sequenceNumber : ℕ) : Bytes :=
  directionalKey P (epochSecret P secret sessionId packetsPerKey sequenceNumber) sessionId role

/-- The bytes of the nonce of a packet with header fields in range. -/
def nonceBytes (packet : Packet) : Bytes :=
  toBytes 4 packet.sessionId ++ toBytes 8 packet.sequenceNumber

/-- The bytes of the authenticated header of a packet with header fields in range. -/
def headerBytes (packet : Packet) (payloadSize : ℕ) : Bytes :=
  toBytes 1 protocolVersion ++ (toBytes 1 packet.messageType.value ++
    (toBytes 4 packet.sessionId ++ (toBytes 8 packet.sequenceNumber ++ toBytes 2 payloadSize)))

/-- The header fields of a packet are in range. -/
def Packet.HeaderInRange (packet : Packet) : Prop :=
  packet.sessionId < 2 ^ 32 ∧ packet.sequenceNumber < 2 ^ 64

theorem nonce_of_inRange {packet : Packet} (h : packet.HeaderInRange) :
    nonce packet = .ok (nonceBytes packet) := by
  have hs : packet.sessionId < 256 ^ 4 := by have := h.1; omega
  have hn : packet.sequenceNumber < 256 ^ 8 := by have := h.2; omega
  rw [nonce, intToBytes_of_lt hs, intToBytes_of_lt hn]
  rfl

theorem authenticatedHeader_of_inRange {packet : Packet} (h : packet.HeaderInRange) {size : ℕ}
    (hsize : size < 2 ^ 16) : authenticatedHeader packet size = .ok (headerBytes packet size) :=
  headerPack_of_inRange (by decide) packet.messageType.value_lt h.1 h.2 hsize

/-- Packets with the same nonce have the same session and sequence number. -/
theorem nonceBytes_inj {p q : Packet} (hp : p.HeaderInRange) (hq : q.HeaderInRange)
    (h : nonceBytes p = nonceBytes q) :
    p.sessionId = q.sessionId ∧ p.sequenceNumber = q.sequenceNumber := by
  obtain ⟨h1, h2⟩ := List.append_inj h (by simp)
  have hs : p.sessionId < 256 ^ 4 ∧ q.sessionId < 256 ^ 4 := by
    have := hp.1; have := hq.1; omega
  have hn : p.sequenceNumber < 256 ^ 8 ∧ q.sequenceNumber < 256 ^ 8 := by
    have := hp.2; have := hq.2; omega
  exact ⟨toBytes_inj hs.1 hs.2 h1, toBytes_inj hn.1 hn.2 h2⟩

/-- Packets with the same authenticated header have the same header fields. -/
theorem headerBytes_inj {p q : Packet} {m n : ℕ} (hp : p.HeaderInRange) (hq : q.HeaderInRange)
    (hm : m < 2 ^ 16) (hn : n < 2 ^ 16) (h : headerBytes p m = headerBytes q n) :
    p.messageType = q.messageType ∧ p.sessionId = q.sessionId ∧
      p.sequenceNumber = q.sequenceNumber ∧ m = n := by
  have h1 := authenticatedHeader_of_inRange hp hm
  have h2 := authenticatedHeader_of_inRange hq hn
  rw [← h] at h2
  obtain ⟨-, ht, hs, hsn, hmn⟩ := headerPack_inj h1 h2
  refine ⟨?_, hs, hsn, hmn⟩
  have hv := congrArg MessageType.ofValue? ht
  simpa using hv

/-! ## Encrypted packets -/

/-- The AES-GCM call that encrypts a packet under the key schedule. -/
def sealCall (P : Primitives) (secret : Bytes) (sessionId : ℕ) (role : EndpointRole)
    (packetsPerKey : ℕ) (packet : Packet) : AesCall where
  key := sendKey P secret sessionId role packetsPerKey packet.sequenceNumber
  nonce := nonceBytes packet
  plaintext := packet.payload
  header := headerBytes packet (packet.payload.length + aesGcmTagSize)

/-- An AES-GCM call determines the packet it encrypts. -/
theorem sealCall_inj {P : Primitives} {secret : Bytes} {sessionId packetsPerKey : ℕ}
    {role : EndpointRole} {p q : Packet} (hp : p.HeaderInRange) (hq : q.HeaderInRange)
    (hsize : p.payload.length + aesGcmTagSize < 2 ^ 16)
    (h : sealCall P secret sessionId role packetsPerKey p
      = sealCall P secret sessionId role packetsPerKey q) : p = q := by
  have hpayload : p.payload = q.payload := congrArg AesCall.plaintext h
  have hheader : headerBytes p (p.payload.length + aesGcmTagSize)
      = headerBytes q (q.payload.length + aesGcmTagSize) := congrArg AesCall.header h
  obtain ⟨ht, hs, hn, -⟩ := headerBytes_inj hp hq hsize (hpayload ▸ hsize) hheader
  cases p
  cases q
  rw [Packet.mk.injEq]
  exact ⟨ht, hs, hn, hpayload⟩

/-- The ciphertext of an AES-GCM call. -/
def AesCall.ciphertext (P : Primitives) (call : AesCall) : Bytes :=
  P.aesGcmEncrypt call.key call.nonce call.plaintext call.header

/-- The encrypted packet. -/
def sealPacket (P : Primitives) (secret : Bytes) (sessionId : ℕ) (role : EndpointRole)
    (packetsPerKey : ℕ) (packet : Packet) : Packet :=
  { packet with
    payload := (sealCall P secret sessionId role packetsPerKey packet).ciphertext P }

/-- The plaintext of a packet encrypted by the endpoint in `role`, if it authenticates. -/
def openPayload (P : Primitives) (secret : Bytes) (sessionId : ℕ) (role : EndpointRole)
    (packetsPerKey : ℕ) (packet : Packet) : Option Bytes :=
  P.aesGcmDecrypt (sendKey P secret sessionId role packetsPerKey packet.sequenceNumber)
    (nonceBytes packet) packet.payload (headerBytes packet packet.payload.length)

/-- The packet with its plaintext that a datagram authenticates as, if it was encrypted by
the end in `role`. -/
def openDatagram (P : Primitives) (secret : Bytes) (sessionId : ℕ) (role : EndpointRole)
    (packetsPerKey : ℕ) (data : Bytes) : Option Packet :=
  (Packet.decode data).toOption.bind fun packet =>
    (openPayload P secret sessionId role packetsPerKey packet).map fun plaintext =>
      { packet with payload := plaintext }

/-- The AES-GCM encryptions in a log. -/
def aesCalls (log : List CryptoCall) : List AesCall := log.filterMap CryptoCall.aes?

@[simp] theorem aesCalls_append (s t : List CryptoCall) :
    aesCalls (s ++ t) = aesCalls s ++ aesCalls t := List.filterMap_append

@[simp] theorem aesCalls_nil : aesCalls [] = [] := rfl

@[simp] theorem aesCalls_hkdf (call : HkdfCall) (t : List CryptoCall) :
    aesCalls (.hkdf call :: t) = aesCalls t := rfl

@[simp] theorem aesCalls_aes (call : AesCall) (t : List CryptoCall) :
    aesCalls (.aesGcmEncrypt call :: t) = call :: aesCalls t := rfl

/-- **Opening undoes sealing.** With ideal AES-GCM a packet that opens is the sealing of
the packet with its plaintext. -/
theorem openPayload_eq_some_iff {P : Primitives} (hP : P.LawfulAead) {secret : Bytes}
    {sessionId : ℕ} {role : EndpointRole} {packetsPerKey : ℕ} {packet : Packet}
    {plaintext : Bytes} :
    openPayload P secret sessionId role packetsPerKey packet = some plaintext
      ↔ packet = sealPacket P secret sessionId role packetsPerKey
          { packet with payload := plaintext } := by
  unfold openPayload
  rw [hP.decrypt_iff]
  have hheader : ∀ size, headerBytes { packet with payload := plaintext } size
      = headerBytes packet size := fun _ => rfl
  constructor
  · intro h
    have hlen : packet.payload.length = plaintext.length + aesGcmTagSize := by
      rw [h, hP.length_encrypt]
    rw [sealPacket, sealCall, AesCall.ciphertext]
    simp only [hheader]
    rw [hlen] at h
    obtain ⟨t, s, n, payload⟩ := packet
    simp only at h
    rw [Packet.mk.injEq]
    exact ⟨rfl, rfl, rfl, h⟩
  · intro h
    have hpayload := congrArg Packet.payload h
    simp only [sealPacket, sealCall, AesCall.ciphertext, hheader] at hpayload
    have hlen : packet.payload.length = plaintext.length + aesGcmTagSize := by
      rw [hpayload, hP.length_encrypt]
    rw [hlen]
    exact hpayload

/-- A sealed packet whose plaintext fits can be encoded. -/
theorem encode_sealPacket {P : Primitives} (hA : P.LawfulAead) (secret : Bytes) (sessionId : ℕ)
    (role : EndpointRole) (packetsPerKey : ℕ) {plain : Packet} (hp : plain.HeaderInRange)
    (hsize : plain.payload.length ≤ maxPayloadSize - aesGcmTagSize) :
    ∃ data, (sealPacket P secret sessionId role packetsPerKey plain).encode = .ok data := by
  refine Packet.encode_of_encodable ⟨hp.1, hp.2, ?_⟩
  rw [sealPacket, AesCall.ciphertext, hA.length_encrypt]
  simp only [sealCall, maxPayloadSize, maxUdpDatagramSize, headerSize, aesGcmTagSize] at hsize ⊢
  omega

/-- The HKDF derivations in a log. -/
def hkdfCalls (log : List CryptoCall) : List HkdfCall := log.filterMap CryptoCall.hkdf?

@[simp] theorem hkdfCalls_append (s t : List CryptoCall) :
    hkdfCalls (s ++ t) = hkdfCalls s ++ hkdfCalls t := List.filterMap_append

@[simp] theorem hkdfCalls_nil : hkdfCalls [] = [] := rfl

@[simp] theorem hkdfCalls_hkdf (call : HkdfCall) (t : List CryptoCall) :
    hkdfCalls (.hkdf call :: t) = call :: hkdfCalls t := rfl

@[simp] theorem hkdfCalls_aes (call : AesCall) (t : List CryptoCall) :
    hkdfCalls (.aesGcmEncrypt call :: t) = hkdfCalls t := rfl

/-! ## Ciphers derived from a secret -/

/-- The derivation of the directional keys of a secret. -/
def directionalCall (secret : Bytes) (sessionId : ℕ) : HkdfCall :=
  ⟨2 * aesKeySize, toBytes 4 sessionId, keyDerivationContext, secret⟩

/-- The derivation of the secret of an epoch. -/
def epochCall (secret : Bytes) (sessionId epoch : ℕ) : HkdfCall :=
  ⟨32, toBytes 4 sessionId ++ toBytes 8 epoch, keyRotationContext, secret⟩

/-- The derivations behind the key of a sequence number. -/
def keyDerivations (P : Primitives) (secret : Bytes) (sessionId packetsPerKey sequenceNumber : ℕ) :
    List HkdfCall :=
  if packetsPerKey = 0 then [directionalCall secret sessionId]
  else [epochCall secret sessionId (sequenceNumber / packetsPerKey),
    directionalCall (epochSecret P secret sessionId packetsPerKey sequenceNumber) sessionId]

/-- The keys of a `PacketCipher` are the directional keys of a secret. -/
def PacketCipher.IsFor (P : Primitives) (cipher : PacketCipher) (secret : Bytes)
    (sessionId : ℕ) (role : EndpointRole) : Prop :=
  cipher.sendKey = directionalKey P secret sessionId role ∧
    cipher.receiveKey = directionalKey P secret sessionId role.peer

/-- A cipher that `create_cipher` built from a secret, after any calls on it; the HKDF
derivations behind the keys it holds are in `log`. -/
def Cipher.DerivedFrom (P : Primitives) (log : List HkdfCall) (secret : Bytes) (sessionId : ℕ)
    (role : EndpointRole) (packetsPerKey : ℕ) : Cipher → Prop
  | .packetCipher cipher =>
      packetsPerKey = 0 ∧ cipher.IsFor P secret sessionId role ∧
        directionalCall secret sessionId ∈ log
  | .rotating cipher =>
      cipher.masterSecret = secret ∧ cipher.sessionId = sessionId ∧ cipher.role = role ∧
        cipher.packetsPerKey = packetsPerKey ∧
        LruCache.Memo (fun epoch c => ∀ n, n / packetsPerKey = epoch →
          c.IsFor P (epochSecret P secret sessionId packetsPerKey n) sessionId role ∧
            ∀ call ∈ keyDerivations P secret sessionId packetsPerKey n, call ∈ log)
          cipher.ciphers

/-- A longer log holds the same derivations. -/
theorem Cipher.DerivedFrom.mono {P : Primitives} {log log' : List HkdfCall} {secret : Bytes}
    {sessionId packetsPerKey : ℕ} {role : EndpointRole} {cipher : Cipher}
    (h : cipher.DerivedFrom P log secret sessionId role packetsPerKey)
    (hlog : ∀ call ∈ log, call ∈ log') :
    cipher.DerivedFrom P log' secret sessionId role packetsPerKey := by
  cases cipher with
  | packetCipher cipher => exact ⟨h.1, h.2.1, hlog _ h.2.2⟩
  | rotating cipher =>
      obtain ⟨hm, hs, hr, hp, hmemo⟩ := h
      refine ⟨hm, hs, hr, hp, fun epoch c hget n hn => ?_⟩
      obtain ⟨hfor, hcalls⟩ := hmemo epoch c hget n hn
      exact ⟨hfor, fun call hcall => hlog call (hcalls call hcall)⟩

section specifications

variable {σ : Type} {P : Primitives} {secret : Bytes} {sessionId packetsPerKey : ℕ}
  {role : EndpointRole}

/-- `from_preshared_key` derives the directional keys. -/
theorem fromPresharedKey_spec (hP : P.LawfulHkdf) (hsecret : 32 ≤ secret.length)
    (hs : sessionId < 2 ^ 32) (s : σ) :
    wp (PacketCipher.fromPresharedKey P secret sessionId role) s (fun r s' t =>
      s' = s ∧ t = [.hkdf (directionalCall secret sessionId)] ∧
        ∃ c, r = .ok c ∧ c.IsFor P secret sessionId role) := by
  have hsalt : intToBytes ((sessionId : ℤ).toNat) 4 = .ok (toBytes 4 sessionId) := by
    rw [Int.toNat_natCast]
    exact intToBytes_of_lt (by omega)
  have hlen := hP.length_hkdf (2 * aesKeySize) (toBytes 4 sessionId) keyDerivationContext secret
  have htake : ((P.hkdf (2 * aesKeySize) (toBytes 4 sessionId) keyDerivationContext secret).take
      aesKeySize).length = aesKeySize := by
    rw [List.length_take, hlen]; decide
  have hdrop : ((P.hkdf (2 * aesKeySize) (toBytes 4 sessionId) keyDerivationContext secret).drop
      aesKeySize).length = aesKeySize := by
    rw [List.length_drop, hlen]; decide
  unfold PacketCipher.fromPresharedKey
  rw [if_neg (by simp only [minimumPresharedKeySize]; omega), if_neg (by omega), hsalt]
  simp only [ofExcept_ok, wp_pure_bind, wp_hkdf_bind]
  cases role with
  | client =>
      rw [PacketCipher.new_of_length htake hdrop]
      exact ⟨rfl, rfl, _, rfl, rfl, rfl⟩
  | server =>
      rw [PacketCipher.new_of_length hdrop htake]
      exact ⟨rfl, rfl, _, rfl, rfl, rfl⟩

/-- **`create_cipher` builds a cipher derived from its secret.** -/
theorem createCipher_spec (hP : P.LawfulHkdf) (hsecret : 32 ≤ secret.length)
    (hs : sessionId < 2 ^ 32) (role : EndpointRole) (packetsPerKey : ℕ) (s : σ) :
    wp (createCipher P secret sessionId role packetsPerKey) s (fun r s' t =>
      s' = s ∧ aesCalls t = [] ∧
        ∃ c, r = .ok c ∧ c.DerivedFrom P (hkdfCalls t) secret sessionId role packetsPerKey) := by
  unfold createCipher
  rw [if_neg (by omega)]
  split
  · rename_i hzero
    rw [wp_bind]
    refine wp_mono (fromPresharedKey_spec hP hsecret hs s) ?_
    rintro r s' t ⟨rfl, rfl, c, rfl, hc⟩
    exact ⟨rfl, rfl, _, rfl, by omega, hc, by simp⟩
  · rename_i hpos
    have hnew : ∃ h1 h2 h3, RotatingPacketCipher.new secret sessionId role packetsPerKey
        = .ok ⟨secret, sessionId, role, packetsPerKey, .empty, h1, h2, h3⟩ := by
      refine ⟨hsecret, by omega, by omega, ?_⟩
      unfold RotatingPacketCipher.new
      rw [dif_neg (by simp only [minimumPresharedKeySize]; omega), dif_neg (by omega),
        dif_neg (by omega)]
      simp
    obtain ⟨h1, h2, h3, hnew⟩ := hnew
    rw [hnew]
    exact ⟨rfl, rfl, _, rfl, rfl, rfl, rfl, rfl, LruCache.Memo.empty _⟩

/-- `create_cipher` returns only for secrets and session ids that pass its checks. -/
theorem createCipher_ok {σ : Type} {P : Primitives} {secret : Bytes}
    {sessionId packetsPerKey : ℕ} {role : EndpointRole} {s : σ} {c : Cipher}
    (h : (createCipher P secret sessionId role packetsPerKey s).result = .ok c) :
    32 ≤ secret.length ∧ sessionId < 2 ^ 32 := by
  have hwp : wp (createCipher P secret sessionId role packetsPerKey) s (fun r _ _ =>
      r = .ok c) := h
  by_contra hbad
  unfold createCipher at hwp
  rw [if_neg (by omega)] at hwp
  by_cases hzero : (packetsPerKey : ℤ) = 0
  · rw [if_pos hzero, wp_bind] at hwp
    unfold PacketCipher.fromPresharedKey at hwp
    by_cases hlen : secret.length < minimumPresharedKeySize
    · rw [if_pos hlen, wp_raise_bind] at hwp
      cases hwp
    · rw [if_neg hlen] at hwp
      simp only [minimumPresharedKeySize] at hlen
      rw [if_pos (by omega), wp_raise_bind] at hwp
      cases hwp
  · rw [if_neg hzero] at hwp
    have hnew : ∃ e, RotatingPacketCipher.new secret sessionId role packetsPerKey = .error e := by
      unfold RotatingPacketCipher.new
      by_cases hlen : secret.length < minimumPresharedKeySize
      · exact ⟨_, dif_pos hlen⟩
      · rw [dif_neg hlen]
        simp only [minimumPresharedKeySize] at hlen
        exact ⟨_, dif_pos (by omega)⟩
    obtain ⟨e, he⟩ := hnew
    rw [he, ofExcept_error, wp_raise_bind] at hwp
    cases hwp

/-- Nothing was encrypted. -/
def NoneEncrypted (_ : σ) (calls : List CryptoCall) : Prop := aesCalls calls = []

/-- `from_preshared_key` encrypts nothing. -/
theorem fromPresharedKey_encrypts_nothing (P : Primitives) (secret : Bytes) (sessionId : ℤ)
    (role : EndpointRole) :
    Preserves (NoneEncrypted : σ → List CryptoCall → Prop) NoneEncrypted
      (PacketCipher.fromPresharedKey P secret sessionId role) := by
  have hkeep : ∀ (s : σ) t, NoneEncrypted s t → NoneEncrypted s t := fun _ _ h => h
  have hhkdf : ∀ length salt info secret,
      Preserves (NoneEncrypted : σ → List CryptoCall → Prop) NoneEncrypted
        (hkdf P length salt info secret) := by
    intro length salt info secret
    refine Preserves.bind (Preserves.emit fun s t h => ?_) fun _ => Preserves.pure _
    rw [NoneEncrypted, aesCalls_append, h]
    rfl
  unfold PacketCipher.fromPresharedKey
  refine Preserves.ite _ (Preserves.raise_bind hkeep _ _) ?_
  refine Preserves.ite _ (Preserves.raise_bind hkeep _ _) ?_
  refine Preserves.bind (Preserves.ofExcept hkeep _) fun salt => ?_
  refine Preserves.bind (hhkdf _ _ _ _) fun keyMaterial => ?_
  cases role with
  | client => exact Preserves.ofExcept hkeep _
  | server => exact Preserves.ofExcept hkeep _

/-- `create_cipher` encrypts nothing, whether it returns or raises. -/
theorem createCipher_encrypts_nothing (P : Primitives) (secret : Bytes) (sessionId : ℤ)
    (role : EndpointRole) (packetsPerKey : ℤ) (s : σ) :
    aesCalls (createCipher P secret sessionId role packetsPerKey s).trace = [] := by
  have hkeep : ∀ (s : σ) t, NoneEncrypted s t → NoneEncrypted s t := fun _ _ h => h
  have hpreserves : Preserves (NoneEncrypted : σ → List CryptoCall → Prop) NoneEncrypted
      (createCipher P secret sessionId role packetsPerKey) := by
    unfold createCipher
    refine Preserves.ite _ (Preserves.raise_bind hkeep _ _) ?_
    refine Preserves.ite _ ?_ ?_
    · exact Preserves.bind (fromPresharedKey_encrypts_nothing P _ _ _) fun _ => Preserves.pure _
    · exact Preserves.bind (Preserves.ofExcept hkeep _) fun _ => Preserves.pure _
  exact preserves_self_iff.1 hpreserves s [] rfl

/-- **`_cipher_for` returns the keys of the sequence number**, from the cache or not. -/
theorem cipherFor_spec (hP : P.LawfulHkdf) {log : List HkdfCall}
    {cipher : RotatingPacketCipher}
    (h : (Cipher.rotating cipher).DerivedFrom P log secret sessionId role packetsPerKey)
    {n : ℕ} (hn : n / packetsPerKey < 2 ^ 64) :
    wp (RotatingPacketCipher.cipherFor P n) cipher (fun r cipher' t =>
      aesCalls t = [] ∧
      (Cipher.rotating cipher').DerivedFrom P (log ++ hkdfCalls t) secret sessionId role
        packetsPerKey ∧
      (∀ call ∈ keyDerivations P secret sessionId packetsPerKey n, call ∈ log ++ hkdfCalls t) ∧
      ∃ c, r = .ok c ∧
        c.IsFor P (epochSecret P secret sessionId packetsPerKey n) sessionId role) := by
  obtain ⟨rfl, rfl, rfl, rfl, hmemo⟩ := h
  have hpos : cipher.packetsPerKey ≠ 0 := Nat.pos_iff_ne_zero.1 cipher.packetsPerKey_pos
  unfold RotatingPacketCipher.cipherFor
  simp only [wp_read_bind]
  cases hget : cipher.ciphers.get? (cipher.epochFor n) with
  | some c =>
      -- a hit: the cached keys belong to the epoch
      obtain ⟨hfor, hcalls⟩ := hmemo _ _ hget n rfl
      simp only [wp_update_bind, wp_pure, aesCalls_nil, hkdfCalls_nil, List.append_nil]
      exact ⟨trivial, ⟨rfl, rfl, rfl, rfl, hmemo.touch _⟩, hcalls, c, rfl, hfor⟩
  | none =>
      -- a miss: the secret of the epoch and its directional keys are derived and stored
      have hsid : cipher.sessionId < 256 ^ 4 := by
        have := cipher.sessionId_le
        omega
      have hepoch : cipher.epochFor n < 256 ^ 8 := hn
      have hsecret : P.hkdf 32 (toBytes 4 cipher.sessionId ++ toBytes 8 (cipher.epochFor n))
          keyRotationContext cipher.masterSecret
          = epochSecret P cipher.masterSecret cipher.sessionId cipher.packetsPerKey n := by
        rw [epochSecret, if_neg hpos, RotatingPacketCipher.epochFor]
      have hlen : 32 ≤ (epochSecret P cipher.masterSecret cipher.sessionId cipher.packetsPerKey
          n).length := by
        rw [← hsecret, hP.length_hkdf]
      simp only [intToBytes_of_lt hsid, intToBytes_of_lt hepoch, ofExcept_ok, wp_pure_bind,
        wp_hkdf_bind, hsecret]
      rw [wp_bind]
      refine wp_mono (fromPresharedKey_spec hP hlen (by omega) cipher) ?_
      rintro r cipher' t ⟨rfl, rfl, c, rfl, hc⟩
      have hcalls : ∀ m, m / cipher'.packetsPerKey = cipher'.epochFor n →
          ∀ call ∈ keyDerivations P cipher'.masterSecret cipher'.sessionId
            cipher'.packetsPerKey m,
          call ∈ log ++ [epochCall cipher'.masterSecret cipher'.sessionId (cipher'.epochFor n),
            directionalCall (epochSecret P cipher'.masterSecret cipher'.sessionId
              cipher'.packetsPerKey n) cipher'.sessionId] := by
        intro m hm call hcall
        rw [keyDerivations, if_neg hpos, epochSecret, if_neg hpos, hm] at hcall
        rw [epochSecret, if_neg hpos]
        exact List.mem_append_right _ hcall
      simp only [wp_update_bind, wp_pure, List.append_nil, aesCalls_hkdf, aesCalls_nil,
        hkdfCalls_hkdf, hkdfCalls_nil]
      refine ⟨trivial, ⟨rfl, rfl, rfl, rfl, ?_⟩, hcalls n rfl, c, rfl, hc⟩
      refine LruCache.Memo.store ?_ _ ?_
      · intro epoch c' hc' m hm
        obtain ⟨hfor, hlog⟩ := hmemo epoch c' hc' m hm
        exact ⟨hfor, fun call hcall => List.mem_append_left _ (hlog call hcall)⟩
      · intro m hm
        refine ⟨?_, hcalls m hm⟩
        rw [epochSecret, if_neg hpos, hm]
        rw [epochSecret, if_neg hpos] at hc
        exact hc

/-- `PacketCipher.encrypt` with the directional keys of a secret. -/
theorem packetCipher_encrypt_spec {cipher : PacketCipher} {secret' : Bytes}
    (h : cipher.IsFor P secret' sessionId role) {packet : Packet} (hp : packet.HeaderInRange)
    (s : σ) :
    wp (cipher.encrypt P packet) s (fun r s' t => s' = s ∧ hkdfCalls t = [] ∧
      if packet.payload.length > maxPayloadSize - aesGcmTagSize then
        r = .error (.valueError "plaintext is too large for an encrypted UDP packet") ∧
          aesCalls t = []
      else ∃ call : AesCall,
        call = ⟨directionalKey P secret' sessionId role, nonceBytes packet, packet.payload,
          headerBytes packet (packet.payload.length + aesGcmTagSize)⟩ ∧
        r = .ok { packet with payload := call.ciphertext P } ∧ aesCalls t = [call]) := by
  unfold PacketCipher.encrypt
  split
  · rename_i hbig
    simp only [wp_raise_bind]
    exact ⟨trivial, rfl, trivial, rfl⟩
  · rename_i hsmall
    have hsize : packet.payload.length + aesGcmTagSize < 2 ^ 16 := by
      simp only [maxPayloadSize, maxUdpDatagramSize, headerSize, aesGcmTagSize] at hsmall ⊢
      omega
    simp only [nonce_of_inRange hp, authenticatedHeader_of_inRange hp hsize, ofExcept_ok,
      wp_pure_bind, wp_emit_bind, wp_pure, h.1]
    exact ⟨trivial, rfl, _, rfl, rfl, rfl⟩

/-- `PacketCipher.decrypt` with the directional keys of a secret. -/
theorem packetCipher_decrypt_spec {cipher : PacketCipher} {secret' : Bytes}
    (h : cipher.IsFor P secret' sessionId role) {packet : Packet} (hp : packet.HeaderInRange)
    (hsize : packet.payload.length < 2 ^ 16) (s : σ) :
    wp (cipher.decrypt P packet) s (fun r s' t => s' = s ∧ t = [] ∧
      r = match P.aesGcmDecrypt (directionalKey P secret' sessionId role.peer)
          (nonceBytes packet) packet.payload (headerBytes packet packet.payload.length) with
        | none => .error .invalidTag
        | some plaintext => .ok { packet with payload := plaintext }) := by
  unfold PacketCipher.decrypt
  simp only [nonce_of_inRange hp, authenticatedHeader_of_inRange hp hsize, ofExcept_ok,
    wp_pure_bind, h.2]
  cases P.aesGcmDecrypt (directionalKey P secret' sessionId role.peer) (nonceBytes packet)
      packet.payload (headerBytes packet packet.payload.length) with
  | none => exact ⟨rfl, rfl, rfl⟩
  | some plaintext => exact ⟨rfl, rfl, rfl⟩

/-- A run on the rotating cipher inside a `Cipher`. -/
theorem wp_rotating {m : Program PyError CryptoCall RotatingPacketCipher Packet}
    {f : Program PyError CryptoCall Cipher Packet} {cipher : RotatingPacketCipher}
    (hf : f (.rotating cipher) = ⟨(m cipher).result, .rotating (m cipher).state,
      (m cipher).trace⟩)
    {Q : Except PyError Packet → Cipher → List CryptoCall → Prop}
    (h : wp m cipher (fun r c t => Q r (.rotating c) t)) : wp f (.rotating cipher) Q := by
  rw [wp, hf]
  exact h

/-- **`encrypt` seals under the key schedule.** -/
theorem encrypt_spec (hP : P.LawfulHkdf) {log : List HkdfCall} {cipher : Cipher}
    (h : cipher.DerivedFrom P log secret sessionId role packetsPerKey) {packet : Packet}
    (hp : packet.HeaderInRange) :
    wp (Cipher.encrypt P packet) cipher (fun r cipher' t =>
      cipher'.DerivedFrom P (log ++ hkdfCalls t) secret sessionId role packetsPerKey ∧
      if packet.payload.length > maxPayloadSize - aesGcmTagSize then
        r = .error (.valueError "plaintext is too large for an encrypted UDP packet") ∧
          aesCalls t = []
      else r = .ok (sealPacket P secret sessionId role packetsPerKey packet) ∧
        aesCalls t = [sealCall P secret sessionId role packetsPerKey packet] ∧
        ∀ call ∈ keyDerivations P secret sessionId packetsPerKey packet.sequenceNumber,
          call ∈ log ++ hkdfCalls t) := by
  cases cipher with
  | packetCipher cipher =>
      obtain ⟨hzero, hfor, hlog⟩ := h
      refine wp_of_run_eq (cipher.encrypt P packet) rfl ?_
      refine wp_mono (packetCipher_encrypt_spec hfor hp _) ?_
      rintro r s' t ⟨rfl, ht, hr⟩
      refine ⟨⟨hzero, hfor, List.mem_append_left _ hlog⟩, ?_⟩
      split at hr
      · rename_i hbig
        rw [if_pos hbig]
        exact hr
      · rename_i hsmall
        rw [if_neg hsmall]
        obtain ⟨call, hcall, hres, haes⟩ := hr
        have hseal : call = sealCall P secret sessionId role packetsPerKey packet := by
          rw [hcall, sealCall, sendKey, epochSecret, if_pos hzero]
        refine ⟨by rw [hres, hseal, sealPacket], by rw [haes, hseal], ?_⟩
        intro d hd
        rw [keyDerivations, if_pos hzero, List.mem_singleton] at hd
        rw [hd]
        exact List.mem_append_left _ hlog
  | rotating cipher =>
      refine wp_rotating (m := RotatingPacketCipher.encrypt P packet) rfl ?_
      unfold RotatingPacketCipher.encrypt
      rw [wp_bind]
      refine wp_mono (cipherFor_spec hP h (lt_of_le_of_lt (Nat.div_le_self _ _) hp.2)) ?_
      rintro r c t ⟨haes, hder, hcalls, keys, rfl, hfor⟩
      refine wp_mono (packetCipher_encrypt_spec hfor hp c) ?_
      rintro r' c' t' ⟨rfl, hhkdf, hr'⟩
      simp only [aesCalls_append, hkdfCalls_append, haes, hhkdf, List.nil_append,
        List.append_nil]
      refine ⟨hder, ?_⟩
      split at hr'
      · rename_i hbig
        rw [if_pos hbig]
        exact hr'
      · rename_i hsmall
        rw [if_neg hsmall]
        obtain ⟨call, hcall, hres, hlog⟩ := hr'
        have hseal : call = sealCall P secret sessionId role packetsPerKey packet := by
          rw [hcall, sealCall, sendKey]
        exact ⟨by rw [hres, hseal, sealPacket], by rw [hlog, hseal], hcalls⟩

/-- **`decrypt` opens under the key schedule of the peer.** -/
theorem decrypt_spec (hP : P.LawfulHkdf) {log : List HkdfCall} {cipher : Cipher}
    (h : cipher.DerivedFrom P log secret sessionId role packetsPerKey) {packet : Packet}
    (hp : packet.HeaderInRange) (hsize : packet.payload.length < 2 ^ 16) :
    wp (Cipher.decrypt P packet) cipher (fun r cipher' t =>
      cipher'.DerivedFrom P (log ++ hkdfCalls t) secret sessionId role packetsPerKey ∧
      aesCalls t = [] ∧
      r = match openPayload P secret sessionId role.peer packetsPerKey packet with
        | none => .error .invalidTag
        | some plaintext => .ok { packet with payload := plaintext }) := by
  cases cipher with
  | packetCipher cipher =>
      obtain ⟨hzero, hfor, hlog⟩ := h
      refine wp_of_run_eq (cipher.decrypt P packet) rfl ?_
      refine wp_mono (packetCipher_decrypt_spec hfor hp hsize _) ?_
      rintro r s' t ⟨rfl, rfl, hr⟩
      refine ⟨⟨hzero, hfor, List.mem_append_left _ hlog⟩, rfl, ?_⟩
      rw [hr, openPayload, sendKey, epochSecret, if_pos hzero]
  | rotating cipher =>
      refine wp_rotating (m := RotatingPacketCipher.decrypt P packet) rfl ?_
      unfold RotatingPacketCipher.decrypt
      rw [wp_bind]
      refine wp_mono (cipherFor_spec hP h (lt_of_le_of_lt (Nat.div_le_self _ _) hp.2)) ?_
      rintro r c t ⟨haes, hder, -, keys, rfl, hfor⟩
      refine wp_mono (packetCipher_decrypt_spec hfor hp hsize c) ?_
      rintro r' c' t' ⟨rfl, rfl, hr'⟩
      rw [List.append_nil]
      exact ⟨hder, haes, by rw [hr', openPayload, sendKey]⟩

end specifications

end MatfVpn
