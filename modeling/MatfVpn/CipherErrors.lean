/-
# What a cipher object raises

The results of `encrypt` and `decrypt` for any cipher object, whatever its keys and its cache,
and a packet with a header in range.

* `encrypt_result` : a payload past the limit raises, another one grows by the tag;
* `decrypt_result` : `InvalidTag` is the only exception.
-/
import MatfVpn.CipherSpec

namespace MatfVpn

open Program

variable {σ : Type} {P : Primitives}

/-- `_cipher_for` returns for numbers of 64 bits. -/
theorem cipherFor_returns (hH : P.LawfulHkdf) (cipher : RotatingPacketCipher) {n : ℕ}
    (hn : n < 2 ^ 64) :
    wp (RotatingPacketCipher.cipherFor P n) cipher (fun r _ _ => ∃ keys, r = .ok keys) := by
  unfold RotatingPacketCipher.cipherFor
  rw [wp_read_bind]
  simp only
  cases cipher.ciphers.get? (cipher.epochFor n) with
  | some keys => exact ⟨keys, rfl⟩
  | none =>
      have hid : cipher.sessionId < 2 ^ 32 := by
        have := cipher.sessionId_le
        omega
      have hsession : cipher.sessionId < 256 ^ 4 := by omega
      have hepoch : cipher.epochFor n < 256 ^ 8 :=
        lt_of_le_of_lt (Nat.div_le_self _ _) (by omega)
      simp only [intToBytes_of_lt hsession, intToBytes_of_lt hepoch, ofExcept_ok, wp_pure_bind,
        wp_hkdf_bind]
      rw [wp_bind]
      refine wp_mono (fromPresharedKey_spec hH (by rw [hH.length_hkdf]) hid cipher) ?_
      rintro r s t ⟨rfl, -, keys, rfl, -⟩
      exact ⟨keys, rfl⟩

/-- `PacketCipher.encrypt` with any keys. -/
theorem packetCipher_encrypt_result (hA : P.LawfulAead) (cipher : PacketCipher) {packet : Packet}
    (hp : packet.HeaderInRange) (s : σ) :
    wp (cipher.encrypt P packet) s (fun r _ _ =>
      if packet.payload.length > maxPayloadSize - aesGcmTagSize then
        r = .error (.valueError "plaintext is too large for an encrypted UDP packet")
      else ∃ payload : Bytes, payload.length = packet.payload.length + aesGcmTagSize ∧
        r = .ok { packet with payload := payload }) := by
  unfold PacketCipher.encrypt
  by_cases hbig : packet.payload.length > maxPayloadSize - aesGcmTagSize
  · simp only [if_pos hbig, wp_raise_bind]
  · have hsize : packet.payload.length + aesGcmTagSize < 2 ^ 16 := by
      simp only [maxPayloadSize, maxUdpDatagramSize, headerSize, aesGcmTagSize] at hbig ⊢
      omega
    rw [if_neg hbig]
    simp only [if_neg hbig, nonce_of_inRange hp, authenticatedHeader_of_inRange hp hsize,
      ofExcept_ok, wp_pure_bind, wp_emit_bind, wp_pure]
    exact ⟨_, hA.length_encrypt _ _ _ _, rfl⟩

/-- `PacketCipher.decrypt` with any keys. -/
theorem packetCipher_decrypt_result (cipher : PacketCipher) {packet : Packet}
    (hp : packet.HeaderInRange) (hsize : packet.payload.length < 2 ^ 16) (s : σ) :
    wp (cipher.decrypt P packet) s (fun r _ _ =>
      r = .error .invalidTag ∨ ∃ payload, r = .ok { packet with payload := payload }) := by
  unfold PacketCipher.decrypt
  simp only [nonce_of_inRange hp, authenticatedHeader_of_inRange hp hsize, ofExcept_ok,
    wp_pure_bind]
  cases P.aesGcmDecrypt cipher.receiveKey (nonceBytes packet) packet.payload
      (headerBytes packet packet.payload.length) with
  | none => exact Or.inl rfl
  | some plaintext => exact Or.inr ⟨plaintext, rfl⟩

/-- **The results of `encrypt`.** -/
theorem encrypt_result (hA : P.LawfulAead) (hH : P.LawfulHkdf) (cipher : Cipher)
    {packet : Packet} (hp : packet.HeaderInRange) :
    wp (Cipher.encrypt P packet) cipher (fun r _ _ =>
      if packet.payload.length > maxPayloadSize - aesGcmTagSize then
        r = .error (.valueError "plaintext is too large for an encrypted UDP packet")
      else ∃ payload : Bytes, payload.length = packet.payload.length + aesGcmTagSize ∧
        r = .ok { packet with payload := payload }) := by
  cases cipher with
  | packetCipher cipher =>
      exact wp_of_run_eq (cipher.encrypt P packet) rfl (packetCipher_encrypt_result hA cipher hp _)
  | rotating cipher =>
      refine wp_rotating (m := RotatingPacketCipher.encrypt P packet) rfl ?_
      unfold RotatingPacketCipher.encrypt
      rw [wp_bind]
      refine wp_mono (cipherFor_returns hH cipher hp.2) ?_
      rintro r cipher' t ⟨keys, rfl⟩
      exact packetCipher_encrypt_result hA keys hp cipher'

/-- **The results of `decrypt`.** -/
theorem decrypt_result (hH : P.LawfulHkdf) (cipher : Cipher) {packet : Packet}
    (hp : packet.HeaderInRange) (hsize : packet.payload.length < 2 ^ 16) :
    wp (Cipher.decrypt P packet) cipher (fun r _ _ =>
      r = .error .invalidTag ∨ ∃ payload, r = .ok { packet with payload := payload }) := by
  cases cipher with
  | packetCipher cipher =>
      exact wp_of_run_eq (cipher.decrypt P packet) rfl
        (packetCipher_decrypt_result cipher hp hsize _)
  | rotating cipher =>
      refine wp_rotating (m := RotatingPacketCipher.decrypt P packet) rfl ?_
      unfold RotatingPacketCipher.decrypt
      rw [wp_bind]
      refine wp_mono (cipherFor_returns hH cipher hp.2) ?_
      rintro r cipher' t ⟨keys, rfl⟩
      exact packetCipher_decrypt_result keys hp hsize cipher'

end MatfVpn
