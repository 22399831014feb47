/-
# The two ciphers of a session

What the ciphers that `create_cipher` builds at the two ends of a session make of each
other's packets, whatever calls were made on them before.

* `encrypt_eq_ok_iff`, `decrypt_eq_ok_iff` : what the calls on a derived cipher return;
* `afterCalls_derived` : no sequence of calls changes what a cipher computes;
* `handshake_interoperates` : both sides of a handshake get the same secret, and ciphers
  that decrypt each other's packets;
* `receive_inverts_send` : the datagrams that the receiver accepts are exactly the ones
  that the sender produces.
-/
import MatfVpn.CipherSpec
import MatfVpn.HandshakeAgreement

namespace MatfVpn

open Program

/-! ## Calls on a cipher -/

/-- A call on a cipher. -/
inductive CipherCall where
  | encrypt (packet : Packet)
  | decrypt (packet : Packet)

/-- The run of a call. -/
def CipherCall.run (P : Primitives) : CipherCall → Program PyError CryptoCall Cipher Packet
  | .encrypt packet => Cipher.encrypt P packet
  | .decrypt packet => Cipher.decrypt P packet

/-- The cipher after some calls, which may have raised. -/
def Cipher.afterCalls (P : Primitives) (cipher : Cipher) (calls : List CipherCall) : Cipher :=
  calls.foldl (fun c call => (call.run P c).state) cipher

section calls

variable {σ : Type} {P : Primitives} {secret : Bytes} {sessionId packetsPerKey : ℕ}
  {role : EndpointRole}

/-- A packet has a nonce only when its header fields are in range. -/
theorem inRange_of_nonce {packet : Packet} {iv : Bytes} (h : nonce packet = .ok iv) :
    packet.HeaderInRange := by
  unfold nonce at h
  simp only [except_bind_eq_ok] at h
  obtain ⟨_, hsession, _, hsequence, -⟩ := h
  have hs := (intToBytes_eq_ok hsession).1
  have hn := (intToBytes_eq_ok hsequence).1
  constructor
  · omega
  · omega

/-- `PacketCipher.encrypt` returns only for packets with header fields in range. -/
theorem inRange_of_packetCipher_encrypt {cipher : PacketCipher} {packet sealed : Packet} {s : σ}
    (h : (cipher.encrypt P packet s).result = .ok sealed) : packet.HeaderInRange := by
  have hwp : wp (cipher.encrypt P packet) s (fun r _ _ => r = .ok sealed) := h
  unfold PacketCipher.encrypt at hwp
  by_cases hbig : packet.payload.length > maxPayloadSize - aesGcmTagSize
  · rw [if_pos hbig, wp_raise_bind] at hwp
    cases hwp
  · rw [if_neg hbig] at hwp
    cases hnonce : nonce packet with
    | error e =>
        rw [hnonce] at hwp
        cases hwp
    | ok iv => exact inRange_of_nonce hnonce

/-- `encrypt` returns only for packets with header fields in range. -/
theorem inRange_of_encrypt {cipher : Cipher} {packet sealed : Packet}
    (h : (Cipher.encrypt P packet cipher).result = .ok sealed) : packet.HeaderInRange := by
  cases cipher with
  | packetCipher cipher => exact inRange_of_packetCipher_encrypt h
  | rotating cipher =>
      have hrun : ((RotatingPacketCipher.cipherFor P packet.sequenceNumber >>=
          fun keys => keys.encrypt P packet) cipher).result = .ok sealed := h
      obtain ⟨keys, _, _, -, hkeys⟩ := result_bind_eq_ok.1 hrun
      exact inRange_of_packetCipher_encrypt hkeys

/-- `PacketCipher.encrypt` has no state and derives no keys. -/
theorem packetCipher_encrypt_keeps (cipher : PacketCipher) (packet : Packet) (s : σ) :
    wp (cipher.encrypt P packet) s (fun _ s' t => s' = s ∧ hkdfCalls t = []) := by
  unfold PacketCipher.encrypt
  by_cases hbig : packet.payload.length > maxPayloadSize - aesGcmTagSize
  · rw [if_pos hbig, wp_raise_bind]
    exact ⟨rfl, rfl⟩
  · rw [if_neg hbig]
    cases nonce packet with
    | error e => exact ⟨rfl, rfl⟩
    | ok iv =>
        simp only [ofExcept_ok, wp_pure_bind]
        cases authenticatedHeader packet (packet.payload.length + aesGcmTagSize) with
        | error e => exact ⟨rfl, rfl⟩
        | ok header => exact ⟨rfl, rfl⟩

/-- `PacketCipher.decrypt` has no state and derives no keys. -/
theorem packetCipher_decrypt_keeps (cipher : PacketCipher) (packet : Packet) (s : σ) :
    wp (cipher.decrypt P packet) s (fun _ s' t => s' = s ∧ hkdfCalls t = []) := by
  unfold PacketCipher.decrypt
  cases nonce packet with
  | error e => exact ⟨rfl, rfl⟩
  | ok iv =>
      cases authenticatedHeader packet packet.payload.length with
      | error e => exact ⟨rfl, rfl⟩
      | ok header =>
          simp only [ofExcept_ok, wp_pure_bind]
          cases P.aesGcmDecrypt cipher.receiveKey iv packet.payload header with
          | none => exact ⟨rfl, rfl⟩
          | some plaintext => exact ⟨rfl, rfl⟩

/-- `_cipher_for` keeps the cache to the key schedule, also when it raises. -/
theorem cipherFor_keeps (hH : P.LawfulHkdf) {log : List HkdfCall} {cipher : RotatingPacketCipher}
    (h : (Cipher.rotating cipher).DerivedFrom P log secret sessionId role packetsPerKey) (n : ℕ) :
    wp (RotatingPacketCipher.cipherFor P n) cipher (fun _ cipher' t =>
      (Cipher.rotating cipher').DerivedFrom P (log ++ hkdfCalls t) secret sessionId role
        packetsPerKey) := by
  by_cases hn : n / packetsPerKey < 2 ^ 64
  · refine wp_mono (cipherFor_spec hH h hn) ?_
    rintro r cipher' t ⟨-, hder, -⟩
    exact hder
  · -- the number of the epoch does not fit, and is in the cache only with its keys
    have hepoch : ¬ cipher.epochFor n < 256 ^ 8 := by
      rw [RotatingPacketCipher.epochFor, h.2.2.2.1]
      exact hn
    unfold RotatingPacketCipher.cipherFor
    simp only [wp_read_bind]
    cases hget : cipher.ciphers.get? (cipher.epochFor n) with
    | some keys =>
        obtain ⟨hm, hs, hr, hp, hmemo⟩ := h
        simp only [wp_update_bind, wp_pure, hkdfCalls_nil, List.append_nil]
        exact ⟨hm, hs, hr, hp, hmemo.touch _⟩
    | none =>
        have hid : cipher.sessionId < 256 ^ 4 := by
          have := cipher.sessionId_le
          omega
        have hraise : intToBytes (cipher.epochFor n) 8
            = .error (.overflowError "int too big to convert") := if_neg hepoch
        simp only [intToBytes_of_lt hid, hraise, ofExcept_ok, ofExcept_error, wp_pure_bind,
          wp_raise_bind, hkdfCalls_nil, List.append_nil]
        exact h

/-- **A call leaves a cipher derived from its secret**, whatever packet it is given. -/
theorem call_keeps_derived (hH : P.LawfulHkdf) {log : List HkdfCall} {cipher : Cipher}
    (h : cipher.DerivedFrom P log secret sessionId role packetsPerKey) (call : CipherCall) :
    wp (call.run P) cipher (fun _ cipher' t =>
      cipher'.DerivedFrom P (log ++ hkdfCalls t) secret sessionId role packetsPerKey) := by
  have hstay : ∀ {c : PacketCipher}, cipher = .packetCipher c → ∀ {c' : Cipher} {t},
      c' = .packetCipher c ∧ hkdfCalls t = [] →
        c'.DerivedFrom P (log ++ hkdfCalls t) secret sessionId role packetsPerKey := by
    rintro c rfl c' t ⟨rfl, ht⟩
    rw [ht, List.append_nil]
    exact h
  cases cipher with
  | packetCipher cipher =>
      cases call with
      | encrypt packet =>
          refine wp_of_run_eq (cipher.encrypt P packet) rfl ?_
          exact wp_mono (packetCipher_encrypt_keeps cipher packet _) fun _ _ _ hkeep =>
            hstay rfl hkeep
      | decrypt packet =>
          refine wp_of_run_eq (cipher.decrypt P packet) rfl ?_
          exact wp_mono (packetCipher_decrypt_keeps cipher packet _) fun _ _ _ hkeep =>
            hstay rfl hkeep
  | rotating cipher =>
      cases call with
      | encrypt packet =>
          refine wp_rotating (m := RotatingPacketCipher.encrypt P packet) rfl ?_
          unfold RotatingPacketCipher.encrypt
          rw [wp_bind]
          refine wp_mono (cipherFor_keeps hH h _) ?_
          rintro (e | keys) cipher' t hder
          · exact hder
          refine wp_mono (packetCipher_encrypt_keeps keys packet cipher') ?_
          rintro r c' t' ⟨rfl, ht'⟩
          rw [hkdfCalls_append, ht', List.append_nil]
          exact hder
      | decrypt packet =>
          refine wp_rotating (m := RotatingPacketCipher.decrypt P packet) rfl ?_
          unfold RotatingPacketCipher.decrypt
          rw [wp_bind]
          refine wp_mono (cipherFor_keeps hH h _) ?_
          rintro (e | keys) cipher' t hder
          · exact hder
          refine wp_mono (packetCipher_decrypt_keeps keys packet cipher') ?_
          rintro r c' t' ⟨rfl, ht'⟩
          rw [hkdfCalls_append, ht', List.append_nil]
          exact hder

/-- **No sequence of calls changes what a cipher computes.** -/
theorem afterCalls_derived (hH : P.LawfulHkdf) (calls : List CipherCall) {log : List HkdfCall}
    {cipher : Cipher} (h : cipher.DerivedFrom P log secret sessionId role packetsPerKey) :
    ∃ log', (cipher.afterCalls P calls).DerivedFrom P log' secret sessionId role
      packetsPerKey := by
  induction calls generalizing cipher log with
  | nil => exact ⟨log, h⟩
  | cons call calls ih => exact ih (call_keeps_derived hH h call)

/-- **What `encrypt` returns.** A derived cipher encrypts exactly the packets with header fields
in range whose payload leaves room for the tag. -/
theorem encrypt_eq_ok_iff (hH : P.LawfulHkdf) {log : List HkdfCall} {cipher : Cipher}
    (h : cipher.DerivedFrom P log secret sessionId role packetsPerKey) {packet sealed : Packet} :
    (Cipher.encrypt P packet cipher).result = .ok sealed ↔ packet.HeaderInRange ∧
      packet.payload.length ≤ maxPayloadSize - aesGcmTagSize ∧
      sealed = sealPacket P secret sessionId role packetsPerKey packet := by
  constructor
  · intro hok
    have hp := inRange_of_encrypt hok
    have hspec := (encrypt_spec hH h hp).2
    by_cases hbig : packet.payload.length > maxPayloadSize - aesGcmTagSize
    · rw [if_pos hbig, hok] at hspec
      cases hspec.1
    · rw [if_neg hbig, hok] at hspec
      exact ⟨hp, Nat.le_of_not_lt hbig, Except.ok.inj hspec.1⟩
  · rintro ⟨hp, hsize, rfl⟩
    have hspec := (encrypt_spec hH h hp).2
    rw [if_neg (Nat.not_lt.2 hsize)] at hspec
    exact hspec.1

/-- **What `decrypt` returns.** Of the packets that the wire format carries, a derived cipher
decrypts exactly the ones that its peer encrypts. -/
theorem decrypt_eq_ok_iff (hA : P.LawfulAead) (hH : P.LawfulHkdf) {log : List HkdfCall}
    {cipher : Cipher}
    (h : cipher.DerivedFrom P log secret sessionId role.peer packetsPerKey)
    {sealed packet : Packet} (hsealed : sealed.Encodable) :
    (Cipher.decrypt P sealed cipher).result = .ok packet ↔
      sealed = sealPacket P secret sessionId role packetsPerKey packet := by
  have hlen : sealed.payload.length < 2 ^ 16 := lt_of_le_of_lt hsealed.2.2 (by decide)
  have hspec := (decrypt_spec hH h ⟨hsealed.1, hsealed.2.1⟩ hlen).2.2
  rw [EndpointRole.peer_peer] at hspec
  rw [hspec]
  cases hopen : openPayload P secret sessionId role packetsPerKey sealed with
  | none =>
      refine ⟨nofun, fun heq => ?_⟩
      have hback : sealed = sealPacket P secret sessionId role packetsPerKey
          { sealed with payload := packet.payload } := by
        rw [heq]
        rfl
      rw [(openPayload_eq_some_iff hA).2 hback] at hopen
      cases hopen
  | some plaintext =>
      have heq := (openPayload_eq_some_iff hA).1 hopen
      constructor
      · intro hok
        rw [← Except.ok.inj hok]
        exact heq
      · intro hpacket
        have hplain : openPayload P secret sessionId role packetsPerKey sealed
            = some packet.payload := by
          refine (openPayload_eq_some_iff hA).2 ?_
          rw [hpacket]
          rfl
        rw [hopen, Option.some.injEq] at hplain
        rw [hplain, hpacket]
        rfl

/-- The header of an encrypted packet is the one of the packet. -/
theorem encodable_sealPacket (hA : P.LawfulAead) {packet : Packet} (hp : packet.HeaderInRange)
    (hsize : packet.payload.length ≤ maxPayloadSize - aesGcmTagSize) :
    (sealPacket P secret sessionId role packetsPerKey packet).Encodable := by
  obtain ⟨data, hdata⟩ := encode_sealPacket hA secret sessionId role packetsPerKey hp hsize
  exact (Packet.encode_eq_ok_iff.1 hdata).1

/-- **What the peer encrypts is decrypted**, whatever calls were made before. -/
theorem decrypt_encrypt (hA : P.LawfulAead) (hH : P.LawfulHkdf) {log log' : List HkdfCall}
    {sender receiver : Cipher}
    (hs : sender.DerivedFrom P log secret sessionId role packetsPerKey)
    (hr : receiver.DerivedFrom P log' secret sessionId role.peer packetsPerKey)
    (before before' : List CipherCall) {packet : Packet} (hp : packet.HeaderInRange)
    (hsize : packet.payload.length ≤ maxPayloadSize - aesGcmTagSize) :
    ∃ sealed, (Cipher.encrypt P packet (sender.afterCalls P before)).result = .ok sealed ∧
      (Cipher.decrypt P sealed (receiver.afterCalls P before')).result = .ok packet := by
  obtain ⟨_, hsender⟩ := afterCalls_derived hH before hs
  obtain ⟨_, hreceiver⟩ := afterCalls_derived hH before' hr
  refine ⟨sealPacket P secret sessionId role packetsPerKey packet, ?_, ?_⟩
  · exact (encrypt_eq_ok_iff hH hsender).2 ⟨hp, hsize, rfl⟩
  · exact (decrypt_eq_ok_iff hA hH hreceiver (encodable_sealPacket hA hp hsize)).2 rfl

end calls

/-! ## Receiving inverts sending -/

/-- The ciphers of the two ends after any calls: the sender's encryption of a packet and
its datagram. -/
def Cipher.Sends (P : Primitives) (cipher : Cipher) (packet : Packet) (data : Bytes) : Prop :=
  ∃ sealed, (Cipher.encrypt P packet cipher).result = .ok sealed ∧ sealed.encode = .ok data

/-- The receiver decodes and decrypts a datagram to a packet. -/
def Cipher.Receives (P : Primitives) (cipher : Cipher) (data : Bytes) (packet : Packet) : Prop :=
  ∃ sealed, Packet.decode data = .ok sealed ∧
    (Cipher.decrypt P sealed cipher).result = .ok packet

/-- `create_cipher` returns a cipher derived from its secret. -/
theorem derived_of_createCipher {P : Primitives} (hH : P.LawfulHkdf) {secret : Bytes}
    {sessionId packetsPerKey : ℕ} {role : EndpointRole} {cipher : Cipher}
    (h : (createCipher P secret sessionId role packetsPerKey ()).result = .ok cipher) :
    ∃ log, cipher.DerivedFrom P log secret sessionId role packetsPerKey := by
  obtain ⟨hsecret, hid⟩ := createCipher_ok h
  obtain ⟨-, -, c, hc, hder⟩ := createCipher_spec hH hsecret hid role packetsPerKey ()
  rw [h] at hc
  obtain rfl := Except.ok.inj hc
  exact ⟨_, hder⟩

/-- **Receiving inverts sending on exactly its image.** The receiver accepts the datagrams that
the sender produces and no others, every packet in range whose payload leaves room for the tag
has a datagram, and a changed datagram is rejected or is the one of another packet. -/
theorem receive_inverts_send {P : Primitives} (hA : P.LawfulAead) (hH : P.LawfulHkdf)
    {secret : Bytes} {sessionId packetsPerKey : ℕ} {role : EndpointRole}
    {sender receiver : Cipher}
    (hsender : (createCipher P secret sessionId role packetsPerKey ()).result = .ok sender)
    (hreceiver : (createCipher P secret sessionId role.peer packetsPerKey ()).result
      = .ok receiver) (before before' : List CipherCall) :
    (∀ data packet, data.length ≤ maxUdpDatagramSize →
      ((receiver.afterCalls P before').Receives P data packet ↔
        (sender.afterCalls P before).Sends P packet data)) ∧
    (∀ packet : Packet, packet.HeaderInRange →
      packet.payload.length ≤ maxPayloadSize - aesGcmTagSize →
      ∃ data, (sender.afterCalls P before).Sends P packet data) ∧
    (∀ data data' packet, (sender.afterCalls P before).Sends P packet data →
      data'.length ≤ maxUdpDatagramSize → data' ≠ data →
      ∀ packet', (receiver.afterCalls P before').Receives P data' packet' →
        packet' ≠ packet ∧ (sender.afterCalls P before).Sends P packet' data') := by
  obtain ⟨_, hs⟩ := derived_of_createCipher hH hsender
  obtain ⟨_, hr⟩ := derived_of_createCipher hH hreceiver
  obtain ⟨_, hs⟩ := afterCalls_derived hH before hs
  obtain ⟨_, hr⟩ := afterCalls_derived hH before' hr
  have hexact : ∀ data packet, data.length ≤ maxUdpDatagramSize →
      ((receiver.afterCalls P before').Receives P data packet ↔
        (sender.afterCalls P before).Sends P packet data) := by
    intro data packet hlen
    constructor
    -- decrypting inverts sealing, so the received packet is the one that was sealed
    · rintro ⟨sealed, hdecode, hdecrypt⟩
      have hencodable := Packet.encodable_of_decode hlen hdecode
      have hseal := (decrypt_eq_ok_iff hA hH hr hencodable).1 hdecrypt
      refine ⟨sealed, (encrypt_eq_ok_iff hH hs).2 ⟨?_, ?_, hseal⟩,
        Packet.encode_of_decode hlen hdecode⟩
      · rw [hseal] at hencodable
        exact ⟨hencodable.1, hencodable.2.1⟩
      · have hpayload := hencodable.2.2
        rw [hseal, sealPacket, AesCall.ciphertext, hA.length_encrypt] at hpayload
        simp only [sealCall] at hpayload
        omega
    · rintro ⟨sealed, hencrypt, hencode⟩
      obtain ⟨-, -, hseal⟩ := (encrypt_eq_ok_iff hH hs).1 hencrypt
      refine ⟨sealed, Packet.decode_of_encode hencode, ?_⟩
      exact (decrypt_eq_ok_iff hA hH hr (Packet.encode_eq_ok_iff.1 hencode).1).2 hseal
  refine ⟨hexact, ?_, ?_⟩
  · intro packet hp hsize
    obtain ⟨data, hdata⟩ := encode_sealPacket hA secret sessionId role packetsPerKey hp hsize
    exact ⟨data, _, (encrypt_eq_ok_iff hH hs).2 ⟨hp, hsize, rfl⟩, hdata⟩
  · intro data data' packet hsend hlen hne packet' hreceive
    have hsend' := (hexact data' packet' hlen).1 hreceive
    refine ⟨?_, hsend'⟩
    -- a packet has one datagram, so another datagram cannot be the one of the same packet
    rintro rfl
    obtain ⟨sealed, hencrypt, hencode⟩ := hsend
    obtain ⟨sealed', hencrypt', hencode'⟩ := hsend'
    rw [hencrypt] at hencrypt'
    rw [← Except.ok.inj hencrypt', hencode] at hencode'
    exact hne (Except.ok.inj hencode').symm

/-- The cipher of an end of a sample session whose keys change with every third packet. -/
def sampleCipher (role : EndpointRole) : Cipher :=
  (createCipher sample (List.replicate 32 5) (7 : ℕ) role (3 : ℕ) ()).result.toOption.get (by
    cases role <;> decide +kernel)

theorem createCipher_sampleCipher (role : EndpointRole) :
    (createCipher sample (List.replicate 32 5) (7 : ℕ) role (3 : ℕ) ()).result
      = .ok (sampleCipher role) := eq_ok_get _

/-- After a call that fails on either side. -/
theorem receive_inverts_send_sample :
    (∃ data, ((sampleCipher .client).afterCalls sample [.encrypt ⟨.data, 7, 2 ^ 64, []⟩]).Sends
      sample ⟨.data, 7, 9, [1, 2, 3]⟩ data) ∧
    ∀ data packet, data.length ≤ maxUdpDatagramSize →
      (((sampleCipher .server).afterCalls sample [.decrypt ⟨.data, 7, 5, []⟩]).Receives sample
          data packet ↔
        ((sampleCipher .client).afterCalls sample [.encrypt ⟨.data, 7, 2 ^ 64, []⟩]).Sends sample
          packet data) := by
  obtain ⟨hexact, hsends, -⟩ := receive_inverts_send sample_lawfulAead sample_lawfulHkdf
    (createCipher_sampleCipher .client) (createCipher_sampleCipher .server)
    [.encrypt ⟨.data, 7, 2 ^ 64, []⟩] [.decrypt ⟨.data, 7, 5, []⟩]
  exact ⟨hsends _ ⟨by decide, by decide⟩ (by decide), hexact⟩

/-! ## Ciphers of a handshake -/

/-- Each cipher decrypts what the other encrypts, whatever calls are made on them. -/
def Cipher.Interoperate (P : Primitives) (client server : Cipher) : Prop :=
  ∀ (before before' : List CipherCall) (packet : Packet), packet.HeaderInRange →
    packet.payload.length ≤ maxPayloadSize - aesGcmTagSize →
    (∃ sealed, (Cipher.encrypt P packet (client.afterCalls P before)).result = .ok sealed ∧
      (Cipher.decrypt P sealed (server.afterCalls P before')).result = .ok packet) ∧
    (∃ sealed, (Cipher.encrypt P packet (server.afterCalls P before')).result = .ok sealed ∧
      (Cipher.decrypt P sealed (client.afterCalls P before)).result = .ok packet)

/-- `create_cipher` builds interoperating ciphers for the two roles. -/
theorem createCipher_interoperate {P : Primitives} (hA : P.LawfulAead) (hH : P.LawfulHkdf)
    {secret : Bytes} {sessionId : ℕ} (hsecret : 32 ≤ secret.length) (hid : sessionId < 2 ^ 32)
    (packetsPerKey : ℕ) :
    ∃ client server,
      (createCipher P secret sessionId .client packetsPerKey ()).result = .ok client ∧
      (createCipher P secret sessionId .server packetsPerKey ()).result = .ok server ∧
      client.Interoperate P server := by
  obtain ⟨-, -, client, hclient, hc⟩ := createCipher_spec hH hsecret hid .client packetsPerKey ()
  obtain ⟨-, -, server, hserver, hs⟩ := createCipher_spec hH hsecret hid .server packetsPerKey ()
  refine ⟨client, server, hclient, hserver, ?_⟩
  intro before before' packet hp hsize
  constructor
  · exact decrypt_encrypt hA hH hc hs before before' hp hsize
  · exact decrypt_encrypt hA hH hs hc before' before hp hsize

/-- **A handshake gives interoperating ciphers.** With matching static keys the server accepts
the hello of the client, the client accepts the response, both return the same secret, and for
every `packets_per_key` the ciphers of the two sides decrypt each other's packets. -/
theorem handshake_interoperates {P : Primitives} (hA : P.LawfulAead) (hH : P.LawfulHkdf)
    (hM : P.LawfulHmac) (hX : P.LawfulX25519) (hN : P.NonzeroExchange)
    {clientPrivate serverPrivate : Bytes} (hc : clientPrivate.length = x25519KeySize)
    (hs : serverPrivate.length = x25519KeySize) (clientEntropy : ClientEntropy)
    (serverEntropy : ServerEntropy) :
    ∃ hello state response secret,
      createClientHello P clientPrivate (P.x25519Public serverPrivate) clientEntropy
        = .ok (hello, state) ∧
      acceptClientHello P hello serverPrivate (P.x25519Public clientPrivate) serverEntropy
        = .ok (response, secret) ∧
      finishClientHandshake P state response = .ok secret ∧
      ∀ packetsPerKey : ℕ, ∃ client server,
        (createCipher P secret state.sessionId .client packetsPerKey ()).result = .ok client ∧
        (createCipher P secret hello.sessionId .server packetsPerKey ()).result = .ok server ∧
        client.Interoperate P server := by
  obtain ⟨hello, state, response, secret, hcreate, hsession, haccept, hfinish⟩ :=
    handshake_succeeds hM hX hN hc hs clientEntropy serverEntropy
  refine ⟨hello, state, response, secret, hcreate, haccept, hfinish, fun packetsPerKey => ?_⟩
  obtain ⟨-, -, -, hid, -, -, -, -, -, -, hderive⟩ := acceptClientHello_ok haccept
  have hstate : state.sessionId = hello.sessionId := by
    obtain ⟨_, _, -, -, -, hstate⟩ := createClientHello_ok hcreate
    rw [hstate, hsession]
  rw [hstate]
  have hsecret : 32 ≤ secret.length := by rw [length_of_deriveSessionSecret hH hderive]
  exact createCipher_interoperate hA hH hsecret hid packetsPerKey

theorem sample_nonzeroExchange : sample.NonzeroExchange := fun _ _ _ _ => rfl

theorem handshake_interoperates_sample :
    ∃ hello state response secret,
      createClientHello sample sampleKeys.clientPrivate
        (sample.x25519Public sampleKeys.serverPrivate) sampleClientEntropy = .ok (hello, state) ∧
      acceptClientHello sample hello sampleKeys.serverPrivate
        (sample.x25519Public sampleKeys.clientPrivate) sampleServerEntropy
          = .ok (response, secret) ∧
      finishClientHandshake sample state response = .ok secret ∧
      ∀ packetsPerKey : ℕ, ∃ client server,
        (createCipher sample secret state.sessionId .client packetsPerKey ()).result
          = .ok client ∧
        (createCipher sample secret hello.sessionId .server packetsPerKey ()).result
          = .ok server ∧
        client.Interoperate sample server :=
  handshake_interoperates sample_lawfulAead sample_lawfulHkdf sample_lawfulHmac
    sample_lawfulX25519 sample_nonzeroExchange (by decide) (by decide) sampleClientEntropy
    sampleServerEntropy

end MatfVpn
