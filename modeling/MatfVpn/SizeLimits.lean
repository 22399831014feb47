/-
# Packet sizes along the sending paths

The MTU range of the configurations, the size of a TUN read, the limit of an encrypted
plaintext and the limit of a UDP payload.  The configurations accept MTUs that the other
limits refuse: the size limits agree exactly up to the limit of the sending path.

* `acceptedMtu_range` : the three validations accept MTUs of one range;
* `encrypt_sizes` : the limit of a cipher object, whatever its keys and its cache;
* `size_limits_iff` : the MTUs up to which no packet is too large.
-/
import MatfVpn.CipherErrors
import MatfVpn.ConfigFile
import MatfVpn.Endpoint
import MatfVpn.MultiClientSpec
import MatfVpn.SamplePrimitives

namespace MatfVpn

open Program

/-! ## The MTUs -/

/-- An MTU that a validation accepts: `load_config`, `load_server_config` or
`configure_tun`. -/
def AcceptedMtu (mtu : ℤ) : Prop :=
  (∃ documents path config, loadConfig documents path = .ok config ∧ config.mtu = mtu) ∨
    (∃ documents path config, loadServerConfig documents path = .ok config ∧ config.mtu = mtu) ∨
    configureTun mtu none none = .ok ()

theorem EndpointConfig.mtu_of_validate {config : EndpointConfig Binary64}
    (h : config.validate = .ok ()) : 576 ≤ config.mtu ∧ config.mtu ≤ 65535 := by
  have hnumbers := (validate_ok h).1
  simp only [validateNumbers, ite_error_eq_ok] at hnumbers
  exact not_not.1 hnumbers.1

theorem MultiClientServerConfig.mtu_of_validate {config : MultiClientServerConfig}
    (h : config.validate = .ok ()) : 576 ≤ config.mtu ∧ config.mtu ≤ 65535 := by
  unfold validate at h
  split at h
  · cases h
  · by_cases hname : config.tunName = ""
    · rw [if_pos hname] at h
      cases h
    rw [if_neg hname] at h
    obtain ⟨name, -, h⟩ := except_bind_eq_ok.1 h
    simp only [ite_error_eq_ok] at h
    exact not_not.1 h.2.1

/-- **One range.** Every validation refuses the other MTUs. -/
theorem acceptedMtu_range {mtu : ℤ} (h : AcceptedMtu mtu) : 576 ≤ mtu ∧ mtu ≤ 65535 := by
  rcases h with ⟨documents, path, config, hload, rfl⟩ | ⟨documents, path, config, hload, rfl⟩ | h
  · exact EndpointConfig.mtu_of_validate (loadConfig_ok hload)
  · exact MultiClientServerConfig.mtu_of_validate (loadServerConfig_ok hload)
  · exact not_not.1 (ite_error_eq_ok.1 h).1

/-- `DEFAULT_PACKET_SIZE`. -/
def defaultPacketSize : ℕ := 65535

/-- `TunDevice.read` of a packet. -/
def tunRead (packet : Bytes) : Bytes := packet.take defaultPacketSize

/-- A packet within an accepted MTU is read whole. -/
theorem tunRead_of_accepted {mtu : ℤ} (h : AcceptedMtu mtu) {packet : Bytes}
    (hsize : (packet.length : ℤ) ≤ mtu) : tunRead packet = packet := by
  have hrange := acceptedMtu_range h
  apply List.take_of_length_le
  show packet.length ≤ 65535
  omega

/-! ## Size errors -/

/-- The exceptions of `encrypt` and `encode` for a payload that is too large. -/
def IsSizeError (e : PyError) : Prop :=
  e = .valueError "plaintext is too large for an encrypted UDP packet" ∨
    e = .valueError "payload is too large"

instance (e : PyError) : Decidable (IsSizeError e) := by
  unfold IsSizeError
  infer_instance

theorem nonce_not_sizeError {packet : Packet} {e : PyError} (h : nonce packet = .error e) :
    ¬ IsSizeError e := by
  have hbytes : ∀ {n width : ℕ} {e : PyError}, intToBytes n width = .error e →
      ¬ IsSizeError e := by
    intro n width e h
    unfold intToBytes at h
    split at h
    · cases h
    · rw [← Except.error.inj h]
      decide
  unfold nonce at h
  rcases except_bind_eq_error.1 h with h | ⟨sessionId, -, h⟩
  · exact hbytes h
  · rcases except_bind_eq_error.1 h with h | ⟨sequenceNumber, -, h⟩
    · exact hbytes h
    · cases h

theorem headerPack_not_sizeError {v t s n z : ℕ} {e : PyError}
    (h : headerPack v t s n z = .error e) : ¬ IsSizeError e := by
  unfold headerPack at h
  split at h
  · cases h
  · rw [← Except.error.inj h]
    decide

/-- A payload within the limit of UDP is encoded without a size error. -/
theorem encode_not_sizeError {packet : Packet} (hsize : packet.payload.length ≤ maxPayloadSize)
    {e : PyError} (h : packet.encode = .error e) : ¬ IsSizeError e := by
  unfold Packet.encode at h
  split at h
  · rw [← Except.error.inj h]
    decide
  split at h
  · rw [← Except.error.inj h]
    decide
  rw [if_neg (by omega)] at h
  rcases except_bind_eq_error.1 h with h | ⟨header, -, h⟩
  · exact headerPack_not_sizeError h
  · cases h

/-- A payload past the limit of UDP is not encoded. -/
theorem encode_of_large {packet : Packet} (hsession : packet.sessionId ≤ 0xFFFFFFFF)
    (hnumber : packet.sequenceNumber ≤ maxSequenceNumber)
    (hsize : maxPayloadSize < packet.payload.length) :
    packet.encode = .error (.valueError "payload is too large") := by
  unfold Packet.encode
  rw [if_neg (not_not.2 hsession)]
  simp only [maxSequenceNumber] at hnumber
  rw [if_neg (not_not.2 hnumber), if_pos hsize]

/-- The result is no size error. -/
def NoSizeError {α : Type} (r : Except PyError α) : Prop := ∀ e, r = .error e → ¬ IsSizeError e

/-- The result is no size error, and an encrypted packet fits into a datagram. -/
def Fits : Except PyError Packet → Prop
  | .error e => ¬ IsSizeError e
  | .ok encrypted => encrypted.payload.length ≤ maxPayloadSize

section send

variable {P : Primitives} {τ σ : Type}

/-- `PacketCipher.encrypt` of a payload within the limit. -/
theorem packetCipher_encrypt_sizes (hA : P.LawfulAead) (cipher : PacketCipher) {packet : Packet}
    (hsize : packet.payload.length ≤ maxPayloadSize - aesGcmTagSize) (s : σ) :
    wp (cipher.encrypt P packet) s (fun r _ _ => Fits r) := by
  unfold PacketCipher.encrypt
  simp only [if_neg (Nat.not_lt.2 hsize)]
  rw [wp_bind, wp_ofExcept]
  cases hnonce : nonce packet with
  | error e =>
    exact nonce_not_sizeError hnonce
  | ok iv =>
    simp only
    rw [wp_bind, wp_ofExcept]
    cases hheader : authenticatedHeader packet (packet.payload.length + aesGcmTagSize) with
    | error e =>
      exact headerPack_not_sizeError hheader
    | ok header =>
      simp only [wp_emit_bind, wp_pure]
      show (P.aesGcmEncrypt _ _ _ _).length ≤ _
      rw [hA.length_encrypt]
      simp only [maxPayloadSize, maxUdpDatagramSize, headerSize, aesGcmTagSize] at hsize ⊢
      omega

/-- **The limit of a cipher object.** A payload within it is encrypted without a size error,
to a payload within the limit of UDP. -/
theorem encrypt_sizes (hA : P.LawfulAead) (hH : P.LawfulHkdf) (cipher : Cipher)
    {packet : Packet} (hnumber : packet.sequenceNumber ≤ maxSequenceNumber)
    (hsize : packet.payload.length ≤ maxPayloadSize - aesGcmTagSize) :
    wp (Cipher.encrypt P packet) cipher (fun r _ _ => Fits r) := by
  cases cipher with
  | packetCipher cipher =>
    exact wp_of_run_eq (cipher.encrypt P packet) rfl
      (packetCipher_encrypt_sizes hA cipher hsize _)
  | rotating cipher =>
    have hlt : packet.sequenceNumber < 2 ^ 64 := by
      simp only [maxSequenceNumber] at hnumber
      omega
    refine wp_rotating (m := RotatingPacketCipher.encrypt P packet) rfl ?_
    unfold RotatingPacketCipher.encrypt
    rw [wp_bind]
    refine wp_mono (cipherFor_returns hH cipher hlt) ?_
    rintro r cipher' t ⟨keys, rfl⟩
    exact packetCipher_encrypt_sizes hA keys hsize cipher'

/-- A packet within the limit of UDP is sent without a size error. -/
theorem transportSend_sizes {plain packet : Packet} (hsize : packet.payload.length ≤ maxPayloadSize)
    {failure : Option PyError} (hfailure : ∀ e, failure = some e → e.isOSError)
    (destination : Address)
    (s : σ) :
    wp (transportSend plain packet destination failure : Program PyError (Effect τ) σ Unit) s
      (fun r _ _ => NoSizeError r) := by
  refine wp_mono (transportSend_spec plain packet destination failure s) ?_
  rintro r s' t ⟨-, hends⟩
  cases hends with
  | sent data _ => exact fun e he => nomatch he
  | invalid e hencode =>
    intro e' he
    rw [← Except.error.inj he]
    exact encode_not_sizeError hsize hencode
  | refused e hrefused =>
    intro e' he
    have hos := hfailure e hrefused
    rw [Except.error.inj he] at hos
    rintro (rfl | rfl)
    · cases hos
    · cases hos

end send

/-! ## The sending paths -/

/-- The code that sends a TUN packet: an endpoint with or without a cipher, or the server,
whose sessions all have one. -/
inductive SendPath where
  | tunnel (encrypted : Bool)
  | server

/-- The longest packet of a path. -/
def SendPath.limit : SendPath → ℕ
  | .tunnel false => maxPayloadSize
  | .tunnel true | .server => maxPayloadSize - aesGcmTagSize

/-- No packet within the MTU meets a size error on the path, whatever the state of the engine
and however `sendto` ends. -/
def SizesAgree (P : Primitives) (τ : Type) (mtu : ℤ) : SendPath → Prop
  | .tunnel encrypted => ∀ (engine : TunnelEngine τ) messageType packet failure,
      engine.cipher.isSome = encrypted → (packet.length : ℤ) ≤ mtu →
      (∀ e, failure = some e → e.isOSError) →
      NoSizeError (TunnelEngine.sendPacket P messageType (tunRead packet) failure engine).result
  | .server => ∀ (engine : MultiClientServerEngine) packet failure,
      (packet.length : ℤ) ≤ mtu → (∀ e, failure = some e → e.isOSError) →
      NoSizeError ((MultiClientServerEngine.handleTunPacket P (tunRead packet) failure :
        Program PyError (ServerEffect τ Empty) MultiClientServerEngine Bool) engine).result

section paths

variable {P : Primitives} {τ : Type}

/-- `_send_packet` of a packet within the limit. -/
theorem sendPacket_sizes (hA : P.LawfulAead) (hH : P.LawfulHkdf) (engine : TunnelEngine τ)
    (messageType : MessageType) {payload : Bytes}
    (hsize : payload.length ≤ (SendPath.tunnel engine.cipher.isSome).limit)
    {failure : Option PyError} (hfailure : ∀ e, failure = some e → e.isOSError) :
    wp (TunnelEngine.sendPacket P messageType payload failure) engine
      (fun r _ _ => NoSizeError r) := by
  unfold TunnelEngine.sendPacket
  rw [wp_read_bind]
  by_cases hlast : engine.sequenceNumber > maxSequenceNumber
  · rw [if_pos hlast, wp_raise_bind]
    rintro e he
    rw [← Except.error.inj he]
    decide
  rw [if_neg hlast]
  -- the packet that is sent fits, encrypted or as it is
  have hsend : ∀ packet engine', packet.payload.length ≤ maxPayloadSize →
      wp ((transportSend ⟨messageType, engine.sessionId, engine.sequenceNumber, payload⟩ packet
        engine.remoteAddress failure >>= fun _ => update fun self =>
          { self with sequenceNumber := self.sequenceNumber + 1 } :
            Program PyError (Effect τ) (TunnelEngine τ) Unit)) engine'
        (fun r _ _ => NoSizeError r) := by
    intro packet engine' hfits
    rw [wp_bind]
    refine wp_mono (transportSend_sizes hfits hfailure engine.remoteAddress engine') ?_
    rintro (e | ⟨⟩) engine'' t' hsent
    · exact hsent
    · exact fun e he => nomatch he
  cases hcipher : engine.cipher with
  | none =>
    rw [hcipher] at hsize
    simp only
    exact hsend ⟨messageType, engine.sessionId, engine.sequenceNumber, payload⟩ engine hsize
  | some cipher =>
    rw [hcipher] at hsize
    simp only
    rw [wp_bind, TunnelEngine.onCipher, wp_zoom]
    refine wp_mono (encrypt_sizes hA hH cipher (Nat.not_lt.1 hlast) hsize) ?_
    rintro (e | packet) cipher' t hfits
    · intro e' he
      rw [← Except.error.inj he]
      exact hfits
    · exact hsend packet _ hfits

/-- `handle_tun_packet` of a packet within the limit. -/
theorem handleTunPacket_sizes (hA : P.LawfulAead) (hH : P.LawfulHkdf)
    (engine : MultiClientServerEngine) {payload : Bytes}
    (hsize : payload.length ≤ SendPath.server.limit)
    {failure : Option PyError} (hfailure : ∀ e, failure = some e → e.isOSError) :
    wp (MultiClientServerEngine.handleTunPacket P payload failure :
      Program PyError (ServerEffect τ Empty) MultiClientServerEngine Bool) engine
      (fun r _ _ => NoSizeError r) := by
  unfold MultiClientServerEngine.handleTunPacket
  cases hdestination : ipv4Destination payload with
  | error e =>
    simp only [MultiClientServerEngine.ipv4_error (Or.inr hdestination)]
    exact fun e he => by cases he
  | ok destination =>
    simp only
    rw [wp_read_bind]
    cases engine.routes.get? destination with
    | none => exact fun e he => by cases he
    | some ref =>
      simp only
      cases hs : engine.session? ref with
      | none =>
        rw [MultiClientServerEngine.deref, wp_bind, wp_read_bind, hs]
        rintro e he
        rw [← Except.error.inj he]
        decide
      | some session =>
        rw [MultiClientServerEngine.deref_of_session? hs]
        by_cases hlast : session.sendSequence > maxSequenceNumber
        · rw [if_pos hlast]
          rintro e he
          rw [← Except.error.inj he]
          decide
        rw [if_neg hlast]
        rw [wp_bind]
        unfold MultiClientServerEngine.onCipher
        rw [wp_zoom]
        refine wp_mono (encrypt_sizes hA hH session.cipher (Nat.not_lt.1 hlast) hsize) ?_
        rintro (e | packet) cipher t hfits
        · rintro e' he
          rw [← Except.error.inj he]
          exact hfits
        · show wp (lift _ _ >>= _) _ _
          rw [wp_bind, wp_lift]
          refine wp_mono (transportSend_sizes hfits hfailure session.remoteAddress _) ?_
          rintro (e | ⟨⟩) engine'' t' hsent
          · exact fun e' he => hsent e' (congrArg Except.error (Except.error.inj he))
          · exact fun e he => by cases he

/-- A cipher object refuses a payload past the limit. -/
theorem encrypt_oversized (hA : P.LawfulAead) (hH : P.LawfulHkdf) (cipher : Cipher)
    {packet : Packet} (hp : packet.HeaderInRange)
    (hsize : maxPayloadSize - aesGcmTagSize < packet.payload.length) :
    wp (Cipher.encrypt P packet) cipher (fun r _ _ =>
      r = .error (.valueError "plaintext is too large for an encrypted UDP packet")) := by
  refine wp_mono (encrypt_result hA hH cipher hp) ?_
  intro r cipher' t hr
  rw [if_pos hsize] at hr
  exact hr

/-- `_send_packet` of a packet past the limit raises a size error in every state. -/
theorem sendPacket_oversized (hA : P.LawfulAead) (hH : P.LawfulHkdf) (engine : TunnelEngine τ)
    (hsession : engine.sessionId ≤ 0xFFFFFFFF) (hnumber : engine.sequenceNumber ≤ maxSequenceNumber)
    (messageType : MessageType) {payload : Bytes}
    (hsize : (SendPath.tunnel engine.cipher.isSome).limit < payload.length)
    (failure : Option PyError) :
    wp (TunnelEngine.sendPacket P messageType payload failure) engine
      (fun r _ _ => ¬ NoSizeError r) := by
  unfold TunnelEngine.sendPacket
  rw [wp_read_bind, if_neg (Nat.not_lt.2 hnumber)]
  cases hcipher : engine.cipher with
  | none =>
    rw [hcipher] at hsize
    have hencode : Packet.encode ⟨messageType, engine.sessionId, engine.sequenceNumber, payload⟩
        = .error (.valueError "payload is too large") := encode_of_large hsession hnumber hsize
    simp only
    rw [wp_pure_bind, transportSend, hencode]
    exact fun h => h _ rfl (Or.inr rfl)
  | some cipher =>
    rw [hcipher] at hsize
    simp only
    rw [wp_bind, TunnelEngine.onCipher, wp_zoom]
    refine wp_mono (encrypt_oversized hA hH cipher ⟨?_, ?_⟩ hsize) ?_
    · show engine.sessionId < 2 ^ 32
      omega
    · show engine.sequenceNumber < 2 ^ 64
      simp only [maxSequenceNumber] at hnumber
      omega
    · rintro r cipher' t rfl
      exact fun h => h _ rfl (Or.inl rfl)

/-- `handle_tun_packet` of a packet past the limit raises a size error in every state in which
the packet has a session. -/
theorem handleTunPacket_oversized (hA : P.LawfulAead) (hH : P.LawfulHkdf)
    (engine : MultiClientServerEngine) {payload : Bytes} {destination : IPv4Address} {ref : ℕ}
    {session : ClientSession} (hdestination : ipv4Destination payload = .ok destination)
    (hroute : engine.routes.get? destination = some ref) (hs : engine.session? ref = some session)
    (hsession : session.sessionId ≤ 0xFFFFFFFF) (hnumber : session.sendSequence ≤ maxSequenceNumber)
    (hsize : SendPath.server.limit < payload.length) (failure : Option PyError) :
    wp (MultiClientServerEngine.handleTunPacket P payload failure :
      Program PyError (ServerEffect τ Empty) MultiClientServerEngine Bool) engine
      (fun r _ _ => ¬ NoSizeError r) := by
  unfold MultiClientServerEngine.handleTunPacket
  rw [hdestination]
  simp only
  rw [wp_read_bind]
  simp only [hroute]
  rw [MultiClientServerEngine.deref_of_session? hs, if_neg (Nat.not_lt.2 hnumber), wp_bind,
    MultiClientServerEngine.onCipher, wp_zoom]
  refine wp_mono (encrypt_oversized hA hH session.cipher ⟨?_, ?_⟩ hsize) ?_
  · show session.sessionId < 2 ^ 32
    omega
  · show session.sendSequence < 2 ^ 64
    simp only [maxSequenceNumber] at hnumber
    omega
  · rintro r cipher' t rfl
    exact fun h => h _ rfl (Or.inl rfl)

end paths

/-! ## An engine and a packet for every size -/

/-- A cipher without rotation. -/
def sizeCipher : Cipher :=
  .packetCipher ⟨List.replicate 32 3, List.replicate 32 4, by decide, by decide⟩

/-- A new engine. -/
def sizeEngine (τ : Type) [Zero τ] (encrypted : Bool) : TunnelEngine τ where
  remoteAddress := ⟨.ofOctets 192 0 2 2, 51820⟩
  sessionId := 1
  sequenceNumber := 0
  cipher := if encrypted then some sizeCipher else none
  replayWindow := .default
  keepaliveInterval := 0
  livenessTimeout := 0
  lastAuthenticatedReceive := 0
  nextKeepalive := 0

/-- A new session of the client with tunnel address `10.8.0.2`. -/
def sizeSession : ClientSession :=
  ⟨⟨.ofOctets 192 0 2 7, 51820⟩, .ofOctets 10 8 0 2, 1, sizeCipher, 0, .default⟩

/-- A server with one session. -/
def sizeServer : MultiClientServerEngine where
  objects := [sizeSession]
  sessions := .insert .empty sizeSession.key 0
  routes := .insert .empty sizeSession.tunnelAddress 0

/-- An IPv4 packet of `20 + n` bytes to `10.8.0.2`. -/
def sizedPacket (n : ℕ) : Bytes :=
  [0x45, 0, 0, 0, 0, 0, 0, 0, 64, 17, 0, 0, 10, 8, 0, 1, 10, 8, 0, 2] ++ List.replicate n 0

theorem length_sizedPacket (n : ℕ) : (sizedPacket n).length = 20 + n := by
  rw [sizedPacket, List.length_append, List.length_replicate]
  rfl

theorem ipv4Destination_sizedPacket (n : ℕ) :
    ipv4Destination (sizedPacket n) = .ok (.ofOctets 10 8 0 2) := by
  have hvalid : validateIpv4Packet (sizedPacket n) = .ok () := by
    unfold validateIpv4Packet
    rw [length_sizedPacket]
    have hhead : (sizedPacket n).headD 0 = 0x45 := rfl
    rw [hhead, if_neg, if_neg]
    · have hheader : (0x45 &&& 0x0F : UInt8).toNat * 4 = 20 := by decide
      rw [hheader]
      omega
    · rintro (hshort | hversion)
      · omega
      · exact hversion (by decide)
  rw [ipv4Destination, hvalid]
  rfl

/-- Past its limit, a path meets a size error. -/
theorem not_sizesAgree {P : Primitives} (hA : P.LawfulAead) (hH : P.LawfulHkdf) (τ : Type)
    [Zero τ] {mtu : ℤ} {path : SendPath} (hlimit : (path.limit : ℤ) < mtu) :
    ¬ SizesAgree P τ mtu path := by
  intro h
  have hlarge : 20 ≤ path.limit ∧ path.limit < defaultPacketSize := by
    rcases path with (encrypted | encrypted) | -
    · decide
    · decide
    · decide
  -- one byte more than the limit, which one read of the TUN device still returns
  have hlength : (sizedPacket (path.limit - 19)).length = path.limit + 1 := by
    rw [length_sizedPacket]
    omega
  have hread : tunRead (sizedPacket (path.limit - 19)) = sizedPacket (path.limit - 19) := by
    apply List.take_of_length_le
    omega
  cases path with
  | tunnel encrypted =>
    have hcipher : (sizeEngine τ encrypted).cipher.isSome = encrypted := by
      cases encrypted <;> rfl
    have hfails := h (sizeEngine τ encrypted) .data _ none hcipher (by rw [hlength]; omega) nofun
    rw [hread] at hfails
    refine sendPacket_oversized hA hH (sizeEngine τ encrypted) ?_ (Nat.zero_le _) .data
      ?_ none hfails
    · show 1 ≤ 0xFFFFFFFF
      decide
    · rw [hcipher, hlength]
      exact Nat.lt_succ_self _
  | server =>
    have hfails := h sizeServer _ none (by rw [hlength]; omega) nofun
    rw [hread] at hfails
    have hsession : sizeServer.session? 0 = some sizeSession := rfl
    refine handleTunPacket_oversized hA hH sizeServer (ipv4Destination_sizedPacket _)
      (OrderedDict.get?_insert_self ..) hsession ?_ (Nat.zero_le _) ?_ none hfails
    · show 1 ≤ 0xFFFFFFFF
      decide
    · rw [hlength]
      exact Nat.lt_succ_self _

/-- **The size limits.** A packet within an accepted MTU is read whole, and it is never too
large to be sent exactly for the MTUs up to the limit of the sending path. -/
theorem size_limits_iff {P : Primitives} (hA : P.LawfulAead) (hH : P.LawfulHkdf) (τ : Type)
    [Zero τ] {mtu : ℤ} (h : AcceptedMtu mtu) (path : SendPath) :
    (∀ packet : Bytes, (packet.length : ℤ) ≤ mtu → tunRead packet = packet) ∧
      (SizesAgree P τ mtu path ↔ mtu ≤ path.limit) := by
  refine ⟨fun packet => tunRead_of_accepted h, ?_⟩
  constructor
  · intro hagree
    by_contra hlimit
    exact not_sizesAgree hA hH τ (Int.not_le.1 hlimit) hagree
  · intro hlimit
    cases path with
    | tunnel encrypted =>
      rintro engine messageType packet failure rfl hsize hfailure
      rw [tunRead_of_accepted h hsize]
      exact sendPacket_sizes hA hH engine messageType (by omega) hfailure
    | server =>
      intro engine packet failure hsize hfailure
      rw [tunRead_of_accepted h hsize]
      exact handleTunPacket_sizes hA hH engine (by omega) hfailure

/-- The MTU of the witness is accepted by `configure_tun`. -/
theorem size_limits_sample :
    (∀ packet : Bytes, (packet.length : ℤ) ≤ 1400 → tunRead packet = packet) ∧
      (SizesAgree sample ℤ 1400 .server ↔ (1400 : ℤ) ≤ SendPath.server.limit) :=
  size_limits_iff sample_lawfulAead sample_lawfulHkdf ℤ (Or.inr (Or.inr rfl)) .server

/-- An endpoint document with an MTU of 65535. -/
def largeMtuDocument : Json := .object [("tun_address", .string "10.0.0.1/30"),
  ("bind", .string "192.0.2.1:51820"), ("peer", .string "192.0.2.2:51820"), ("mtu", .int 65535)]

/-- `load_config` accepts an MTU that no sending path has room for. -/
theorem size_limits_disagree :
    ¬ ∀ mtu, AcceptedMtu mtu → ∀ path, SizesAgree sample ℤ mtu path := by
  intro h
  have hload : (loadConfig (fun _ => .ok largeMtuDocument) (.ofText [])).toOption.map
      (·.mtu) = some 65535 := by
    decide +kernel
  obtain ⟨config, hconfig, hmtu⟩ := Option.map_eq_some_iff.1 hload
  have haccepted : AcceptedMtu 65535 :=
    Or.inl ⟨fun _ => .ok largeMtuDocument, .ofText [], config, eq_ok_of_toOption hconfig, hmtu⟩
  have hlimit : ((SendPath.tunnel true).limit : ℤ) < 65535 := by decide
  exact not_sizesAgree sample_lawfulAead sample_lawfulHkdf ℤ hlimit (h 65535 haccepted _)

end MatfVpn
