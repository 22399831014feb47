/-
# Processes whose surroundings are silent, and the steps of a handshake

* `Phase.Sound.quiet_handshake`, `InSession.quiet_running` : a process to which nothing arrives;
* `Phase.client_starts`, `Phase.server_starts`, `Phase.server_answers`, `Phase.client_finishes` :
  the steps of a handshake without loss.
-/
import MatfVpn.LossyPair

namespace MatfVpn

open Program

/-! ## Silent surroundings -/

/-- Nothing arrives and nothing fails; the clock shows `now`, and `later` at the end. -/
def ProcessInput.quiet {τ : Type} (now later : τ) : ProcessInput τ where
  bindFailure := none
  entropy := ⟨0, BigEndian.toBytes 32 0, BigEndian.toBytes 32 0, by decide,
    BigEndian.length_toBytes _ _, BigEndian.length_toBytes _ _⟩
  serverEntropy := ⟨BigEndian.toBytes 32 0, BigEndian.toBytes 32 0,
    BigEndian.length_toBytes _ _, BigEndian.length_toBytes _ _⟩
  receiveFailure := none
  sendFailure := none
  tunDevice := .ok ""
  ipAddress := none
  ipLink := none
  startClock := now
  iteration := {
    selectClock := now
    tunRead := none
    tunSendFailure := none
    udpReceive := none
    receiveClock := now
    tunWrite payload := .ok payload.length
    loopClock := later
    keepaliveSendFailure := none }
  selectClock := later

theorem ProcessInput.quiet_healthy {τ : Type} (now later : τ) :
    (ProcessInput.quiet now later).Healthy :=
  ⟨rfl, rfl, rfl, ⟨"", rfl⟩, rfl, rfl, nofun, rfl, fun _ => rfl, rfl⟩

/-- The phase when an attempt of a handshake received nothing. -/
def Phase.nextAttempt {τ : Type} : Phase τ → Phase τ
  | .helloSent hello state (attempts + 1) => .helloSent hello state attempts
  | .awaitingHello (attempts + 1) => .awaitingHello attempts
  | _ => .apart

namespace Phase

variable {τ : Type} {phase : Phase τ}

/-- The attempts of a handshake that are left. -/
def attemptsLeft : Phase τ → ℕ
  | .helloSent _ _ attempts => attempts + 1
  | .awaitingHello attempts => attempts + 1
  | _ => 0

/-- A process that has no attempts left is in no handshake. -/
theorem eq_apart_of_attemptsLeft (hphase : ∀ engine, phase ≠ .running engine)
    (h : phase.attemptsLeft = 0) : phase = .apart := by
  cases phase with
  | apart => rfl
  | running engine => exact absurd rfl (hphase engine)
  | helloSent hello state attempts => cases h
  | awaitingHello attempts => cases h

/-- An attempt of a handshake waits at a socket, and the next one is one less. -/
theorem nextAttempt_of_attemptsLeft {n : ℕ} (h : phase.attemptsLeft = n + 1) :
    phase.isBound ∧ (∀ engine, phase.nextAttempt ≠ .running engine) ∧
      phase.nextAttempt.attemptsLeft = n := by
  cases phase with
  | apart => cases h
  | running engine => cases h
  | helloSent hello state attempts =>
      obtain rfl := Nat.succ.inj h
      refine ⟨rfl, ?_, ?_⟩
      · cases attempts <;> exact nofun
      · cases attempts <;> rfl
  | awaitingHello attempts =>
      obtain rfl := Nat.succ.inj h
      refine ⟨rfl, ?_, ?_⟩
      · cases attempts <;> exact nofun
      · cases attempts <;> rfl

end Phase

section quiet

variable {τ : Type} {P : Primitives} {W : WaitCalls τ} {options : EndpointConfig τ}
  {privateKey peerKey : Bytes} {role : EndpointRole} {packetsPerKey : ℕ}

/-- A hello can be encoded. -/
theorem encodable_of_createClientHello (hM : P.LawfulHmac) (hX : P.LawfulX25519)
    {entropy : ClientEntropy} {hello : Packet} {state : ClientHandshakeState}
    (h : createClientHello P privateKey peerKey entropy = .ok (hello, state)) :
    hello.Encodable := by
  obtain ⟨secret, body, -, hbody, rfl, -⟩ := createClientHello_ok h
  refine ⟨entropy.sessionId_lt, Nat.two_pow_pos 64, ?_⟩
  rw [List.length_append, hbody, List.length_append, hX.length_public,
    entropy.length_clientRandom, authenticationTag, hM.length_hmac]
  decide

variable [Zero τ] [Add τ] [Sub τ] [LT τ] [LE τ] [DecidableEq τ] [DecidableLT τ] [DecidableLE τ]

/-- **An attempt without a message** is followed by the next one, or by a new session. -/
theorem Phase.Sound.quiet_handshake (hM : P.LawfulHmac) (hX : P.LawfulX25519) {phase : Phase τ}
    (h : phase.Sound P options privateKey peerKey role packetsPerKey) (now later : τ)
    (hphase : ∀ engine, phase ≠ .running engine) (hbound : phase.isBound)
    (hsleep : W.sleep options.reconnectDelay = none) :
    Phase.ofResult W options
      (Phase.next P W options privateKey peerKey (.quiet now later) none phase ()).result
        = some phase.nextAttempt := by
  cases phase with
  | apart => cases hbound
  | running engine => exact absurd rfl (hphase engine)
  | awaitingHello attempts =>
      cases attempts with
      | zero => exact if_pos ⟨rfl, hsleep⟩
      | succ attempts => rfl
  | helloSent hello state attempts =>
      cases attempts with
      | zero => exact if_pos ⟨rfl, hsleep⟩
      | succ attempts =>
          obtain ⟨-, entropy, hcreate⟩ := h
          obtain ⟨data, hdata⟩ :=
            Packet.encode_of_encodable (encodable_of_createClientHello hM hX hcreate)
          show Phase.ofResult W options ((lift .effect
            (transportSend hello hello options.peer none) >>= fun _ =>
              pure (.helloSent hello state attempts) :
              Program PyError (SessionEffect τ) Unit _) ()).result = _
          rw [transportSend, hdata]
          rfl

omit [LT τ] [DecidableLT τ] in
/-- A late liveness check raises, also after a keepalive. -/
theorem checkTimers_late (hA : P.LawfulAead) (hH : P.LawfulHkdf) {engine : TunnelEngine τ}
    (h : engine.InSession P options role packetsPerKey)
    (hinterval : options.keepaliveInterval ≠ 0)
    (hsend : engine.sequenceNumber ≤ maxSequenceNumber) {input : IterationInput τ}
    (hfailure : input.keepaliveSendFailure = none)
    (hlate : engine.livenessTimeout ≤ input.loopClock - engine.lastAuthenticatedReceive) :
    wp (TunnelEngine.checkTimers P input) engine fun r _ _ => r = .error livenessTimeoutError := by
  obtain ⟨secret, sessionId, log, huses⟩ := h.uses
  have hraises : ∀ engine' : TunnelEngine τ, engine'.livenessTimeout = engine.livenessTimeout →
      engine'.lastAuthenticatedReceive = engine.lastAuthenticatedReceive →
      wp (TunnelEngine.checkLiveness input.loopClock) engine'
        fun r _ _ => r = .error livenessTimeoutError := by
    intro engine' htimeout hreceive
    refine wp_mono (TunnelEngine.checkLiveness_spec engine' input.loopClock) ?_
    rintro r engine'' t ⟨-, -, rfl⟩
    rw [htimeout, hreceive]
    exact if_pos hlate
  rw [TunnelEngine.checkTimers_eq, wp_read_bind,
    if_pos (by rw [h.interval]; exact hinterval)]
  by_cases hdue : engine.nextKeepalive ≤ input.loopClock
  · rw [if_pos hdue, wp_bind, hfailure]
    refine wp_mono (TunnelEngine.sendPacket_spec hA hH huses .keepalive [] none) ?_
    rintro r engine' t ⟨c, n, calls, rfl, -, -, hends⟩
    cases hends with
    | exhausted hmax _ => exact absurd hsend (Nat.not_le.2 hmax)
    | tooLarge hbig _ => exact absurd hbig (Nat.not_lt_zero _)
    | failed e hfail _ _ _ => cases hfail
    | sent data _ _ _ _ _ =>
        simp only
        rw [wp_update_bind]
        exact hraises _ rfl rfl
  · rw [if_neg hdue]
    exact hraises engine rfl rfl

/-- **An engine with liveness that receives nothing** raises `TimeoutError`. -/
theorem TunnelEngine.InSession.quiet_running (hA : P.LawfulAead) (hH : P.LawfulHkdf)
    {engine : TunnelEngine τ} (h : engine.InSession P options role packetsPerKey)
    (hinterval : options.keepaliveInterval ≠ 0)
    (hsend : engine.sequenceNumber ≤ maxSequenceNumber) {now later : τ}
    (hlate : engine.livenessTimeout ≤ later - engine.lastAuthenticatedReceive)
    (hsleep : W.sleep options.reconnectDelay = none) :
    Phase.ofResult W options (Phase.next P W options privateKey peerKey (.quiet now later) none
      (.running engine) ()).result = some .apart := by
  have hrun : wp (TunnelEngine.runOnce P ((ProcessInput.quiet now later).iterationInput none)
      none) engine fun r _ _ => r = .error livenessTimeoutError := by
    unfold TunnelEngine.runOnce
    rw [wp_read_bind, wp_emit_bind]
    show wp (pure 0 >>= fun _ => pure 0 >>= _) engine _
    rw [wp_pure_bind, wp_pure_bind, wp_bind]
    refine wp_mono (checkTimers_late hA hH h hinterval hsend rfl hlate) ?_
    rintro r engine' t rfl
    exact rfl
  suffices hnext : wp (Phase.next P W options privateKey peerKey (.quiet now later) none
      (.running engine)) () fun r _ _ => r = .error livenessTimeoutError by
    rw [wp] at hnext
    rw [hnext]
    exact if_pos ⟨rfl, hsleep⟩
  unfold Phase.next
  rw [wp_bind, wp_zoom, wp_bind]
  refine wp_mono hrun ?_
  rintro r engine' t rfl
  exact rfl

end quiet

/-! ## Entering the tunnel -/

section entering

variable {τ : Type} [Zero τ] [LT τ] [LE τ] [DecidableEq τ] [DecidableLT τ] [DecidableLE τ]
  {options : EndpointConfig τ}

/-- The engine of a new session. -/
def newEngine {τ : Type} [Zero τ] [Add τ] (options : EndpointConfig τ) (sessionId : ℕ)
    (cipher : Cipher) (now : τ) : TunnelEngine τ :=
  ⟨options.peer, sessionId, 0, some cipher, .default, options.keepaliveInterval,
    options.livenessTimeout, now, now + options.keepaliveInterval⟩

/-- **A validated profile enters the tunnel** when nothing fails and `select` takes its timeout. -/
theorem enterTunnel_returns [Add τ] [Sub τ] {W : WaitCalls τ} (h : options.validate = .ok ())
    (hname : Char.ofNat 0 ∉ options.tunName.toList) {sessionId : ℕ} (hlt : sessionId < 2 ^ 32)
    (cipher : Cipher) {now later : τ}
    (hselect : ((newEngine options sessionId cipher now).selectTimeout later none).bind W.select
      = none) :
    enterTunnel W options (.quiet now later) sessionId cipher ()
      = ⟨.ok (.running (newEngine options sessionId cipher now)), (), []⟩ := by
  obtain ⟨hnumbers, -⟩ := EndpointConfig.validate_ok h
  simp only [EndpointConfig.validateNumbers, ite_error_eq_ok] at hnumbers
  obtain ⟨hmtu, -, -, -, hnegative, htogether, hgreater, -⟩ := hnumbers
  have htun : newTunDevice options.tunName (ProcessInput.quiet now later).tunDevice = .ok "" := by
    rw [newTunDevice_of_validate h, if_neg hname]
    rfl
  have hconfigure : configureTun options.mtu (ProcessInput.quiet now later).ipAddress
      (ProcessInput.quiet now later).ipLink = .ok () := by
    unfold configureTun
    rw [if_neg hmtu]
    rfl
  have hsession : ¬ ¬ (0 ≤ (sessionId : ℤ) ∧ (sessionId : ℤ) ≤ 0xFFFFFFFF) := by omega
  have hnew : TunnelEngine.new options.peer sessionId (some cipher) options.keepaliveInterval
      options.livenessTimeout (ProcessInput.quiet now later).startClock
        = .ok (newEngine options sessionId cipher now) := by
    unfold TunnelEngine.new
    rw [if_neg hsession, if_neg hnegative, if_neg htogether, if_neg hgreater]
    rfl
  unfold enterTunnel
  rw [htun, hconfigure, hnew]
  show awaitSelect W (newEngine options sessionId cipher now) later () = _
  unfold awaitSelect
  rw [hselect]
  rfl

end entering

/-! ## The steps of a handshake -/

section handshake

variable {τ : Type} [Zero τ] [Add τ] [Sub τ] [LT τ] [LE τ] [DecidableEq τ] [DecidableLT τ]
  [DecidableLE τ] {P : Primitives} {W : WaitCalls τ} {options : EndpointConfig τ}
  {privateKey peerKey : Bytes} {packetsPerKey : ℕ} {now later : τ}

/-- The client sends its hello. -/
theorem Phase.client_starts (hrole : options.role = some .client)
    (htimeout : W.settimeout options.handshakeTimeout = none) {hello : Packet}
    {state : ClientHandshakeState} {data : Bytes}
    (hcreate : createClientHello P privateKey peerKey (ProcessInput.quiet now later).entropy
      = .ok (hello, state)) (hdata : hello.encode = .ok data) :
    Phase.next P W options privateKey peerKey (.quiet now later) none .apart ()
      = ⟨.ok (.helloSent hello state 2), (), [.effect (.send hello data options.peer)]⟩ := by
  unfold Phase.next
  rw [if_pos hrole, hcreate, htimeout]
  show ((lift SessionEffect.effect (transportSend hello hello options.peer none) >>= fun _ =>
    pure (Phase.helloSent hello state 2)) : Program PyError (SessionEffect τ) Unit _) () = _
  rw [transportSend, hdata]
  rfl

/-- The server waits for a hello. -/
theorem Phase.server_starts (hrole : options.role = some .server)
    (htimeout : W.settimeout options.handshakeTimeout = none) :
    Phase.next P W options privateKey peerKey (.quiet now later) none .apart ()
      = ⟨.ok (.awaitingHello 2), (), []⟩ := by
  unfold Phase.next
  rw [if_neg (by rw [hrole]; decide), htimeout]
  rfl

omit [Zero τ] [Add τ] [Sub τ] [LT τ] [LE τ] [DecidableEq τ] [DecidableLT τ] [DecidableLE τ] in
/-- The cipher of a session, with the calls that derive its keys. -/
theorem sessionCipher_of_createCipher {secret : Bytes} {sessionId : ℕ} {role : EndpointRole}
    {key : ℤ} {cipher : Cipher}
    (h : (createCipher P secret sessionId role key ()).result = .ok cipher) :
    ∃ calls : List CryptoCall, (sessionCipher P secret sessionId role key :
      Program PyError (SessionEffect τ) Unit _) ()
        = ⟨.ok cipher, (), calls.map fun call => .effect (.crypto call)⟩ := by
  refine ⟨(createCipher P secret sessionId role key ()).trace, ?_⟩
  unfold sessionCipher lift zoom
  rw [← h]

omit [Zero τ] [Add τ] [Sub τ] [LT τ] [LE τ] [DecidableEq τ] [DecidableLT τ] [DecidableLE τ] in
/-- A receive call in a handshake, for a datagram that encodes a packet. -/
theorem receive_of_encode {packet : Packet} {data : Bytes} (h : packet.encode = .ok data)
    (source : Address) :
    (attempt (lift SessionEffect.effect (transportReceive (.ok (data, source)))) :
      Program PyError (SessionEffect τ) Unit _) ()
        = ⟨.ok (.ok (packet, source)), (), [.effect (.receive data source)]⟩ := by
  unfold attempt lift zoom
  rw [transportReceive_of_encode h]
  rfl

omit [Zero τ] [Add τ] [Sub τ] [LT τ] [LE τ] [DecidableEq τ] [DecidableLT τ] [DecidableLE τ] in
/-- A send in a handshake. -/
theorem send_of_encode {packet : Packet} {data : Bytes} (h : packet.encode = .ok data)
    (destination : Address) :
    (lift SessionEffect.effect (transportSend packet packet destination none) :
      Program PyError (SessionEffect τ) Unit _) ()
        = ⟨.ok (), (), [.effect (.send packet data destination)]⟩ := by
  unfold lift zoom
  rw [transportSend_of_encode h]
  rfl

omit [Zero τ] [Add τ] [Sub τ] [LT τ] [LE τ] [DecidableEq τ] [DecidableLT τ] [DecidableLE τ] in
/-- The server accepts a hello and answers it. -/
theorem serverAttempt_returns {remote : Address} {key : ℤ} {hello response : Packet}
    {data answer secret : Bytes} {entropy : ServerEntropy} {cipher : Cipher}
    (hdata : hello.encode = .ok data)
    (haccept : acceptClientHello P hello privateKey peerKey entropy = .ok (response, secret))
    (hanswer : response.encode = .ok answer)
    (hcipher : (createCipher P secret hello.sessionId .server key ()).result = .ok cipher) :
    ∃ t, (serverAttempt P remote privateKey peerKey key ⟨none, .ok (data, remote), entropy⟩ :
        Program PyError (SessionEffect τ) Unit _) ()
          = ⟨.ok (some (hello.sessionId, cipher)), (), t⟩ ∧ Pair.sentTo remote t = [answer] := by
  obtain ⟨calls, hcalls⟩ := sessionCipher_of_createCipher (τ := τ) hcipher
  refine ⟨[.effect (.receive data remote)] ++ ([.derived ⟨hello.sessionId, hello.payload,
    response.payload, secret⟩] ++ ([.effect (.send response answer remote)] ++
      ((calls.map fun call => .effect (.crypto call)) ++ []))), ?_, ?_⟩
  · unfold serverAttempt
    rw [bind_of_ok (receive_of_encode hdata remote)]
    simp only [ne_eq, not_true_eq_false, if_false, haccept]
    rw [bind_of_ok (show emit _ () = _ from rfl), bind_of_ok (send_of_encode hanswer remote),
      bind_of_ok hcalls]
    rfl
  · simp [Pair.sentTo_send]

omit [Zero τ] [Add τ] [Sub τ] [LT τ] [LE τ] [DecidableEq τ] [DecidableLT τ] [DecidableLE τ] in
/-- The client finishes with the response. -/
theorem clientReceive_returns {remote : Address} {key : ℤ} {state : ClientHandshakeState}
    {response : Packet} {answer secret : Bytes} {cipher : Cipher}
    (hanswer : response.encode = .ok answer)
    (hfinish : finishClientHandshake P state response = .ok secret)
    (hcipher : (createCipher P secret state.sessionId .client key ()).result = .ok cipher) :
    ∃ t, (clientReceive P remote state key (.ok (answer, remote)) :
        Program PyError (SessionEffect τ) Unit _) ()
          = ⟨.ok (some (state.sessionId, cipher)), (), t⟩ ∧ Pair.sentTo remote t = [] := by
  obtain ⟨calls, hcalls⟩ := sessionCipher_of_createCipher (τ := τ) hcipher
  refine ⟨[.effect (.receive answer remote)] ++ ([.derived ⟨state.sessionId,
    state.clientHelloPayload, response.payload, secret⟩] ++
      ((calls.map fun call => .effect (.crypto call)) ++ [])), ?_, ?_⟩
  · unfold clientReceive
    rw [bind_of_ok (receive_of_encode hanswer remote)]
    simp only [ne_eq, not_true_eq_false, if_false, hfinish]
    rw [bind_of_ok (show emit _ () = _ from rfl), bind_of_ok hcalls]
    rfl
  · simp

/-- **The server answers a hello** and enters the tunnel. -/
theorem Phase.server_answers (now later : τ) (hvalid : options.validate = .ok ())
    (hname : Char.ofNat 0 ∉ options.tunName.toList) {hello response : Packet}
    {data answer secret : Bytes} {cipher : Cipher} (hdata : hello.encode = .ok data)
    (haccept : acceptClientHello P hello privateKey peerKey
      (ProcessInput.quiet now later).serverEntropy = .ok (response, secret))
    (hanswer : response.encode = .ok answer) (hlt : hello.sessionId < 2 ^ 32)
    (hcipher : (createCipher P secret hello.sessionId .server options.packetsPerKey ()).result
      = .ok cipher)
    (hselect : ((newEngine options hello.sessionId cipher now).selectTimeout later none).bind
      W.select = none) (attempts : ℕ) :
    ∃ t, Phase.next P W options privateKey peerKey (.quiet now later) (some (data, options.peer))
        (.awaitingHello attempts) ()
          = ⟨.ok (.running (newEngine options hello.sessionId cipher now)), (), t⟩ ∧
      Pair.sentTo options.peer t = [answer] := by
  obtain ⟨t, hattempt, hsent⟩ :=
    serverAttempt_returns (τ := τ) hdata haccept hanswer hcipher
  refine ⟨t ++ [], ?_, ?_⟩
  · unfold Phase.next
    show (serverAttempt P options.peer privateKey peerKey options.packetsPerKey
      ⟨none, .ok (data, options.peer), (ProcessInput.quiet now later).serverEntropy⟩ >>= _) () = _
    rw [bind_of_ok hattempt]
    simp only [enterTunnel_returns hvalid hname hlt cipher hselect]
    rfl
  · rw [List.append_nil]
    exact hsent

/-- **The client finishes a handshake** and enters the tunnel. -/
theorem Phase.client_finishes (now later : τ) (hvalid : options.validate = .ok ())
    (hname : Char.ofNat 0 ∉ options.tunName.toList) (hello : Packet) {response : Packet}
    {state : ClientHandshakeState} {answer secret : Bytes} {cipher : Cipher}
    (hanswer : response.encode = .ok answer)
    (hfinish : finishClientHandshake P state response = .ok secret)
    (hlt : state.sessionId < 2 ^ 32)
    (hcipher : (createCipher P secret state.sessionId .client options.packetsPerKey ()).result
      = .ok cipher)
    (hselect : ((newEngine options state.sessionId cipher now).selectTimeout later none).bind
      W.select = none) (attempts : ℕ) :
    ∃ t, Phase.next P W options privateKey peerKey (.quiet now later) (some (answer, options.peer))
        (.helloSent hello state attempts) ()
          = ⟨.ok (.running (newEngine options state.sessionId cipher now)), (), t⟩ ∧
      Pair.sentTo options.peer t = [] := by
  obtain ⟨t, hattempt, hsent⟩ :=
    clientReceive_returns (τ := τ) hanswer hfinish hcipher
  refine ⟨t ++ [], ?_, ?_⟩
  · unfold Phase.next
    show (clientReceive P options.peer state options.packetsPerKey
      (.ok (answer, options.peer)) >>= _) () = _
    rw [bind_of_ok hattempt]
    simp only [enterTunnel_returns hvalid hname hlt cipher hselect]
    rfl
  · rw [List.append_nil]
    exact hsent

end handshake

end MatfVpn
