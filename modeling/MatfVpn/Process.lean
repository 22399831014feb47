/-
# The steps of a process

A process with an ephemeral handshake between two calls that wait: `time.sleep` in
`run_with_reconnect`, `recvfrom` in a handshake, and `select` in the engine.

* `Phase.next` : what the process does until it waits again;
* `Phase.Sound` : what holds of a process whenever it waits, `Sound.next`.
-/
import MatfVpn.CipherPair
import MatfVpn.EndpointSessions
import MatfVpn.HandshakeAttempts
import MatfVpn.Link

namespace MatfVpn

open Program

/-! ## Calls that take a number of seconds -/

/-- What a call raises for a number of seconds that it refuses: `ValueError` for NaN, and
`OverflowError` for too many seconds. -/
inductive WaitError where
  | valueError (message : String)
  | overflowError (message : String)
  deriving DecidableEq, Repr

/-- The exception. -/
def WaitError.toPyError : WaitError → PyError
  | valueError message => .valueError message
  | overflowError message => .overflowError message

/-- The numbers of seconds that the calls of a machine refuse. -/
structure WaitCalls (τ : Type) where
  settimeout : τ → Option WaitError
  select : τ → Option WaitError
  sleep : τ → Option WaitError

/-- The call raises if it refuses its number of seconds. -/
def refuses {ε σ : Type} (error : Option WaitError) : Program PyError ε σ Unit :=
  raises (error.map WaitError.toPyError)

/-- A call that does not raise an `OSError` waits. -/
theorem refuses_spec {ε σ : Type} (error : Option WaitError) (s : σ) :
    wp (refuses error : Program PyError ε σ Unit) s fun r s' t => s' = s ∧ t = [] ∧
      (∀ e, r = .error e → e.isOSError = false) ∧ (r = .ok () ↔ error = none) := by
  rcases error with _ | (message | message)
  · exact ⟨rfl, rfl, nofun, iff_of_true rfl rfl⟩
  · refine ⟨rfl, rfl, fun e he => ?_, iff_of_false nofun nofun⟩
    rw [← Except.error.inj he]
    rfl
  · refine ⟨rfl, rfl, fun e he => ?_, iff_of_false nofun nofun⟩
    rw [← Except.error.inj he]
    rfl

/-! ## Phases -/

/-- Where a process waits. -/
inductive Phase (τ : Type) where
  /-- Between two sessions, without a socket. -/
  | apart
  /-- In `run_client_handshake`, with so many attempts left after this one. -/
  | helloSent (hello : Packet) (state : ClientHandshakeState) (attempts : ℕ)
  /-- In `run_server_handshake`, with so many attempts left after this one. -/
  | awaitingHello (attempts : ℕ)
  /-- In `TunnelEngine.run`. -/
  | running (engine : TunnelEngine τ)

/-- What the surroundings answer until the process waits again. -/
structure ProcessInput (τ : Type) where
  /-- The exception of opening and binding the socket, if any. -/
  bindFailure : Option PyError
  entropy : ClientEntropy
  serverEntropy : ServerEntropy
  /-- The exception of `recvfrom`, other than its timeout. -/
  receiveFailure : Option PyError
  /-- The exception of `sendto` in a handshake, if any. -/
  sendFailure : Option PyError
  tunDevice : Except PyError String
  ipAddress : Option PyError
  ipLink : Option PyError
  startClock : τ
  iteration : IterationInput τ
  /-- The clock reading of the next `_select_timeout`. -/
  selectClock : τ

namespace ProcessInput

variable {τ : Type}

/-- What `recvfrom` returns or raises in a handshake, for the datagram that arrives. -/
def arrival (input : ProcessInput τ) : Option (Bytes × Address) → Except PyError (Bytes × Address)
  | some d => .ok d
  | none => .error (input.receiveFailure.getD (.timeoutError "timed out"))

/-- What an iteration of the engine reads. -/
def iterationInput (input : ProcessInput τ) (datagram : Option (Bytes × Address)) :
    IterationInput τ :=
  { input.iteration with
    udpReceive := match datagram with
      | some d => some (.ok d)
      | none => input.receiveFailure.map .error }

end ProcessInput

section phases

variable {τ : Type}

/-- The rest of an attempt of `run_client_handshake`, after it sent the hello. -/
def clientReceive (P : Primitives) (remoteAddress : Address) (state : ClientHandshakeState)
    (packetsPerKey : ℤ) (arrival : Except PyError (Bytes × Address)) :
    Program PyError (SessionEffect τ) Unit (Option (ℤ × Cipher)) := do
  match ← attempt (lift .effect (transportReceive arrival)) with
  | .error e => if retriesReceive e then return none else raise e
  | .ok (response, sender) =>
      if sender ≠ remoteAddress then return none
      else
        match finishClientHandshake P state response with
        | .error e => if e.isValueError then return none else raise e
        | .ok sessionSecret => do
            emit (.derived ⟨state.sessionId, state.clientHelloPayload, response.payload,
              sessionSecret⟩)
            let cipher ← sessionCipher P sessionSecret state.sessionId .client packetsPerKey
            return some (state.sessionId, cipher)

/-- The hello of the next attempt of `run_client_handshake`. -/
def sendHello (options : EndpointConfig τ) (hello : Packet) (state : ClientHandshakeState)
    (failure : Option PyError) : ℕ → Program PyError (SessionEffect τ) Unit (Phase τ)
  | 0 => raise (.timeoutError "authenticated server handshake timed out")
  | attempts + 1 => do
      lift .effect (transportSend hello hello options.peer failure)
      return .helloSent hello state attempts

/-- The next attempt of `run_server_handshake`. -/
def awaitHello : ℕ → Program PyError (SessionEffect τ) Unit (Phase τ)
  | 0 => raise (.timeoutError "authenticated client handshake timed out")
  | attempts + 1 => return .awaitingHello attempts

section run

variable [Zero τ] [Add τ] [Sub τ] [LT τ] [LE τ] [DecidableEq τ] [DecidableLT τ]
  [DecidableLE τ]

/-- The engine calls `select`, at the time `now`; `runOnce` begins with this call. -/
def awaitSelect (W : WaitCalls τ) (engine : TunnelEngine τ) (now : τ) :
    Program PyError (SessionEffect τ) Unit (Phase τ) := do
  refuses ((engine.selectTimeout now none).bind W.select)
  return .running engine

/-- The part of `run_session` between the handshake and the first `select`. -/
def enterTunnel (W : WaitCalls τ) (options : EndpointConfig τ) (input : ProcessInput τ)
    (sessionId : ℤ) (cipher : Cipher) : Program PyError (SessionEffect τ) Unit (Phase τ) := do
  let _ ← ofExcept (newTunDevice options.tunName input.tunDevice)
  ofExcept (configureTun options.mtu input.ipAddress input.ipLink)
  let engine ← ofExcept (TunnelEngine.new options.peer sessionId (some cipher)
    options.keepaliveInterval options.livenessTimeout input.startClock)
  awaitSelect W engine input.selectClock

/-- What a process does until it waits again, in one session. -/
def Phase.next (P : Primitives) (W : WaitCalls τ) (options : EndpointConfig τ)
    (privateKey peerKey : Bytes) (input : ProcessInput τ) (datagram : Option (Bytes × Address)) :
    Phase τ → Program PyError (SessionEffect τ) Unit (Phase τ)
  | .apart => do
      raises input.bindFailure
      refuses (W.settimeout options.handshakeTimeout)
      if options.role = some .client then
        let (hello, state) ← ofExcept (createClientHello P privateKey peerKey input.entropy)
        sendHello options hello state input.sendFailure defaultHandshakeAttempts
      else awaitHello defaultHandshakeAttempts
  | .helloSent hello state attempts => do
      match ← clientReceive P options.peer state options.packetsPerKey
        (input.arrival datagram) with
      | none => sendHello options hello state input.sendFailure attempts
      | some (sessionId, cipher) => enterTunnel W options input sessionId cipher
  | .awaitingHello attempts => do
      match ← serverAttempt P options.peer privateKey peerKey options.packetsPerKey
        ⟨input.sendFailure, input.arrival datagram, input.serverEntropy⟩ with
      | none => awaitHello attempts
      | some (sessionId, cipher) => enterTunnel W options input sessionId cipher
  | .running engine => do
      let engine ← zoom (fun _ => engine) (fun _ s => s) .effect do
        let _ ← TunnelEngine.runOnce P (input.iterationInput datagram) none
        read
      awaitSelect W engine input.selectClock

/-- The phase of a process after a session went so far: `run_with_reconnect` catches an
`OSError` and sleeps, and any other exception ends the process. -/
def Phase.ofResult (W : WaitCalls τ) (options : EndpointConfig τ) :
    Except PyError (Phase τ) → Option (Phase τ)
  | .ok phase => some phase
  | .error e => if e.isOSError ∧ W.sleep options.reconnectDelay = none then some .apart else none

end run

/-- The phase after a session comes from a result of the step or from an `OSError`. -/
theorem Phase.ofResult_eq_some {W : WaitCalls τ} {options : EndpointConfig τ}
    {r : Except PyError (Phase τ)} {phase : Phase τ} :
    Phase.ofResult W options r = some phase ↔ r = .ok phase ∨
      phase = .apart ∧ W.sleep options.reconnectDelay = none ∧
        ∃ e, r = .error e ∧ e.isOSError = true := by
  rcases r with e | phase'
  · unfold Phase.ofResult
    constructor
    · intro h
      by_cases he : e.isOSError ∧ W.sleep options.reconnectDelay = none
      · simp only [if_pos he] at h
        exact Or.inr ⟨(Option.some.inj h).symm, he.2, e, rfl, he.1⟩
      · simp only [if_neg he] at h
        cases h
    · rintro (h | ⟨rfl, hsleep, e', h, he⟩)
      · cases h
      · obtain rfl := Except.error.inj h
        exact if_pos ⟨he, hsleep⟩
  · constructor
    · intro h
      exact Or.inl (congrArg Except.ok (Option.some.inj h))
    · rintro (h | ⟨-, -, e, h, -⟩)
      · exact congrArg some (Except.ok.inj h)
      · cases h

end phases

/-! ## What holds of a process that waits -/

/-- The engine of an established session. -/
structure TunnelEngine.InSession {τ : Type} (P : Primitives) (options : EndpointConfig τ)
    (role : EndpointRole) (packetsPerKey : ℕ) (engine : TunnelEngine τ) : Prop where
  uses : ∃ secret sessionId, engine.UsesSome P secret sessionId role packetsPerKey
  remote : engine.remoteAddress = options.peer
  interval : engine.keepaliveInterval = options.keepaliveInterval
  timeout : engine.livenessTimeout = options.livenessTimeout

/-- A hello was created with the static keys, and an engine has a cipher of its session. -/
def Phase.Sound {τ : Type} (P : Primitives) (options : EndpointConfig τ)
    (privateKey peerKey : Bytes) (role : EndpointRole) (packetsPerKey : ℕ) : Phase τ → Prop
  | .apart => True
  | .helloSent hello state _ => role = .client ∧
      ∃ entropy, createClientHello P privateKey peerKey entropy = .ok (hello, state)
  | .awaitingHello _ => role = .server
  | .running engine => engine.InSession P options role packetsPerKey

/-- The engine of a running process last received at such a time. -/
def Phase.Received {τ : Type} (Q : τ → Prop) (phase : Phase τ) : Prop :=
  ∀ engine, phase = .running engine → Q engine.lastAuthenticatedReceive

section sound

variable {τ : Type} {P : Primitives} {W : WaitCalls τ} {options : EndpointConfig τ}
  {privateKey peerKey : Bytes} {role : EndpointRole} {packetsPerKey : ℕ} {Q : τ → Prop}

/-- The time of the last receive after a datagram. -/
theorem TunnelEngine.ReceiveEnds.now_of {secret : Bytes} {engine : TunnelEngine τ} {data : Bytes}
    {source : Address} {input : IterationInput τ} {calls : List CryptoCall}
    {r : Except PyError Bool} {window : ReplayWindow} {now : τ} {t : List (Effect τ)}
    (h : TunnelEngine.ReceiveEnds P secret role packetsPerKey engine data source input calls r
      window now t) (hreceived : Q engine.lastAuthenticatedReceive)
    (hclock : Q input.receiveClock) : Q now := by
  cases h with
  | dropped _ => exact hreceived
  | accepted packet _ _ _ => exact hclock

/-- Another cipher of the session, counter, replay window and times of the engine. -/
theorem TunnelEngine.InSession.withCipher {engine : TunnelEngine τ}
    (h : engine.InSession P options role packetsPerKey) {log : List HkdfCall} {secret : Bytes}
    {sessionId : ℕ} (hid : engine.sessionId = sessionId) (hlt : sessionId < 2 ^ 32) {c : Cipher}
    (hc : c.DerivedFrom P log secret sessionId role packetsPerKey) (n : ℕ)
    (window : ReplayWindow) (now : τ) :
    ((engine.withCipher c n).authenticated window now).InSession P options role packetsPerKey :=
  ⟨⟨secret, sessionId, log, ⟨c, rfl, hc⟩, hid, hlt⟩, h.remote, h.interval, h.timeout⟩

/-- A send keeps the engine in its session, and the time of its last receive. -/
theorem sendPacket_inSession (hA : P.LawfulAead) (hH : P.LawfulHkdf)
    (messageType : MessageType) (payload : Bytes) (failure : Option PyError) :
    Preserves (fun engine _ => engine.InSession P options role packetsPerKey ∧
        Q engine.lastAuthenticatedReceive)
      (fun _ _ => True)
      (TunnelEngine.sendPacket P messageType payload failure :
        Program PyError (Effect τ) (TunnelEngine τ) Unit) := by
  rintro engine s ⟨h, hreceived⟩
  obtain ⟨secret, sessionId, log, huses⟩ := h.uses
  refine wp_mono (TunnelEngine.sendPacket_spec hA hH huses messageType payload failure) ?_
  rintro r engine' t ⟨c, n, calls, rfl, hder, -, -⟩
  cases r with
  | error e => trivial
  | ok _ =>
      exact ⟨h.withCipher huses.sessionId_eq huses.sessionId_lt hder n engine.replayWindow
        engine.lastAuthenticatedReceive, hreceived⟩

/-- A received datagram keeps the engine in its session. -/
theorem receiveUdpPacket_inSession (hH : P.LawfulHkdf)
    (arrival : Except PyError (Bytes × Address)) {input : IterationInput τ}
    (hclock : Q input.receiveClock) :
    Preserves (fun engine _ => engine.InSession P options role packetsPerKey ∧
        Q engine.lastAuthenticatedReceive)
      (fun _ _ => True) (TunnelEngine.receiveUdpPacket P arrival input) := by
  rintro engine s ⟨h, hreceived⟩
  rcases arrival with e | ⟨datagram, source⟩
  · refine wp_mono (TunnelEngine.receiveUdpPacket_error e input engine) ?_
    rintro r engine' t ⟨rfl, -⟩
    cases r with
    | error e => trivial
    | ok _ => exact ⟨h, hreceived⟩
  · obtain ⟨secret, sessionId, log, huses⟩ := h.uses
    refine wp_mono (TunnelEngine.receiveUdpPacket_spec hH huses datagram source input) ?_
    rintro r engine' t ⟨c, calls, window, now, rfl, hder, -, hends⟩
    cases r with
    | error e => trivial
    | ok _ =>
      refine ⟨h.withCipher huses.sessionId_eq huses.sessionId_lt hder _ window now, ?_⟩
      exact hends.now_of hreceived hclock

/-- A cipher derived for the session id that comes with it. -/
def Established (P : Primitives) (role : EndpointRole) (packetsPerKey : ℕ)
    (session : ℤ × Cipher) : Prop :=
  ∃ (secret : Bytes) (sessionId : ℕ) (log : List HkdfCall), session.1 = sessionId ∧
    sessionId < 2 ^ 32 ∧ session.2.DerivedFrom P log secret sessionId role packetsPerKey

/-- **The client's handshake establishes a session** with the response that it receives. -/
theorem clientReceive_spec (hH : P.LawfulHkdf) (remoteAddress : Address)
    (state : ClientHandshakeState) (packetsPerKey : ℕ)
    (arrival : Except PyError (Bytes × Address)) :
    wp (clientReceive P remoteAddress state packetsPerKey arrival :
      Program PyError (SessionEffect τ) Unit _) () fun r _ _ =>
        ∀ session, r = .ok (some session) → Established P .client packetsPerKey session ∧
          ∃ datagram source response, arrival = .ok (datagram, source) ∧
            Packet.decode (datagram.take maxUdpDatagramSize) = .ok response ∧
            response.messageType = .serverHello := by
  unfold clientReceive
  rw [wp_bind, wp_attempt, wp_lift]
  refine wp_mono (transportReceive_hears arrival ()) ?_
  rintro r ⟨⟩ t ⟨-, hreceived⟩
  rcases r with e | ⟨response, sender⟩
  · simp only
    by_cases hretry : retriesReceive e
    · rw [if_pos hretry]
      exact nofun
    · rw [if_neg hretry]
      exact nofun
  simp only
  by_cases hsender : sender ≠ remoteAddress
  · rw [if_pos hsender]
    exact nofun
  rw [if_neg hsender]
  cases hfinish : finishClientHandshake P state response with
  | error e =>
      simp only
      by_cases hvalue : e.isValueError
      · rw [if_pos hvalue]
        exact nofun
      · rw [if_neg hvalue]
        exact nofun
  | ok secret =>
      obtain ⟨htype, -, -, -, hlt, _, -, -, hderive⟩ := finishClientHandshake_ok hfinish
      have hlength := length_of_deriveSessionSecret hH hderive
      simp only
      rw [wp_emit_bind, wp_bind_pure]
      refine wp_mono (sessionCipher_spec hH hlength.ge hlt .client packetsPerKey) ?_
      rintro r ⟨⟩ t' ⟨-, -, c, rfl, hder⟩ session hsession
      obtain rfl := Option.some.inj (Except.ok.inj hsession)
      obtain ⟨datagram, harrival, hdecode⟩ := (hreceived response sender).1 rfl
      exact ⟨⟨secret, state.sessionId, _, rfl, hlt, hder⟩, datagram, sender, response, harrival,
        hdecode, htype⟩

/-- **The server's handshake establishes a session** with the hello that it receives. -/
theorem serverAttempt_spec (hH : P.LawfulHkdf) (remoteAddress : Address)
    (privateKey peerKey : Bytes) (packetsPerKey : ℕ) (input : AttemptInput) :
    wp (serverAttempt P remoteAddress privateKey peerKey packetsPerKey input :
      Program PyError (SessionEffect τ) Unit _) () fun r _ _ =>
        ∀ session, r = .ok (some session) → Established P .server packetsPerKey session ∧
          ∃ datagram source hello, input.arrival = .ok (datagram, source) ∧
            Packet.decode (datagram.take maxUdpDatagramSize) = .ok hello ∧
            hello.messageType = .clientHello := by
  refine wp_mono (serverAttempt_cases hH remoteAddress privateKey peerKey packetsPerKey input) ?_
  rintro r ⟨⟩ t hends session hsession
  cases hends with
  | unanswered _ _ hr _ _ _ => exact absurd hsession (hr session)
  | refused _ _ _ _ _ _ _ _ _ _ => cases hsession
  | established hello response secret cipher _ hears haccept _ _ _ hder =>
    obtain rfl := Option.some.inj (Except.ok.inj hsession)
    obtain ⟨htype, -, -, hlt, -⟩ := acceptClientHello_ok haccept
    obtain ⟨datagram, harrival, hdecode⟩ := hears
    exact ⟨⟨secret, hello.sessionId, _, rfl, hlt, hder⟩, datagram, remoteAddress, hello, harrival,
      hdecode, htype⟩

/-- After the next hello the client waits again. -/
theorem sendHello_returns (hello : Packet) (state : ClientHandshakeState)
    (failure : Option PyError) (attempts : ℕ) :
    wp (sendHello options hello state failure attempts) () fun r _ _ =>
      ∀ phase, r = .ok phase → ∃ left, phase = .helloSent hello state left := by
  cases attempts with
  | zero => exact fun _ h => by cases h
  | succ attempts =>
      unfold sendHello
      rw [wp_bind_pure, wp]
      rcases (lift SessionEffect.effect (transportSend hello hello options.peer failure) () :
        Outcome PyError (SessionEffect τ) Unit _).result with e | _
      · exact fun _ h => by cases h
      · intro phase hphase
        exact ⟨attempts, (Except.ok.inj hphase).symm⟩

/-- In the next attempt the server waits again. -/
theorem awaitHello_returns (attempts : ℕ) :
    wp (awaitHello attempts : Program PyError (SessionEffect τ) Unit _) () fun r _ _ =>
      ∀ phase, r = .ok phase → ∃ left, phase = .awaitingHello left := by
  cases attempts with
  | zero => exact fun _ h => by cases h
  | succ attempts =>
      intro phase hphase
      exact ⟨attempts, (Except.ok.inj hphase).symm⟩

/-- A hello that is sent again is sound as before. -/
theorem sendHello_sound {hello : Packet} {state : ClientHandshakeState} (hrole : role = .client)
    (h : ∃ entropy, createClientHello P privateKey peerKey entropy = .ok (hello, state))
    (failure : Option PyError) (attempts : ℕ) :
    wp (sendHello options hello state failure attempts) () fun r _ _ => ∀ phase, r = .ok phase →
      phase.Sound P options privateKey peerKey role packetsPerKey ∧ phase.Received Q := by
  refine wp_mono (sendHello_returns hello state failure attempts) ?_
  intro r _ _ hreturns phase hphase
  obtain ⟨left, rfl⟩ := hreturns phase hphase
  exact ⟨⟨hrole, h⟩, nofun⟩

/-- Waiting for a hello is sound. -/
theorem awaitHello_sound (hrole : role = .server) (attempts : ℕ) :
    wp (awaitHello attempts : Program PyError (SessionEffect τ) Unit _) () fun r _ _ =>
      ∀ phase, r = .ok phase →
        phase.Sound P options privateKey peerKey role packetsPerKey ∧ phase.Received Q := by
  refine wp_mono (awaitHello_returns attempts) ?_
  intro r _ _ hreturns phase hphase
  obtain ⟨left, rfl⟩ := hreturns phase hphase
  exact ⟨hrole, nofun⟩

variable [Zero τ] [Add τ] [Sub τ] [LT τ] [LE τ] [DecidableEq τ] [DecidableLT τ] [DecidableLE τ]

omit [Add τ] [LE τ] [DecidableLE τ] in
/-- The engine that waits in `select`. -/
theorem awaitSelect_spec (engine : TunnelEngine τ) (now : τ) :
    wp (awaitSelect W engine now) () fun r _ t => t = [] ∧
      (∀ e, r = .error e → e.isOSError = false) ∧
      ∀ phase, r = .ok phase → phase = .running engine ∧
        (engine.selectTimeout now none).bind W.select = none := by
  unfold awaitSelect
  rw [wp_bind]
  refine wp_mono (refuses_spec _ ()) ?_
  rintro r ⟨⟩ t ⟨-, rfl, hos, hok⟩
  cases r with
  | error e =>
    refine ⟨rfl, fun e' he' => ?_, nofun⟩
    rw [← Except.error.inj he']
    exact hos e rfl
  | ok _ =>
    refine ⟨rfl, nofun, fun phase hphase => ⟨(Except.ok.inj hphase).symm, hok.1 rfl⟩⟩

/-- The engine of an established session is sound. -/
theorem enterTunnel_sound {input : ProcessInput τ} {session : ℤ × Cipher}
    (hclock : Q input.startClock) (h : Established P role packetsPerKey session) :
    wp (enterTunnel W options input session.1 session.2) () fun r _ _ => ∀ phase, r = .ok phase →
      phase.Sound P options privateKey peerKey role packetsPerKey ∧ phase.Received Q := by
  obtain ⟨secret, sessionId, log, hid, hlt, hder⟩ := h
  unfold enterTunnel
  rw [wp_bind, wp_ofExcept]
  cases newTunDevice options.tunName input.tunDevice with
  | error e => exact nofun
  | ok name =>
  simp only
  rw [wp_bind, wp_ofExcept]
  cases configureTun options.mtu input.ipAddress input.ipLink with
  | error e => exact nofun
  | ok _ =>
  simp only
  rw [wp_bind, wp_ofExcept, hid]
  cases hnew : TunnelEngine.new options.peer sessionId (some session.2) options.keepaliveInterval
      options.livenessTimeout input.startClock with
  | error e => exact nofun
  | ok engine =>
      refine wp_mono (awaitSelect_spec engine input.selectClock) ?_
      rintro r ⟨⟩ t ⟨-, -, hruns⟩ phase hphase
      rw [(hruns phase hphase).1, TunnelEngine.new_ok hnew]
      refine ⟨⟨⟨secret, sessionId, log, ⟨session.2, rfl, hder⟩, rfl, hlt⟩, rfl, rfl, rfl⟩, ?_⟩
      exact fun _ h => Phase.running.inj h ▸ hclock

/-- An iteration keeps the engine in its session, and the time of its last receive is the one
before or that of the iteration. -/
theorem runOnce_inSession (hA : P.LawfulAead) (hH : P.LawfulHkdf) {input : IterationInput τ}
    (hclock : Q input.receiveClock) (timeout : Option τ) :
    Preserves (fun engine _ => engine.InSession P options role packetsPerKey ∧
        Q engine.lastAuthenticatedReceive)
      (fun _ _ => True) (TunnelEngine.runOnce P input timeout) := by
  refine TunnelEngine.runOnce_preserves (fun _ _ _ => trivial) input timeout (fun v => ?_)
    (fun payload _ => sendPacket_inSession hA hH .data payload _)
    (sendPacket_inSession hA hH .keepalive [] _)
    (fun arrival _ => receiveUdpPacket_inSession hH arrival hclock) fun f => ?_
  · exact Preserves.emit fun engine t h => h
  · refine Preserves.update fun engine t ⟨h, hreceived⟩ => ⟨?_, hreceived⟩
    obtain ⟨⟨secret, sessionId, log, hcipher, hid, hlt⟩, hremote, hinterval, htimeout⟩ := h
    exact ⟨⟨secret, sessionId, log, hcipher, hid, hlt⟩, hremote, hinterval, htimeout⟩

/-- **What a process does keeps it sound**, whatever the surroundings answer, and the time of its
last receive comes from its clock. -/
theorem Phase.Sound.next (hA : P.LawfulAead) (hH : P.LawfulHkdf) (hrole : options.role = some role)
    (hkey : options.packetsPerKey = packetsPerKey) {phase : Phase τ}
    (h : phase.Sound P options privateKey peerKey role packetsPerKey) (hreceived : phase.Received Q)
    {input : ProcessInput τ} (hstart : Q input.startClock)
    (hclock : Q input.iteration.receiveClock) (datagram : Option (Bytes × Address)) :
    wp (Phase.next P W options privateKey peerKey input datagram phase) () fun r _ _ =>
      ∀ phase', r = .ok phase' →
        phase'.Sound P options privateKey peerKey role packetsPerKey ∧ phase'.Received Q := by
  cases phase with
  | apart =>
      unfold Phase.next
      rw [wp_bind]
      cases input.bindFailure with
      | some e => exact nofun
      | none =>
      refine wp_mono (R := fun r _ _ => r = .ok ()) rfl ?_
      rintro r ⟨⟩ t rfl
      simp only
      rw [wp_bind]
      refine wp_mono (refuses_spec _ ()) ?_
      rintro (e | _) ⟨⟩ t' -
      · exact nofun
      simp only
      cases role with
      | client =>
          rw [if_pos hrole, wp_bind, wp_ofExcept]
          cases hcreate : createClientHello P privateKey peerKey input.entropy with
          | error e => exact nofun
          | ok created => exact sendHello_sound rfl ⟨input.entropy, hcreate⟩ input.sendFailure _
      | server =>
          rw [if_neg (by rw [hrole]; decide)]
          exact awaitHello_sound rfl _
  | helloSent hello state attempts =>
      obtain ⟨rfl, hcreated⟩ := h
      unfold Phase.next
      rw [wp_bind, hkey]
      refine wp_mono (clientReceive_spec hH options.peer state packetsPerKey _) ?_
      -- an error ends the process, without a session it waits again, with one it enters the tunnel
      rintro (e | _ | session) ⟨⟩ t hsession
      · exact nofun
      · exact sendHello_sound rfl hcreated input.sendFailure attempts
      · exact enterTunnel_sound hstart (hsession session rfl).1
  | awaitingHello attempts =>
      obtain rfl : role = .server := h
      unfold Phase.next
      rw [wp_bind, hkey]
      refine wp_mono (serverAttempt_spec hH options.peer privateKey peerKey packetsPerKey _) ?_
      rintro (e | _ | session) ⟨⟩ t hsession
      · exact nofun
      · exact awaitHello_sound rfl attempts
      · exact enterTunnel_sound hstart (hsession session rfl).1
  | running engine =>
      unfold Phase.next
      rw [wp_bind, wp_zoom, wp_bind]
      have hread : Q (input.iterationInput datagram).receiveClock := hclock
      refine wp_mono (runOnce_inSession hA hH hread none engine [] ⟨h, hreceived engine rfl⟩) ?_
      rintro (e | n) engine' t hengine
      · exact nofun
      · simp only
        rw [wp_read]
        refine wp_mono (awaitSelect_spec engine' _) ?_
        rintro r ⟨⟩ t' ⟨-, -, hruns⟩ phase' hphase
        rw [(hruns phase' hphase).1]
        exact ⟨hengine.1, fun _ h => Phase.running.inj h ▸ hengine.2⟩

end sound

end MatfVpn
