/-
# Recovery of the ephemeral protocol

When both profiles enable the liveness timeout, two processes get a working session again from
every state in which they are.  The timers of both end what they are in, and the next handshake
succeeds.

* `Pair.settle` : silence ends the session of a process;
* `Pair.answered`, `Pair.connected` : a handshake without loss;
* `Pair.recoverable` : the way back to a session.
-/
import MatfVpn.ProcessProgress

namespace MatfVpn

open Program Relation

namespace Pair

variable {τ : Type} [AddCommGroup τ] [LinearOrder τ] {P : Primitives}
  {profiles : Profiles τ P} {pair pair' : Pair τ} {role : EndpointRole}

/-! ## Sound pairs -/

omit [AddCommGroup τ] in
/-- The readings of a step are times. -/
theorem Ticks.times {t : τ} {input : ProcessInput (Seconds τ)} (h : Ticks (.finite t) input) :
    (∃ s, input.startClock = .finite s) ∧ (∃ s, input.iteration.receiveClock = .finite s) ∧
      ∃ s, input.iteration.loopClock = .finite s := by
  obtain ⟨s, hs⟩ := Seconds.isFinite_iff.1 h.finite
  have hloop : input.iteration.loopClock ≤ .finite s := hs ▸ h.next
  have hreceive := Seconds.le_trans h.loop hloop
  have hselect := Seconds.le_trans h.receive hreceive
  have hstarted := Seconds.le_trans h.start h.select
  have hreceived := Seconds.le_trans hstarted h.receive
  exact ⟨Seconds.finite_of_le_of_le h.start (Seconds.le_trans h.select hselect),
    Seconds.finite_of_le_of_le hreceived hreceive,
    Seconds.finite_of_le_of_le (Seconds.le_trans hreceived h.loop) hloop⟩

/-- Both processes are sound, their clocks show times, and so do those of their last receives. -/
structure Sound (profiles : Profiles τ P) (pair : Pair τ) : Prop where
  phase : ∀ role, (pair.phase role).Sound P (profiles.options role) (profiles.privateKey role)
    (P.x25519Public (profiles.privateKey role.peer)) role profiles.packetsPerKey
  clock : ∀ role, ∃ t, pair.clock role = .finite t
  received : ∀ role, (pair.phase role).Received fun time => ∃ t, time = .finite t

theorem sound_new (start : EndpointRole → τ) : (new start).Sound profiles :=
  ⟨fun _ => trivial, fun role => ⟨start role, rfl⟩, fun _ => nofun⟩

/-- **A step keeps both processes sound.** -/
theorem Sound.step (hA : P.LawfulAead) (hH : P.LawfulHkdf) (h : pair.Sound profiles)
    {s : PairStep τ} (hstep : pair.step profiles s = some pair') : pair'.Sound profiles := by
  cases s with
  | process who input received =>
      obtain ⟨⟨-, hticks, -⟩, phase, hphase, rfl⟩ := step_process.1 hstep
      obtain ⟨t, ht⟩ := h.clock who
      rw [ht] at hticks
      obtain ⟨hstart, hreceive, -⟩ := hticks.times
      have hnext : phase.Sound P (profiles.options who) (profiles.privateKey who)
          (P.x25519Public (profiles.privateKey who.peer)) who profiles.packetsPerKey ∧
          phase.Received fun time => ∃ t, time = .finite t := by
        rcases Phase.ofResult_eq_some.1 hphase with hok | ⟨rfl, -⟩
        · exact (h.phase who).next hA hH (profiles.role_eq who) (profiles.packetsPerKey_eq who)
            (h.received who) hstart hreceive _ phase hok
        · exact ⟨trivial, nofun⟩
      refine ⟨fun role => ?_, fun role => ?_, fun role => ?_⟩
      all_goals by_cases hrole : role = who
      · subst hrole
        rw [after_phase_self]
        exact hnext.1
      · rw [after_phase_of_ne hrole]
        exact h.phase role
      · subst hrole
        rw [after_clock_self]
        exact Seconds.isFinite_iff.1 hticks.finite
      · rw [after_clock_of_ne hrole]
        exact h.clock role
      · subst hrole
        rw [after_phase_self]
        exact hnext.2
      · rw [after_phase_of_ne hrole]
        exact h.received role
  | unheard who i =>
      obtain ⟨-, rfl⟩ := step_unheard.1 hstep
      exact ⟨h.phase, h.clock, h.received⟩
  | lost who i =>
      obtain rfl := Option.some.inj hstep
      exact ⟨h.phase, h.clock, h.received⟩

theorem Sound.reachable (hA : P.LawfulAead) (hH : P.LawfulHkdf)
    (h : pair.Reachable profiles) : pair.Sound profiles := by
  obtain ⟨start, hrun⟩ := h
  induction hrun with
  | refl => exact sound_new start
  | tail _ hstep ih =>
      obtain ⟨s, hs⟩ := hstep
      exact ih.step hA hH hs

theorem Sound.continues (hA : P.LawfulAead) (hH : P.LawfulHkdf) (h : pair.Sound profiles)
    (hrun : Continues profiles pair pair') : pair'.Sound profiles := by
  induction hrun with
  | refl => exact h
  | tail _ hstep ih =>
      obtain ⟨s, -, hs⟩ := hstep
      exact ih.step hA hH hs

/-! ## The way back -/

/-- A process goes on in silent surroundings. -/
theorem step_quiet {t s : τ} (ht : pair.clock role = .finite t) (hs : t ≤ s)
    (received : Option ℕ) {phase : Phase (Seconds τ)}
    (hreceived : ∀ i ∈ received, i < (pair.toEnd role).length ∧ (pair.phase role).isBound)
    (hwaits : Waits (.finite t) (.quiet (.finite t) (.finite s)) received (pair.phase role))
    (hphase : pair.phase? profiles role (.quiet (.finite t) (.finite s)) received = some phase) :
    Continues profiles pair
      (pair.after profiles role (.quiet (.finite t) (.finite s)) received phase) := by
  refine ReflTransGen.single ⟨.process role (.quiet (.finite t) (.finite s)) received,
    ProcessInput.quiet_healthy _ _, ?_⟩
  have hrefl : ∀ t : τ, Seconds.finite t ≤ .finite t := Seconds.le_refl_finite
  have hticks : Ticks (pair.clock role) (.quiet (.finite t) (.finite s)) := by
    rw [ht]
    exact ⟨hrefl t, hrefl t, hrefl t, Seconds.finite_le_finite.2 hs, hrefl s, rfl⟩
  exact step_process.2 ⟨⟨hreceived, hticks, by rw [ht]; exact hwaits⟩, phase, hphase, rfl⟩

/-- A process outside the engine does not wait for timers of its own. -/
theorem waits_of_ne_running {clock : Seconds τ} {input : ProcessInput (Seconds τ)}
    {received : Option ℕ} {phase : Phase (Seconds τ)}
    (hphase : ∀ engine, phase ≠ .running engine) : Waits clock input received phase := by
  cases phase with
  | running engine => exact absurd rfl (hphase engine)
  | apart => trivial
  | helloSent hello state attempts => trivial
  | awaitingHello attempts => trivial

/-- **A handshake in silence** ends after its attempts. -/
theorem settle_handshake (hA : P.LawfulAead) (hH : P.LawfulHkdf) (hM : P.LawfulHmac)
    (hX : P.LawfulX25519) (h : pair.Sound profiles)
    (hsleep : (profiles.waits role).sleep (profiles.options role).reconnectDelay = none)
    (hphase : ∀ engine, pair.phase role ≠ .running engine) :
    ∃ settled, Continues profiles pair settled ∧
      settled.phase = Function.update pair.phase role .apart := by
  induction hleft : (pair.phase role).attemptsLeft generalizing pair with
  | zero =>
      refine ⟨pair, .refl, (Function.update_eq_self_iff.2 ?_).symm⟩
      exact (Phase.eq_apart_of_attemptsLeft hphase hleft).symm
  | succ n ih =>
      obtain ⟨hbound, hnext, hleft'⟩ := Phase.nextAttempt_of_attemptsLeft hleft
      obtain ⟨t, ht⟩ := h.clock role
      have hstep : Continues profiles pair _ :=
        step_quiet ht le_rfl none nofun (waits_of_ne_running hphase)
          ((h.phase role).quiet_handshake hM hX _ _ hphase hbound hsleep)
      obtain ⟨settled, hsettled, heq⟩ := ih (h.continues hA hH hstep)
        (by rw [after_phase_self]; exact hnext) (by rw [after_phase_self]; exact hleft')
      refine ⟨settled, hstep.trans hsettled, ?_⟩
      rw [heq]
      exact Function.update_idem ..

/-- `select` waits for a time when the liveness timeout is one. -/
theorem exists_selectTimeout {engine : TunnelEngine (Seconds τ)} {liveness received t : τ}
    (hlive : engine.livenessTimeout = .finite liveness)
    (hreceived : engine.lastAuthenticatedReceive = .finite received) :
    ∃ wait, ∀ timeout ∈ engine.selectTimeout (.finite t) none, timeout = .finite wait := by
  have hmax : ∀ x, ∃ y, pyMax 0 (.finite x : Seconds τ) = .finite y := by
    intro x
    unfold pyMax
    split
    · exact ⟨x, rfl⟩
    · exact ⟨0, rfl⟩
  have hmin : ∀ (x : Seconds τ) (y : τ), ∃ z, pyMin (pyMax 0 x) (.finite y) = .finite z := by
    intro x y
    unfold pyMin
    split
    · exact ⟨y, rfl⟩
    · rename_i hnot
      rcases x with _ | (_ | _) | x
      · exact ⟨0, rfl⟩
      · exact absurd rfl hnot
      · exact ⟨0, rfl⟩
      · exact hmax x
  by_cases hinterval : engine.keepaliveInterval = 0
  · refine ⟨0, fun timeout htimeout => ?_⟩
    rw [TunnelEngine.selectTimeout, if_pos hinterval] at htimeout
    cases htimeout
  · rw [TunnelEngine.selectTimeout, if_neg hinterval, hlive, hreceived, Seconds.finite_sub_finite,
      Seconds.finite_sub_finite]
    obtain ⟨y, hy⟩ := hmax (liveness - (t - received))
    obtain ⟨z, hz⟩ := hmin (engine.nextKeepalive - .finite t) y
    refine ⟨z, fun timeout htimeout => ?_⟩
    rw [← Option.some.inj htimeout, hy, hz]

/-- **An engine with liveness in silence** ends by its timeout. -/
theorem settle_running [IsOrderedAddMonoid τ] (hA : P.LawfulAead) (hH : P.LawfulHkdf)
    (h : pair.Sound profiles) {engine : TunnelEngine (Seconds τ)}
    (hphase : pair.phase role = .running engine) (hlive : profiles.Leaves role)
    (hsend : engine.sequenceNumber ≤ maxSequenceNumber) :
    ∃ settled, Continues profiles pair settled ∧
      settled.phase = Function.update pair.phase role .apart ∧
      settled.toEnd role = pair.toEnd role := by
  have hsound := h.phase role
  rw [hphase] at hsound
  obtain ⟨hnumbers, -⟩ := EndpointConfig.validate_ok (profiles.valid role)
  obtain ⟨-, -, htogether⟩ := EndpointConfig.validateNumbers_ok hnumbers
  obtain ⟨t, ht⟩ := h.clock role
  obtain ⟨received, hreceived⟩ := h.received role engine hphase
  obtain ⟨liveness, hliveness⟩ := Seconds.isFinite_iff.1 hlive.finite
  rw [← hsound.timeout] at hliveness
  obtain ⟨wait, hwait⟩ := @exists_selectTimeout τ _ _ engine liveness received t hliveness hreceived
  -- late enough for `select` and for the liveness check
  let later := max (max t (t + wait)) (liveness + received)
  have hwaits : Waits (.finite t) (.quiet (.finite t) (.finite later)) none (pair.phase role) := by
    rw [hphase]
    refine ⟨rfl, fun _ timeout htimeout => ?_⟩
    rw [hwait timeout htimeout]
    exact Seconds.finite_le_finite.2 ((le_max_right t (t + wait)).trans (le_max_left _ _))
  have hlate : engine.livenessTimeout ≤ .finite later - engine.lastAuthenticatedReceive := by
    rw [hliveness, hreceived, Seconds.finite_sub_finite]
    exact Seconds.finite_le_finite.2 (le_sub_iff_add_le.2 (le_max_right _ _))
  have hresult : pair.phase? profiles role (.quiet (.finite t) (.finite later)) none
      = some .apart := by
    unfold phase? outcome
    rw [hphase]
    exact hsound.quiet_running hA hH (htogether.2 hlive.liveness) hsend hlate hlive.sleep
  exact ⟨_, step_quiet ht ((le_max_left t _).trans (le_max_left _ _)) none nofun hwaits hresult,
    rfl, after_toEnd_self⟩

/-- **Silence ends the session of a process** that has the liveness timeout. -/
theorem settle [IsOrderedAddMonoid τ] (hA : P.LawfulAead) (hH : P.LawfulHkdf)
    (hM : P.LawfulHmac) (hX : P.LawfulX25519) (h : pair.Sound profiles) (hsend : pair.CanSend)
    (role : EndpointRole) (hlive : profiles.Leaves role) :
    ∃ settled, Continues profiles pair settled ∧
      settled.phase = Function.update pair.phase role .apart := by
  by_cases hphase : ∃ engine, pair.phase role = .running engine
  · obtain ⟨engine, hengine⟩ := hphase
    obtain ⟨settled, hrun, heq, -⟩ :=
      settle_running hA hH h hengine hlive (hsend role engine hengine)
    exact ⟨settled, hrun, heq⟩
  · exact settle_handshake hA hH hM hX h hlive.sleep fun engine hengine => hphase ⟨engine, hengine⟩

/-- Datagrams that arrive at a process without a socket are gone. -/
theorem clear (hphase : pair.phase role = .apart) :
    Continues profiles pair { pair with toEnd := Function.update pair.toEnd role [] } := by
  induction hlen : (pair.toEnd role).length generalizing pair with
  | zero =>
      rw [List.length_eq_zero_iff] at hlen
      rw [Function.update_eq_self_iff.2 hlen.symm]
      exact .refl
  | succ n ih =>
      have hstep : Continues profiles pair (pair.drop role 0) :=
        ReflTransGen.single ⟨.unheard role 0, trivial,
          step_unheard.2 ⟨by rw [hphase]; rfl, rfl⟩⟩
      have hshorter : ((pair.drop role 0).toEnd role).length = n := by
        show (Function.update pair.toEnd role _ role).length = n
        rw [Function.update_self, remaining, List.length_eraseIdx_of_lt (by omega)]
        omega
      have hrest : Continues profiles (pair.drop role 0) _ := ih hphase hshorter
      refine hstep.trans ?_
      unfold drop at hrest ⊢
      rw [Function.update_idem] at hrest
      exact hrest

/-- Nothing is on its way after everything arrived at processes without sockets. -/
theorem clear_all (profiles : Profiles τ P) (hphase : ∀ role, pair.phase role = .apart) :
    ∃ cleared, Continues profiles pair cleared ∧ (∀ role, cleared.phase role = .apart) ∧
      ∀ role, cleared.toEnd role = [] := by
  have hclient : Continues profiles pair _ := clear (hphase .client)
  have hserver : Continues profiles
    { pair with toEnd := Function.update pair.toEnd .client [] } _ := clear (hphase .server)
  refine ⟨_, hclient.trans hserver, hphase, ?_⟩
  intro role
  cases role <;> rfl

end Pair

/-! ## A new handshake -/

/-- What the two processes exchange in a handshake, and the ciphers that they get. -/
structure Exchange {τ : Type} [AddCommGroup τ] [LinearOrder τ] {P : Primitives}
    (profiles : Profiles τ P) where
  hello : Packet
  state : ClientHandshakeState
  response : Packet
  secret : Bytes
  data : Bytes
  answer : Bytes
  clientCipher : Cipher
  serverCipher : Cipher
  create : createClientHello P (profiles.privateKey .client)
    (P.x25519Public (profiles.privateKey .server)) (ProcessInput.quiet (0 : Seconds τ) 0).entropy
      = .ok (hello, state)
  accept : acceptClientHello P hello (profiles.privateKey .server)
    (P.x25519Public (profiles.privateKey .client))
    (ProcessInput.quiet (0 : Seconds τ) 0).serverEntropy = .ok (response, secret)
  finish : finishClientHandshake P state response = .ok secret
  encode_hello : hello.encode = .ok data
  encode_response : response.encode = .ok answer
  session : hello.sessionId = state.sessionId
  session_lt : state.sessionId < 2 ^ 32
  client : (createCipher P secret state.sessionId .client profiles.packetsPerKey ()).result
    = .ok clientCipher
  server : (createCipher P secret hello.sessionId .server profiles.packetsPerKey ()).result
    = .ok serverCipher
  interoperate : clientCipher.Interoperate P serverCipher

section exchange

variable {τ : Type} [AddCommGroup τ] [LinearOrder τ] {P : Primitives}
  {profiles : Profiles τ P} {pair : Pair τ} {role : EndpointRole}

/-- **A handshake without loss succeeds.** -/
theorem Exchange.nonempty (hA : P.LawfulAead) (hH : P.LawfulHkdf) (hM : P.LawfulHmac)
    (hX : P.LawfulX25519) (hN : P.NonzeroExchange) (profiles : Profiles τ P) :
    Nonempty (Exchange profiles) := by
  obtain ⟨hello, state, response, secret, hcreate, haccept, hfinish, hciphers⟩ :=
    handshake_interoperates hA hH hM hX hN
      (length_of_loadX25519PrivateKey (profiles.privateKey_eq .client))
      (length_of_loadX25519PrivateKey (profiles.privateKey_eq .server))
      (ProcessInput.quiet (0 : Seconds τ) 0).entropy
      (ProcessInput.quiet (0 : Seconds τ) 0).serverEntropy
  obtain ⟨clientCipher, serverCipher, hclient, hserver, hinteroperate⟩ :=
    hciphers profiles.packetsPerKey
  obtain ⟨data, hdata⟩ :=
    Packet.encode_of_encodable (encodable_of_createClientHello hM hX hcreate)
  obtain ⟨answer, hanswer⟩ :=
    Packet.encode_of_encodable (encodable_of_acceptClientHello hM hX haccept)
  obtain ⟨_, _, -, -, hhello, hstate⟩ := createClientHello_ok hcreate
  exact ⟨⟨hello, state, response, secret, data, answer, clientCipher, serverCipher, hcreate,
    haccept, hfinish, hdata, hanswer, by rw [hhello, hstate], by rw [hstate]; exact
    (ProcessInput.quiet (0 : Seconds τ) 0).entropy.sessionId_lt, hclient, hserver, hinteroperate⟩⟩

namespace Pair

/-- A process outside the engine goes on in silent surroundings, and what it sends is on its
way. -/
theorem goes_on {now : τ} (hnow : pair.clock role = .finite now) (received : Option ℕ)
    {phase : Phase (Seconds τ)} {t : List (SessionEffect (Seconds τ))}
    (hreceived : ∀ i ∈ received, i < (pair.toEnd role).length ∧ (pair.phase role).isBound)
    (hphase : ∀ engine, pair.phase role ≠ .running engine)
    (h : pair.outcome profiles role (.quiet (.finite now) (.finite now)) received
      = ⟨.ok phase, (), t⟩) :
    ∃ pair', Continues profiles pair pair' ∧ pair'.phase role = phase ∧
      pair'.phase role.peer = pair.phase role.peer ∧
      pair'.toEnd role = pair.remaining role received ∧
      pair'.toEnd role.peer = pair.toEnd role.peer ++ sentTo (profiles.address role.peer) t := by
  refine ⟨_, step_quiet hnow le_rfl received hreceived (waits_of_ne_running hphase)
    (by rw [phase?, h]; rfl), after_phase_self, after_phase_of_ne role.peer_ne,
    after_toEnd_self, ?_⟩
  rw [after_toEnd_of_ne role.peer_ne, h]

/-- The timeout of `select` right after the engine is built. -/
theorem selectTimeout_newEngine (options : EndpointConfig (Seconds τ)) (sessionId : ℕ)
    (cipher : Cipher) (now : τ) :
    (newEngine options sessionId cipher (.finite now)).selectTimeout (.finite now) none
      = options.firstWait := by
  have hnext : (newEngine options sessionId cipher (.finite now)).nextKeepalive - .finite now
      = options.keepaliveInterval := Seconds.finite_add_sub now options.keepaliveInterval
  have hlive : (newEngine options sessionId cipher (.finite now)).livenessTimeout -
      (.finite now - (newEngine options sessionId cipher (.finite now)).lastAuthenticatedReceive)
        = options.livenessTimeout := Seconds.sub_finite_sub options.livenessTimeout now
  rw [TunnelEngine.selectTimeout, hnext, hlive]
  rfl

/-- **The server answers** the hello of a new session. -/
theorem answered (hA : P.LawfulAead) (hH : P.LawfulHkdf) (e : Exchange profiles)
    (hclient : (profiles.waits .client).settimeout (profiles.options .client).handshakeTimeout
      = none) (hserver : profiles.Enters .server) (h : pair.Sound profiles)
    (hphase : ∀ role, pair.phase role = .apart) (hempty : ∀ role, pair.toEnd role = []) :
    ∃ (answered : Pair τ) (now : τ), Continues profiles pair answered ∧
      answered.phase .client = .helloSent e.hello e.state 2 ∧
      answered.phase .server = .running (newEngine (profiles.options .server) e.hello.sessionId
        e.serverCipher (.finite now)) ∧
      answered.toEnd .client = [e.answer] ∧ answered.toEnd .server = [] := by
  -- the server waits for a hello
  obtain ⟨now, hnow⟩ := h.clock .server
  have hwaits : pair.outcome profiles .server (.quiet (.finite now) (.finite now))
      none = ⟨.ok (.awaitingHello 2), (), []⟩ := by
    unfold outcome
    rw [hphase]
    exact Phase.server_starts (profiles.role_eq .server) hserver.settimeout
  obtain ⟨pair₁, hrun₁, hserver₁, hclient₁, hto₁, hfrom₁⟩ :=
    goes_on hnow none nofun (by rw [hphase]; exact nofun) hwaits
  change pair₁.phase .client = _ at hclient₁
  change pair₁.toEnd .client = _ at hfrom₁
  rw [remaining, hempty] at hto₁
  rw [hempty, sentTo_nil, List.append_nil] at hfrom₁
  rw [hphase] at hclient₁
  -- the client sends its hello
  have h₁ : pair₁.Sound profiles := h.continues hA hH hrun₁
  obtain ⟨now₁, hnow₁⟩ := h₁.clock .client
  have hstarts : pair₁.outcome profiles .client (.quiet (.finite now₁) (.finite now₁)) none
      = ⟨.ok (.helloSent e.hello e.state 2), (),
        [.effect (.send e.hello e.data (profiles.options .client).peer)]⟩ := by
    unfold outcome
    rw [hclient₁]
    exact Phase.client_starts (profiles.role_eq .client) hclient e.create e.encode_hello
  obtain ⟨pair₂, hrun₂, hclient₂, hserver₂, hto₂, hfrom₂⟩ :=
    goes_on hnow₁ none nofun (by rw [hclient₁]; exact nofun) hstarts
  change pair₂.phase .server = pair₁.phase .server at hserver₂
  change pair₂.toEnd .server = pair₁.toEnd .server ++ _ at hfrom₂
  rw [remaining, hfrom₁] at hto₂
  rw [hto₁, profiles.peer_eq .client, sentTo_send] at hfrom₂
  rw [hserver₁] at hserver₂
  -- the server answers
  have hlt : e.hello.sessionId < 2 ^ 32 := by
    rw [e.session]
    exact e.session_lt
  obtain ⟨now₂, hnow₂⟩ := (h₁.continues hA hH hrun₂).clock .server
  obtain ⟨t, hanswers, hsent⟩ := Phase.server_answers (W := profiles.waits .server)
    (.finite now₂) (.finite now₂) (profiles.valid .server) hserver.tunName e.encode_hello e.accept
    e.encode_response hlt (by rw [profiles.packetsPerKey_eq .server]; exact e.server)
    (by rw [selectTimeout_newEngine]; exact hserver.select) 2
  have hdatagram : pair₂.datagram? profiles.address .server (some 0)
      = some (e.data, (profiles.options .server).peer) := by
    unfold datagram?
    rw [hfrom₂, profiles.peer_eq .server]
    rfl
  have houtcome : pair₂.outcome profiles .server (.quiet (.finite now₂) (.finite now₂)) (some 0)
      = ⟨.ok (.running (newEngine (profiles.options .server) e.hello.sessionId e.serverCipher
        (.finite now₂))), (), t⟩ := by
    unfold outcome
    rw [hserver₂, hdatagram]
    exact hanswers
  have hreceived : ∀ i ∈ some 0, i < (pair₂.toEnd .server).length ∧
      (pair₂.phase .server).isBound := by
    intro i hi
    rw [← Option.some.inj hi, hfrom₂, hserver₂]
    exact ⟨Nat.one_pos, rfl⟩
  obtain ⟨pair₃, hrun₃, hserver₃, hclient₃, hto₃, hfrom₃⟩ :=
    goes_on hnow₂ (some 0) hreceived (by rw [hserver₂]; exact nofun) houtcome
  change pair₃.phase .client = pair₂.phase .client at hclient₃
  change pair₃.toEnd .client = pair₂.toEnd .client ++ sentTo (profiles.address .client) t at hfrom₃
  refine ⟨pair₃, _, (hrun₁.trans hrun₂).trans hrun₃, hclient₃.trans hclient₂, hserver₃, ?_, ?_⟩
  · rw [profiles.peer_eq .server] at hsent
    rw [hfrom₃, hto₂]
    exact hsent
  · rw [hto₃, remaining, hfrom₂]
    rfl

/-- **The client finishes** when the answer arrives, and both have a working session. -/
theorem connected (e : Exchange profiles) (hclients : profiles.Enters .client)
    (h : pair.Sound profiles) (hclient : pair.phase .client = .helloSent e.hello e.state 2)
    {started : Seconds τ}
    (hserver : pair.phase .server = .running (newEngine (profiles.options .server)
      e.hello.sessionId e.serverCipher started))
    (hto : pair.toEnd .client = [e.answer]) (hfrom : pair.toEnd .server = []) :
    ∃ (connected : Pair τ) (now : τ), Continues profiles pair connected ∧
      connected.Connected P ∧ (∀ role, connected.toEnd role = []) ∧
      connected.phase .client = .running (newEngine (profiles.options .client)
        e.state.sessionId e.clientCipher (.finite now)) ∧
      connected.phase .server = pair.phase .server := by
  obtain ⟨now, hnow⟩ := h.clock .client
  obtain ⟨t, hfinishes, hsent⟩ := Phase.client_finishes (W := profiles.waits .client)
    (.finite now) (.finite now) (profiles.valid .client) hclients.tunName e.hello e.encode_response
    e.finish e.session_lt (by rw [profiles.packetsPerKey_eq .client]; exact e.client)
    (by rw [selectTimeout_newEngine]; exact hclients.select) 2
  have hdatagram : pair.datagram? profiles.address .client (some 0)
      = some (e.answer, (profiles.options .client).peer) := by
    unfold datagram?
    rw [hto, profiles.peer_eq .client]
    rfl
  have houtcome : pair.outcome profiles .client (.quiet (.finite now) (.finite now)) (some 0)
      = ⟨.ok (.running (newEngine (profiles.options .client) e.state.sessionId e.clientCipher
        (.finite now))), (), t⟩ := by
    unfold outcome
    rw [hclient, hdatagram]
    exact hfinishes
  have hreceived : ∀ i ∈ some 0, i < (pair.toEnd .client).length ∧
      (pair.phase .client).isBound := by
    intro i hi
    rw [← Option.some.inj hi, hto, hclient]
    exact ⟨Nat.one_pos, rfl⟩
  obtain ⟨pair', hrun, hclient', hserver', hto', hfrom'⟩ :=
    goes_on hnow (some 0) hreceived (by rw [hclient]; exact nofun) houtcome
  change pair'.phase .server = pair.phase .server at hserver'
  change pair'.toEnd .server = pair.toEnd .server ++ sentTo (profiles.address .server) t at hfrom'
  refine ⟨pair', _, hrun, ⟨?_⟩, ?_, hclient', hserver'⟩
  · exact ⟨_, _, e.clientCipher, e.serverCipher, hclient', hserver'.trans hserver,
      e.session.symm, rfl, rfl, e.interoperate⟩
  · intro role
    cases role with
    | client =>
        rw [hto', remaining, hto]
        rfl
    | server =>
        rw [profiles.peer_eq .client] at hsent
        rw [hfrom', hfrom]
        exact hsent

/-! ## The way back to a session -/

/-- **With liveness on both sides every state recovers**: the timers of both processes fire, and
the next handshake succeeds. -/
theorem recoverable [IsOrderedAddMonoid τ] (hA : P.LawfulAead) (hH : P.LawfulHkdf)
    (hM : P.LawfulHmac) (hX : P.LawfulX25519) (hN : P.NonzeroExchange)
    (hleaves : ∀ role, profiles.Leaves role) (henters : ∀ role, profiles.Enters role)
    (h : pair.Sound profiles) (hsend : pair.CanSend) : pair.Recoverable profiles := by
  obtain ⟨e⟩ := Exchange.nonempty hA hH hM hX hN profiles
  let start : Pair τ := { pair with toEnd := fun _ => [] }
  refine ⟨fun _ => [], fun role => List.nil_sublist _, ?_⟩
  have hstart : start.Sound profiles := ⟨h.phase, h.clock, h.received⟩
  -- first the timers of the client, then the ones of the server
  obtain ⟨pair₁, hrun₁, heq₁⟩ := settle hA hH hM hX hstart hsend .client (hleaves .client)
  have hsend₁ : pair₁.CanSend := by
    intro role engine hengine
    rw [heq₁] at hengine
    by_cases hrole : role = .client
    · subst hrole
      rw [Function.update_self] at hengine
      cases hengine
    · rw [Function.update_of_ne hrole] at hengine
      exact hsend role engine hengine
  have h₁ : pair₁.Sound profiles := hstart.continues hA hH hrun₁
  obtain ⟨pair₂, hrun₂, heq₂⟩ :=
    settle hA hH hM hX h₁ hsend₁ .server (hleaves .server)
  have hphase₂ : ∀ role, pair₂.phase role = .apart := by
    intro role
    rw [heq₂, heq₁]
    cases role <;> rfl
  -- what they sent arrives when nobody listens
  obtain ⟨pair₃, hrun₃, hphase₃, hempty₃⟩ := clear_all profiles hphase₂
  -- the next handshake
  have h₃ : pair₃.Sound profiles := (h₁.continues hA hH hrun₂).continues hA hH hrun₃
  obtain ⟨pair₄, now, hrun₄, hclient, hserver, hto, hfrom⟩ :=
    answered hA hH e (henters .client).settimeout (henters .server) h₃ hphase₃ hempty₃
  obtain ⟨reached, now', hrun₅, hconnected, hempty, -⟩ :=
    connected e (henters .client) (h₃.continues hA hH hrun₄) hclient hserver hto hfrom
  exact ⟨reached, (((hrun₁.trans hrun₂).trans hrun₃).trans hrun₄).trans hrun₅, hconnected,
    hempty⟩

end Pair

end exchange

end MatfVpn
